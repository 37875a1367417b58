/-
  DocSite.Data.Value

  Structured data as files hold it, whatever the notation, and the reading of
  records from it.
-/
namespace DocSite

/-- A value of structured data. -/
inductive Value where
  | null
  | boolean (b : Bool)
  | integer (n : Int)
  | text (s : String)
  | list (elements : List Value)
  /-- Named values in the order in which they are written. A name may occur more
      than once. -/
  | record (members : List (String × Value))
  /-- A value of another kind as it is written: a number with a fraction or an
      exponent, a date, or a string that stands for no text. -/
  | literal (written : String)
  deriving Inhabited

namespace Value

/-! ## Size -/

mutual

/-- The number of values inside a value, itself included. -/
def size : Value → Nat
  | .list elements => 1 + sizeAll elements
  | .record members => 1 + sizeMembers members
  | _ => 1

/-- The number of values inside values. -/
def sizeAll : List Value → Nat
  | [] => 0
  | value :: rest => value.size + sizeAll rest

/-- The number of values inside the members of a record. -/
def sizeMembers : List (String × Value) → Nat
  | [] => 0
  | (_, value) :: rest => value.size + sizeMembers rest

end

/-! ## Scalars -/

/-- A truth value. -/
def asBoolean? : Value → Option Bool
  | .boolean b => some b
  | _ => none

/-- An integer between two bounds. -/
def asInteger? (lo hi : Int) : Value → Option Int
  | .integer n => if lo ≤ n ∧ n ≤ hi then some n else none
  | _ => none

/-- A text. -/
def asText? : Value → Option String
  | .text s => some s
  | _ => none

/-- A list whose elements are read one by one. -/
def asList? {α : Type} (read : Value → Option α) : Value → Option (List α)
  | .list elements => elements.mapM read
  | _ => none

/-- A value that may be null. -/
def asNullable? {α : Type} (read : Value → Option α) : Value → Option (Option α)
  | .null => some none
  | value => (read value).map some

/-! ## Records -/

/-- The fields of a record by their names. A record gives them by name, in any
    order and each at most once, and what has another name counts for nothing. A
    list gives them in order; where `exact` holds it is no longer than the names
    are. -/
def fields? (exact : Bool) (names : List String) : Value → Option (List (String × Value))
  | .record members =>
    let known := members.filter fun m => names.contains m.1
    if (known.map Prod.fst).Nodup then some known else none
  | .list elements =>
    if exact && names.length < elements.length then none else some (names.zip elements)
  | _ => none

end Value

/-- Reads a field, or takes the default where it is missing. -/
def fieldOr {α : Type} (fields : List (String × Value)) (name : String) (default : α)
    (read : Value → Option α) : Option α :=
  match fields.lookup name with
  | some value => read value
  | none => some default

/-- Reads a field that must be there. -/
def fieldOf? {α : Type} (fields : List (String × Value)) (name : String)
    (read : Value → Option α) : Option α :=
  (fields.lookup name).bind read

end DocSite
