/-
  DocSite.Json.Read

  Reading JSON text. The whole text must be one value with white space around
  it. A string in which half of a surrogate pair stands alone is well formed but
  stands for no text, and so is a record with such a name: both are kept as they
  are written.
-/
import DocSite.Data.Value
import DocSite.Html.Entity
import DocSite.Text.Decimal

namespace DocSite.Json

open DocSite.Text

/-! ## White space -/

/-- White space between tokens. -/
def isSpace (c : Char) : Bool := c == ' ' || c == '\t' || c == '\n' || c == '\r'

/-- Drops white space at the start. -/
def skipSpace (s : List Char) : List Char := s.dropWhile isSpace

/-! ## Strings -/

/-- An element of a string: a character, or a UTF-16 code unit by its number. -/
inductive StringUnit where
  | char (c : Char)
  | unit (n : Nat)
  deriving Repr, DecidableEq

/-- The character that an escape of one letter stands for. -/
def escaped? : Char → Option Char
  | '"' => some '"'
  | '\\' => some '\\'
  | '/' => some '/'
  | 'b' => some '\x08'
  | 'f' => some '\x0c'
  | 'n' => some '\n'
  | 'r' => some '\r'
  | 't' => some '\t'
  | _ => none

/-- The elements of a string up to its closing quote, and what follows it.
    Control characters must be escaped. -/
def readUnits : List Char → Option (List StringUnit × List Char)
  | [] => none
  | '"' :: rest => some ([], rest)
  | '\\' :: 'u' :: a :: b :: c :: d :: rest =>
    (Html.readHex? [a, b, c, d]).bind fun n =>
      (readUnits rest).map fun p => (.unit n :: p.1, p.2)
  | '\\' :: c :: rest =>
    (escaped? c).bind fun c => (readUnits rest).map fun p => (.char c :: p.1, p.2)
  | c :: rest =>
    if c.toNat < 32 || c == '\\' then none
    else (readUnits rest).map fun p => (.char c :: p.1, p.2)

/-- The characters of a string, unless half of a surrogate pair stands alone in
    it. -/
def joinUnits : List StringUnit → Option (List Char)
  | [] => some []
  | .char c :: rest => (joinUnits rest).map (c :: ·)
  | .unit n :: rest =>
    if n < 0xD800 || 0xDFFF < n then (joinUnits rest).map (Char.ofNat n :: ·)
    else
      match rest with
      | .unit m :: rest =>
        if n < 0xDC00 && 0xDC00 ≤ m && m ≤ 0xDFFF then
          (joinUnits rest).map (Char.ofNat (0x10000 + (n - 0xD800) * 0x400 + (m - 0xDC00)) :: ·)
        else none
      | _ => none

/-! ## Numbers -/

/-- A run of digits and what follows it. -/
def digitRun (s : List Char) : List Char × List Char := s.span Char.isDigit

/-- The length of a fraction at the start of a text. A dot needs digits. -/
def fractionLength? : List Char → Option Nat
  | '.' :: rest =>
    let digits := (digitRun rest).1
    if digits.isEmpty then none else some (digits.length + 1)
  | _ => some 0

/-- The length of an exponent at the start of a text. Its mark needs digits. -/
def exponentLength? : List Char → Option Nat
  | c :: rest =>
    if c == 'e' || c == 'E' then
      let sign := (rest.takeWhile fun c => c == '+' || c == '-').take 1
      let digits := (digitRun (rest.drop sign.length)).1
      if digits.isEmpty then none else some (sign.length + digits.length + 1)
    else some 0
  | [] => some 0

/-- The number without its sign, and what follows it. More than one digit does not
    start with a zero. -/
def readUnsigned? (negative : Bool) (s : List Char) : Option (Value × List Char) :=
  let (digits, rest) := digitRun s
  if digits.isEmpty || (digits.head? == some '0' && 1 < digits.length) then none
  else
    (fractionLength? rest).bind fun fraction =>
      (exponentLength? (rest.drop fraction)).map fun exponent =>
        let n := digitsValue digits
        -- Minus zero is no integer.
        if fraction + exponent = 0 && !(negative && n == 0) then
          (.integer (if negative then -n else n), rest)
        else
          let text := digits ++ rest.take (fraction + exponent)
          (.literal (String.ofList (if negative then '-' :: text else text)),
            rest.drop (fraction + exponent))

/-- A number and what follows it. -/
def readNumber? : List Char → Option (Value × List Char)
  | '-' :: rest => readUnsigned? true rest
  | s => readUnsigned? false s

/-! ## Values -/

/-- What stands in a text before one of its ends. -/
def written (s rest : List Char) : Value :=
  .literal (String.ofList (s.take (s.length - rest.length)))

/-- A string and what follows it, given what follows its opening quote. -/
def readText? (s : List Char) : Option (Value × List Char) :=
  (readUnits s).map fun (units, rest) =>
    match joinUnits units with
    | some text => (.text (String.ofList text), rest)
    | none => (written ('"' :: s) rest, rest)

/-- A word and what follows it, or else a number. -/
def readWord? (s : List Char) : Option (Value × List Char) :=
  match s with
  | 'n' :: 'u' :: 'l' :: 'l' :: rest => some (.null, rest)
  | 't' :: 'r' :: 'u' :: 'e' :: rest => some (.boolean true, rest)
  | 'f' :: 'a' :: 'l' :: 's' :: 'e' :: rest => some (.boolean false, rest)
  | _ => readNumber? s

mutual

/-- A value and what follows it. The fuel bounds the number of values and of
    levels. -/
def readValue? : Nat → List Char → Option (Value × List Char)
  | 0, _ => none
  | fuel + 1, s =>
    match skipSpace s with
    | '"' :: rest => readText? rest
    | '[' :: rest =>
      match skipSpace rest with
      | ']' :: rest => some (.list [], rest)
      | rest => (readElements? fuel rest).map fun p => (.list p.1, p.2)
    | '\x7b' :: rest =>
      match skipSpace rest with
      | '\x7d' :: after => some (.record [], after)
      | _ =>
        (readMembers? fuel rest).map fun (members, after) =>
          match members with
          | some members => (.record members, after)
          | none => (written ('\x7b' :: rest) after, after)
    | s => readWord? s

/-- The elements of a list that has some, and what follows its closing bracket. -/
def readElements? : Nat → List Char → Option (List Value × List Char)
  | 0, _ => none
  | fuel + 1, s =>
    (readValue? fuel s).bind fun (element, rest) =>
      match skipSpace rest with
      | ',' :: rest => (readElements? fuel rest).map fun p => (element :: p.1, p.2)
      | ']' :: rest => some ([element], rest)
      | _ => none

/-- The members of a record that has some, and what follows its closing brace.
    There are none where a name stands for no text. -/
def readMembers? : Nat → List Char → Option (Option (List (String × Value)) × List Char)
  | 0, _ => none
  | fuel + 1, s =>
    match skipSpace s with
    | '"' :: rest =>
      (readUnits rest).bind fun (units, rest) =>
        match skipSpace rest with
        | ':' :: rest =>
          (readValue? fuel rest).bind fun (value, rest) =>
            let member := (joinUnits units).map fun name => (String.ofList name, value)
            match skipSpace rest with
            | ',' :: rest =>
              (readMembers? fuel rest).map fun (more, rest) =>
                (member.bind fun m => more.map (m :: ·), rest)
            | '\x7d' :: rest => some (member.map ([·]), rest)
            | _ => none
        | _ => none
    | _ => none

end

/-- The value of a JSON text. -/
def read? (s : List Char) : Option Value :=
  match readValue? (s.length + 1) s with
  | some (value, rest) => if (skipSpace rest).isEmpty then some value else none
  | none => none

end DocSite.Json
