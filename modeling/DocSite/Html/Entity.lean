/-
  DocSite.Html.Entity

  Character references: `&name;`, `&#10;` and `&#xA;`. What stands for no
  character is left as it is.
-/
import DocSite.Html.EntityNames
import DocSite.Text.Decimal

namespace DocSite.Html

open DocSite.Text

/-- The value of a hexadecimal digit. -/
def hexDigitValue? (c : Char) : Option Nat :=
  if c.isDigit then some (c.toNat - 48)
  else if 'a' ≤ c ∧ c ≤ 'f' then some (c.toNat - 87)
  else if 'A' ≤ c ∧ c ≤ 'F' then some (c.toNat - 55)
  else none

/-- Reads a non-empty run of hexadecimal digits. -/
def readHex? (s : List Char) : Option Nat :=
  if s.isEmpty then none
  else s.foldlM (fun n c => (hexDigitValue? c).map (16 * n + ·)) 0

/-- The characters a named reference stands for. -/
def namedReference? (name : List Char) : Option (List Char) :=
  (entityNames.lookup (String.ofList name)).map (List.map Char.ofNat)

/-- Whether a numeric reference may stand for the code point: a scalar value
    that is not a control character below the space, line and tab controls
    apart. -/
def isReferable (n : Nat) : Bool :=
  n.isValidChar && (32 ≤ n || n == 9 || n == 10 || n == 13)

/-- The character a numeric reference stands for, given what follows the `#`. -/
def numericReference? (digits : List Char) : Option (List Char) :=
  let code? :=
    match digits with
    | 'x' :: hex => readHex? hex
    | 'X' :: hex => readHex? hex
    | _ => readDecimal? digits
  code?.bind fun n => if isReferable n then some [Char.ofNat n] else none

/-- The characters of the reference with the given text between `&` and `;`. -/
def reference? : List Char → Option (List Char)
  | '#' :: digits => numericReference? digits
  | name => namedReference? name

/-- The text up to the next `;`, and what follows it, when no `&` comes first. -/
def untilSemicolon : List Char → Option (List Char × List Char)
  | [] => none
  | ';' :: rest => some ([], rest)
  | '&' :: _ => none
  | c :: rest => (untilSemicolon rest).map fun p => (c :: p.1, p.2)

theorem length_untilSemicolon {s body after : List Char}
    (h : untilSemicolon s = some (body, after)) : after.length < s.length := by
  induction s generalizing body with
  | nil => simp [untilSemicolon] at h
  | cons c rest ih =>
    unfold untilSemicolon at h
    split at h
    · simp at h
    · next heq =>
      simp only [List.cons.injEq] at heq
      simp only [Option.some.injEq, Prod.mk.injEq] at h
      simp [heq.2, h.2]
    · simp at h
    · next heq =>
      simp only [List.cons.injEq] at heq
      obtain ⟨_, rfl⟩ := heq
      simp only [Option.map_eq_some_iff, Prod.mk.injEq] at h
      obtain ⟨⟨b, a⟩, hp, _, rfl⟩ := h
      exact Nat.lt_succ_of_lt (ih hp)

/-- Replaces every character reference by what it stands for. -/
def decodeReferences : List Char → List Char
  | [] => []
  | '&' :: rest =>
    match h : untilSemicolon rest with
    | some (body, after) =>
      match reference? body with
      | some chars =>
        have := length_untilSemicolon h
        chars ++ decodeReferences after
      | none => '&' :: decodeReferences rest
    | none => '&' :: decodeReferences rest
  | c :: rest => c :: decodeReferences rest
termination_by s => s.length
decreasing_by all_goals simp_all <;> omega

/-- The text of the reference `&name;`, which is the reference itself when it
    stands for nothing. -/
def resolveEntity (name : List Char) : List Char := decodeReferences ('&' :: (name ++ [';']))

end DocSite.Html
