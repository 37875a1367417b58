/-
  DocSite.Html.Escape

  Text that stands in HTML: between tags, inside a double-quoted attribute, and
  hidden from harvesters as decimal character references.
-/
import DocSite.Text.Decimal

namespace DocSite.Html

open DocSite.Text

/-! ## Between tags -/

/-- One character between tags. -/
def escapeTextChar (c : Char) : List Char :=
  match c with
  | '&' => ['&', 'a', 'm', 'p', ';']
  | '<' => ['&', 'l', 't', ';']
  | '>' => ['&', 'g', 't', ';']
  | c => [c]

/-- Text between tags: `&`, `<` and `>` are written as references. -/
def escapeText (s : List Char) : List Char := s.flatMap escapeTextChar

@[simp] theorem escapeText_nil : escapeText [] = [] := rfl

@[simp] theorem escapeText_append (s t : List Char) :
    escapeText (s ++ t) = escapeText s ++ escapeText t := by
  simp [escapeText]

/-! ## Inside attributes -/

/-- ASCII letters and digits, the characters of a reference's name. -/
def isReferenceChar (c : Char) : Bool := c.isAlphanum

/-- Whether a run of reference characters that ends in `;` comes next, when
    `seen` tells if the run has begun. -/
def closesReference (seen : Bool) : List Char → Bool
  | [] => false
  | c :: rest => if isReferenceChar c then closesReference true rest else seen && c == ';'

/-- Whether the text after an `&` completes a character reference: an optional
    `#`, at least one ASCII letter or digit, and `;`. -/
def completesReference : List Char → Bool
  | '#' :: rest => closesReference false rest
  | s => closesReference false s

/-- The value of a double-quoted attribute. A reference that is already there
    stays; any other `&`, and `<`, `>` and `"`, are written as references. -/
def escapeAttribute : List Char → List Char
  | [] => []
  | c :: rest =>
    match c with
    | '&' =>
      if completesReference rest then '&' :: escapeAttribute rest
      else ['&', 'a', 'm', 'p', ';'] ++ escapeAttribute rest
    | '<' => ['&', 'l', 't', ';'] ++ escapeAttribute rest
    | '>' => ['&', 'g', 't', ';'] ++ escapeAttribute rest
    | '"' => ['&', 'q', 'u', 'o', 't', ';'] ++ escapeAttribute rest
    | c => c :: escapeAttribute rest

/-! ## Hidden from harvesters -/

/-- The decimal reference to a character, with at least three digits. -/
def numericReference (c : Char) : List Char :=
  ['&', '#'] ++ padZeros 3 (decimal c.toNat) ++ [';']

/-- Every character as a decimal reference. -/
def obfuscate (s : List Char) : List Char := s.flatMap numericReference

@[simp] theorem obfuscate_nil : obfuscate [] = [] := rfl

@[simp] theorem obfuscate_append (s t : List Char) :
    obfuscate (s ++ t) = obfuscate s ++ obfuscate t := by
  simp [obfuscate]

end DocSite.Html
