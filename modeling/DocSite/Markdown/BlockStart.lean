/-
  DocSite.Markdown.BlockStart

  The marks at the start of a line that begin or end a block. Each scanner looks
  at a line from its first character that is not blank.
-/
import DocSite.Markdown.Line

namespace DocSite.Markdown

/-- Whether nothing but spaces and tabs is left in the line. -/
def restBlank (s : List Char) : Bool := (s.dropWhile isSpaceOrTab).head?.all isLineEnd

/-- A run of one character: its length and what follows it. -/
def charRun (c : Char) (s : List Char) : Nat × List Char :=
  ((s.takeWhile (· == c)).length, s.dropWhile (· == c))

/-! ## Headings, rules and fences -/

/-- The level of a heading marked with `#`, and the length of the mark with the
    white space after it. -/
def atxMark? (s : List Char) : Option (Nat × Nat) :=
  let (level, rest) := charRun '#' s
  if 1 ≤ level && level ≤ 6 && (restBlank rest || rest.head?.any isSpaceOrTab) then
    some (level, level + (rest.takeWhile isSpaceOrTab).length)
  else none

/-- The text of a heading without the run of `#` that closes it. -/
def chopHashes (s : List Char) : List Char :=
  let s := trimEndAscii s
  let t := (s.reverse.dropWhile (· == '#')).reverse
  if t.length = s.length then s
  else
    match t.getLast? with
    | none => []
    | some c => if isSpaceOrTab c then trimEndAscii t else s

/-- The level of the heading that an underline makes of a paragraph. -/
def setextLevel? (s : List Char) : Option Nat :=
  match s with
  | '=' :: _ => if restBlank (charRun '=' s).2 then some 1 else none
  | '-' :: _ => if restBlank (charRun '-' s).2 then some 2 else none
  | _ => none

/-- Whether a line is a rule: at least three of one of `*`, `-` and `_`. -/
def isRule (s : List Char) : Bool :=
  match s with
  | c :: _ =>
    let line := withoutEnd s
    ['*', '-', '_'].contains c && 3 ≤ line.count c
      && line.all fun d => d == c || isSpaceOrTab d
  | [] => false

/-- The character and the length of an opening fence. No backtick follows a
    fence of backticks. -/
def openFence? (s : List Char) : Option (Char × Nat) :=
  match s with
  | '`' :: _ =>
    let (n, rest) := charRun '`' s
    if 3 ≤ n && !(withoutEnd rest).contains '`' then some ('`', n) else none
  | '~' :: _ =>
    let (n, _) := charRun '~' s
    if 3 ≤ n then some ('~', n) else none
  | _ => none

/-- Whether a line closes a fence of the given character and length. -/
def closesFence (c : Char) (length : Nat) (s : List Char) : Bool :=
  let (n, rest) := charRun c s
  3 ≤ n && length ≤ n && restBlank rest

/-! ## Lists -/

/-- The mark of a list item. Items with marks of one kind form a list. -/
structure ListMark where
  ordered : Bool
  start : Nat
  /-- The bullet, or the character after the number. -/
  sign : Char
  deriving Repr, DecidableEq

/-- Whether an item with one mark continues a list with another. -/
def ListMark.continues (a b : ListMark) : Bool := a.ordered == b.ordered && a.sign == b.sign

/-- Whether a list mark may end here, given what follows it. Only an item with
    content on its line interrupts a paragraph. -/
def endsMark (interrupts : Bool) (rest : List Char) : Bool :=
  rest.head?.all isAsciiSpace && !(interrupts && restBlank rest)

/-- A list mark and its length. In the middle of a paragraph a number is a mark
    only if it is one. -/
def listMark? (interrupts : Bool) (s : List Char) : Option (ListMark × Nat) :=
  match s with
  | [] => none
  | c :: rest =>
    if c == '*' || c == '-' || c == '+' then
      if endsMark interrupts rest then some (⟨false, 1, c⟩, 1) else none
    else
      let digits := s.takeWhile Char.isDigit
      let number := digits.foldl (fun n d => 10 * n + (d.toNat - 48)) 0
      if digits.isEmpty || 9 < digits.length || (interrupts && number != 1) then none
      else
        match s.dropWhile Char.isDigit with
        | sign :: rest =>
          if (sign == '.' || sign == ')') && endsMark interrupts rest then
            some (⟨true, number, sign⟩, digits.length + 1)
          else none
        | [] => none

/-! ## Footnotes -/

/-- The name in the mark of a footnote definition `[^name]:`, and the length of
    the mark with the white space after it. -/
def footnoteMark? : List Char → Option (List Char × Nat)
  | '[' :: '^' :: rest =>
    let isNameChar := fun c : Char => c != ']' && c != ' ' && c != '\t' && !isLineEnd c
    let name := rest.takeWhile isNameChar
    match rest.dropWhile isNameChar with
    | ']' :: ':' :: after =>
      if name.isEmpty then none
      else some (name, name.length + 4 + (after.takeWhile isSpaceOrTab).length)
    | _ => none
  | _ => none

end DocSite.Markdown
