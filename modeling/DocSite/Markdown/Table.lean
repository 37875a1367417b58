/-
  DocSite.Markdown.Table

  Rows of tables. Pipes separate the cells of a row and may also stand at its
  ends; an escaped pipe is part of a cell. The second row of a table gives the
  alignment of its columns.
-/
import DocSite.Markdown.Line
import DocSite.Markdown.Tree

namespace DocSite.Markdown

/-- White space inside a row. -/
def isRowSpace (c : Char) : Bool := isAsciiSpace c && !isLineEnd c

/-- A cell as it is written, and what follows it: the text up to the next pipe
    that is not escaped. -/
def splitCell : List Char → List Char × List Char
  | [] => ([], [])
  | '\\' :: c :: rest =>
    if isAsciiPunctuation c then
      let (cell, after) := splitCell rest
      ('\\' :: c :: cell, after)
    else
      let (cell, after) := splitCell (c :: rest)
      ('\\' :: cell, after)
  | c :: rest =>
    if c = '|' then ([], '|' :: rest)
    else
      let (cell, after) := splitCell rest
      (c :: cell, after)

/-- A cell without the backslashes in front of its pipes. -/
def unescapePipes : List Char → List Char
  | [] => []
  | '\\' :: '|' :: rest => '|' :: unescapePipes rest
  | c :: rest => c :: unescapePipes rest

/-- The content of a cell. -/
def cellContent (cell : List Char) : List Char := trimAscii (unescapePipes cell)

/-- The cells of a row without its leading pipe, at most as many as the first
    number. -/
def splitCells : Nat → List Char → List (List Char)
  | 0, _ => []
  | n + 1, s =>
    match s with
    | [] => []
    | _ =>
      match splitCell s with
      | (cell, '|' :: rest) => cellContent cell :: splitCells n (rest.dropWhile isRowSpace)
      | (cell, _) => [cellContent cell]

/-- The cells of a line. -/
def rowCells (line : List Char) : List (List Char) :=
  match withoutEnd line with
  | '|' :: rest => splitCells line.length (rest.dropWhile isRowSpace)
  | s => splitCells line.length s

/-! ## Alignment rows -/

/-- The rest after a mark of alignment: dashes, with a colon at either end. -/
def alignmentMark? (s : List Char) : Option (List Char) :=
  let s := s.dropWhile isRowSpace
  let s := if s.head? = some ':' then s.tail else s
  if s.head? = some '-' then
    let s := s.dropWhile (· == '-')
    let s := if s.head? = some ':' then s.tail else s
    some (s.dropWhile isRowSpace)
  else none

/-- Whether a text is a list of alignment marks between pipes, the last of which
    may have a pipe after it. -/
def areAlignmentMarks : Nat → List Char → Bool
  | 0, _ => false
  | n + 1, s =>
    match alignmentMark? s with
    | none => false
    | some [] => true
    | some ('|' :: rest) => (rest.dropWhile isRowSpace).isEmpty || areAlignmentMarks n rest
    | some _ => false

/-- Whether a line gives the alignment of columns. -/
def isAlignmentRow (line : List Char) : Bool :=
  match withoutEnd line with
  | '|' :: rest => areAlignmentMarks line.length rest
  | s => areAlignmentMarks (s.length + 1) s

/-- The alignment that a cell asks for. -/
def cellAlignment (cell : List Char) : Alignment :=
  match cell.head? == some ':', cell.getLast? == some ':' with
  | true, true => .center
  | true, false => .left
  | false, true => .right
  | false, false => .none

/-- The cells of a row of the given width: missing ones are empty, and those that
    are too many are dropped. -/
def fitRow (width : Nat) (cells : List (List Char)) : List (List Char) :=
  cells.take width ++ List.replicate (width - cells.length) []

end DocSite.Markdown
