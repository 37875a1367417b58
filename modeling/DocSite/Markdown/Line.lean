/-
  DocSite.Markdown.Line

  Lines of Markdown text and the reading of a line by columns. A tab reaches to
  the next column that is a multiple of four, and may be read in part.
-/
namespace DocSite.Markdown

/-! ## Characters -/

/-- A space or a tab. -/
def isSpaceOrTab (c : Char) : Bool := c == ' ' || c == '\t'

/-- A character that ends a line. -/
def isLineEnd (c : Char) : Bool := c == '\n' || c == '\r'

/-- ASCII white space. -/
def isAsciiSpace (c : Char) : Bool :=
  isSpaceOrTab c || isLineEnd c || c == '\x0b' || c == '\x0c'

/-- ASCII punctuation, which a backslash may escape. -/
def isAsciiPunctuation (c : Char) : Bool :=
  ('!' ≤ c && c ≤ '/') || (':' ≤ c && c ≤ '@') || ('[' ≤ c && c ≤ '`') || ('\x7b' ≤ c && c ≤ '~')

/-- Drops the ASCII white space at the end. -/
def trimEndAscii (s : List Char) : List Char := (s.reverse.dropWhile isAsciiSpace).reverse

/-- Drops the ASCII white space at both ends. -/
def trimAscii (s : List Char) : List Char := trimEndAscii (s.dropWhile isAsciiSpace)

/-! ## Lines -/

/-- The lines of a text with their ends, which are `\n`, `\r` or both. -/
def splitLines : List Char → List (List Char)
  | [] => []
  | '\r' :: '\n' :: rest => ['\r', '\n'] :: splitLines rest
  | c :: rest =>
    if isLineEnd c then [c] :: splitLines rest
    else
      match splitLines rest with
      | [] => [[c]]
      | line :: more =>
        (c :: line) :: more

/-- The line without its end. -/
def withoutEnd (line : List Char) : List Char := line.takeWhile fun c => !isLineEnd c

/-- The lines of a document: a byte order mark at the start is no part of it, and
    the character zero is replaced. -/
def documentLines (s : List Char) : List (List Char) :=
  let s := match s with
    | '\uFEFF' :: rest => rest
    | s => s
  splitLines (s.map fun c => if c = '\x00' then '\uFFFD' else c)

/-! ## Columns -/

/-- A place in a line. -/
structure Cursor where
  /-- What has not been read; it begins with a tab that is read in part. -/
  rest : List Char
  column : Nat
  /-- Whether the first character is a tab of which some columns have been read. -/
  inTab : Bool
  deriving Repr, DecidableEq

namespace Cursor

/-- The start of a line. -/
def start (line : List Char) : Cursor := ⟨line, 0, false⟩

/-- Reads one column. -/
def nextColumn (c : Cursor) : Cursor :=
  match c.rest with
  | [] => c
  | '\t' :: rest =>
    if (c.column + 1) % 4 = 0 then ⟨rest, c.column + 1, false⟩
    else ⟨c.rest, c.column + 1, true⟩
  | _ :: rest => ⟨rest, c.column + 1, false⟩

/-- Reads one character. -/
def nextChar (c : Cursor) : Cursor :=
  match c.rest with
  | [] => c
  | '\t' :: rest => ⟨rest, c.column + (4 - c.column % 4), false⟩
  | _ :: rest => ⟨rest, c.column + 1, false⟩

/-- Reads a number of columns. -/
def columns : Nat → Cursor → Cursor
  | 0, c => c
  | n + 1, c => columns n c.nextColumn

/-- Reads a number of characters. -/
def chars : Nat → Cursor → Cursor
  | 0, c => c
  | n + 1, c => chars n c.nextChar

/-- What comes after the spaces and tabs at the cursor. -/
def nonspace (c : Cursor) : List Char := c.rest.dropWhile isSpaceOrTab

/-- The column after the spaces and tabs of a text that begins at a column. -/
def columnAfterBlanks : Nat → List Char → Nat
  | column, ' ' :: rest => columnAfterBlanks (column + 1) rest
  | column, '\t' :: rest => columnAfterBlanks (column + (4 - column % 4)) rest
  | column, _ => column

/-- The columns that the spaces and tabs at the cursor take. -/
def indent (c : Cursor) : Nat := columnAfterBlanks c.column c.rest - c.column

/-- Whether nothing but spaces and tabs is left in the line. -/
def isBlank (c : Cursor) : Bool :=
  match c.nonspace with
  | [] => true
  | d :: _ => isLineEnd d

/-- Reads the spaces and tabs at the cursor. -/
def toNonspace (c : Cursor) : Cursor := c.chars (c.rest.takeWhile isSpaceOrTab).length

/-- Reads the line up to its end. -/
def toEnd (c : Cursor) : Cursor := c.chars (withoutEnd c.rest).length

/-- The text at the cursor; the unread columns of a tab are spaces. -/
def text (c : Cursor) : List Char :=
  if c.inTab then List.replicate (4 - c.column % 4) ' ' ++ c.rest.tail else c.rest

end Cursor

end DocSite.Markdown
