/-
  DocSite.Markdown.Blocks

  The block structure of a document, read line by line. The blocks that are open
  form a stack, the innermost first. A line continues some of them, may begin new
  ones, and what is left of it is text of the innermost.
-/
import DocSite.Markdown.BlockStart
import DocSite.Markdown.Reference
import DocSite.Markdown.Table

namespace DocSite.Markdown

/-! ## Open blocks -/

/-- A block whose content is still characters. -/
abbrev RawBlock := Block (List Char)

/-- A finished child of an open block. -/
inductive Finished where
  /-- A block, and whether a blank line ends it. -/
  | block (block : RawBlock) (endsBlank : Bool)
  /-- An item, whether a blank line ends it, and whether one separates its
      blocks. -/
  | item (body : List RawBlock) (endsBlank loose : Bool)

/-- Whether a blank line ends a finished child. -/
def Finished.endsBlank : Finished → Bool
  | .block _ endsBlank => endsBlank
  | .item _ endsBlank _ => endsBlank

/-- The child with a blank line at its end. -/
def Finished.withBlank : Finished → Finished
  | .block b _ => .block b true
  | .item body _ loose => .item body true loose

/-- What an open block is. Lines of text are kept in reverse order. -/
inductive OpenKind where
  | document
  | quote
  | list (mark : ListMark)
  /-- An item whose content is indented by `width` columns. -/
  | item (mark : ListMark) (width startLine : Nat)
  | footnote (name : List Char)
  /-- A paragraph, and whether one of its lines has been tried as the head of a
      table. -/
  | paragraph (lines : List (List Char)) (tried : Bool)
  | heading (level : Nat) (content : List Char)
  /-- Code between fences, the first of which is indented by `indent` columns. -/
  | fenced (fence : Char) (length indent : Nat) (lines : List (List Char))
  | indented (lines : List (List Char))
  | html (stop : HtmlBlockEnd) (lines : List (List Char))
  | rule
  /-- A table; its rows are kept in reverse order. -/
  | table (alignments : List Alignment) (head : List (List Char))
      (rows : List (List (List Char)))

/-- A block that is still open. -/
structure OpenBlock where
  kind : OpenKind
  /-- The finished children, the last first. -/
  children : List Finished
  /-- Whether the last line of the block is blank. -/
  lastBlank : Bool

namespace OpenBlock

/-- A block that begins. -/
def begin (kind : OpenKind) : OpenBlock := ⟨kind, [], false⟩

/-- Whether the block can have blocks other than items as children. -/
def holdsBlocks (b : OpenBlock) : Bool :=
  match b.kind with
  | .document | .quote | .item .. | .footnote _ => true
  | _ => false

/-- Whether the block is a list. -/
def isList (b : OpenBlock) : Bool :=
  match b.kind with
  | .list _ => true
  | _ => false

/-- Whether the block is a paragraph. -/
def isParagraph (b : OpenBlock) : Bool :=
  match b.kind with
  | .paragraph .. => true
  | _ => false

/-- Whether the block holds literal lines, in which no block begins. -/
def isLiteral (b : OpenBlock) : Bool :=
  match b.kind with
  | .fenced .. | .indented _ | .html .. => true
  | _ => false

/-- Whether the block takes lines of text. -/
def takesText (b : OpenBlock) : Bool :=
  match b.kind with
  | .paragraph .. | .heading .. => true
  | _ => b.isLiteral

/-- Sets the last child's mark of a blank line. -/
def markLastChild (b : OpenBlock) : OpenBlock :=
  match b.children with
  | [] => b
  | child :: rest => { b with children := child.withBlank :: rest }

end OpenBlock

/-! ## Closing -/

/-- Drops blank lines at the end of code. -/
def dropBlankEnd (code : List Char) : List Char :=
  -- The line in which the code ends keeps its spaces.
  let kept := (code.reverse.dropWhile fun c => isSpaceOrTab c || isLineEnd c).length
  code.take kept ++ (code.drop kept).takeWhile fun c => !isLineEnd c

/-- The first line of fenced code, which describes it, and the code. -/
def splitInfo (lines : List (List Char)) : List Char × List Char :=
  match lines with
  | [] => ([], [])
  | info :: code => (dropEscapes (trimAscii (decodeEntities info.length info)), code.flatten)

/-- The blocks of finished children. -/
def finishedBlocks (children : List Finished) : List RawBlock :=
  children.reverse.filterMap fun
    | .block b _ => some b
    | .item .. => none

/-- Whether a list is tight: no blank line separates its items, or the blocks of
    one of them. -/
def isTight : List Finished → Bool
  | [] => true
  | .item _ endsBlank loose :: rest => !loose && (rest.isEmpty || !endsBlank) && isTight rest
  | .block .. :: rest => isTight rest

/-- The items of finished children. -/
def finishedItems (children : List Finished) : List (Item (List Char)) :=
  children.reverse.filterMap fun
    | .item body _ _ => some (.mk none body)
    | .block .. => none

/-- Finishes a block. A paragraph gives up the definitions it begins with, and is
    nothing when nothing else is in it. -/
def OpenBlock.finish (b : OpenBlock) : Option Finished × References :=
  let text := String.ofList
  let blocks := finishedBlocks b.children
  let childBlank := (b.children.head?.map Finished.endsBlank).getD false
  match b.kind with
  | .document => (none, [])
  | .quote => (some (.block (.quote blocks) b.lastBlank), [])
  | .list mark =>
    let tight := isTight b.children.reverse
    (some (.block (.list mark.ordered mark.start tight (finishedItems b.children))
      (b.lastBlank || childBlank)), [])
  | .item .. =>
    -- The last child is not asked: a blank line after it separates items, not blocks.
    let loose := b.children.tail.any Finished.endsBlank
    (some (.item blocks (b.lastBlank || childBlank) loose), [])
  | .footnote name => (some (.block (.footnote (text name) 0 blocks) b.lastBlank), [])
  | .paragraph lines _ =>
    let content := lines.reverse.flatten
    let (definitions, rest) := takeDefinitions content.length content
    if (rest.dropWhile isAsciiSpace).isEmpty then (none, definitions)
    else (some (.block (.paragraph rest) b.lastBlank), definitions)
  | .heading level content => (some (.block (.heading level content) b.lastBlank), [])
  | .fenced _ _ _ lines =>
    let (info, code) := splitInfo lines.reverse
    (some (.block (.code (text info) (text code)) b.lastBlank), [])
  | .indented lines =>
    let code := dropBlankEnd lines.reverse.flatten ++ ['\n']
    (some (.block (.code "" (text code)) b.lastBlank), [])
  | .html _ lines => (some (.block (.html (text lines.reverse.flatten)) b.lastBlank), [])
  | .rule => (some (.block .rule b.lastBlank), [])
  | .table alignments head rows =>
    (some (.block (.table alignments head rows.reverse) b.lastBlank), [])

/-- A document in the middle of being read. -/
structure Reader where
  /-- The open blocks, the innermost first; the last is the document. -/
  stack : List OpenBlock
  references : References
  line : Nat

namespace Reader

/-- The start of a document. -/
def start : Reader := ⟨[.begin .document], [], 0⟩

/-- The innermost open block. -/
def top (r : Reader) : OpenBlock := r.stack.headD (.begin .document)

/-- Changes the innermost open block. -/
def setTop (r : Reader) (b : OpenBlock) : Reader := { r with stack := b :: r.stack.tail }

/-- Closes the innermost open block, unless it is the document. -/
def close (r : Reader) : Reader :=
  match r.stack with
  | b :: parent :: rest =>
    let (finished, definitions) := b.finish
    let parent := { parent with children := finished.toList ++ parent.children }
    { r with stack := parent :: rest, references := r.references ++ definitions }
  | _ => r

/-- Closes a number of open blocks. -/
def closeMany : Nat → Reader → Reader
  | 0, r => r
  | n + 1, r => closeMany n r.close

/-- Closes blocks until the innermost satisfies a condition. -/
def closeUntil (p : OpenBlock → Bool) (r : Reader) : Reader :=
  r.closeMany (r.stack.takeWhile fun b => !p b).length

/-- Begins a block inside the innermost block that can hold it. -/
def add (kind : OpenKind) (r : Reader) : Reader :=
  let r := match kind with
    | .item .. => r.closeUntil OpenBlock.isList
    | _ => r.closeUntil OpenBlock.holdsBlocks
  { r with stack := .begin kind :: r.stack }

end Reader

/-! ## Continuing open blocks -/

/-- Whether an open block goes on in a line. -/
inductive Continuation where
  /-- It does, and the rest of the line is read on. -/
  | yes (c : Cursor)
  | no
  /-- The line closes it and holds nothing else. -/
  | closing

/-- Reads up to the given number of columns of spaces and tabs. -/
def skipColumns : Nat → Cursor → Cursor
  | 0, c => c
  | n + 1, c => if c.rest.head?.any isSpaceOrTab then skipColumns n c.nextColumn else c

/-- Whether an open block goes on in the line at the cursor. -/
def OpenBlock.continues (b : OpenBlock) (c : Cursor) : Continuation :=
  match b.kind with
  | .document | .list _ | .rule => .yes c
  | .quote =>
    if c.indent ≤ 3 && c.nonspace.head? = some '>' then
      .yes (skipColumns 1 (c.columns (c.indent + 1)))
    else .no
  | .item _ width _ =>
    -- A blank line goes on with an item only once something is in it.
    if width ≤ c.indent then .yes (c.columns width)
    else if c.isBlank && !b.children.isEmpty then .yes c.toNonspace
    else .no
  | .footnote _ =>
    if 4 ≤ c.indent then .yes (c.columns 4)
    else if c.column = 0 && (withoutEnd c.rest).isEmpty then .yes c
    else .no
  | .paragraph .. => if c.isBlank then .no else .yes c
  | .heading .. => .no
  | .fenced fence length indent _ =>
    if c.indent ≤ 3 && closesFence fence length c.nonspace then .closing
    else .yes (skipColumns indent c)
  | .indented _ =>
    if 4 ≤ c.indent then .yes (c.columns 4)
    else if c.isBlank then .yes c.toNonspace
    else .no
  | .html stop _ => if stop = .blank && c.isBlank then .no else .yes c
  | .table .. => if (rowCells c.nonspace).isEmpty then .no else .yes c

/-- How far a line continues the open blocks, which are given from the outermost
    on: the number of blocks that go on, the place after their marks, and whether
    the next one is closed by the line. An open child makes an item non-empty. -/
def continueBlocks : List OpenBlock → Nat → Cursor → Nat × Cursor × Bool
  | [], n, c => (n, c, false)
  | b :: rest, n, c =>
    -- The child is still open, so it is not among the children yet.
    let b := if rest.isEmpty then b else { b with children := .block .rule false :: b.children }
    match b.continues c with
    | .yes c => continueBlocks rest (n + 1) c
    | .no => (n, c, false)
    | .closing => (n, c, true)

/-! ## Beginning blocks -/

/-- A reader inside a line: the first `pending` blocks of its stack do not go on
    in the line, but a line of text may still continue their paragraph. -/
structure LineReader where
  reader : Reader
  pending : Nat
  cursor : Cursor

namespace LineReader

/-- The innermost block that goes on. -/
def container (l : LineReader) : OpenBlock :=
  (l.reader.stack.drop l.pending).headD (.begin .document)

/-- Closes the blocks that do not go on. -/
def settle (l : LineReader) : LineReader :=
  { l with reader := l.reader.closeMany l.pending, pending := 0 }

/-- Begins a block, from the given place on. -/
def enter (l : LineReader) (kind : OpenKind) (c : Cursor) : LineReader :=
  let l := l.settle
  { l with reader := l.reader.add kind, cursor := c }

/-- Reads to the first character that is not blank, and then a number of
    characters. -/
def past (l : LineReader) (n : Nat) : Cursor := l.cursor.toNonspace.chars n

/-- A quote. -/
def quote? (l : LineReader) : Option LineReader :=
  if l.cursor.nonspace.head? = some '>' then
    some (l.enter .quote (skipColumns 1 (l.past 1)))
  else none

/-- A heading marked with `#`. -/
def atx? (l : LineReader) : Option LineReader :=
  (atxMark? l.cursor.nonspace).map fun (level, length) =>
    l.enter (.heading level []) (l.past length)

/-- A fence. -/
def fence? (l : LineReader) : Option LineReader :=
  (openFence? l.cursor.nonspace).map fun (fence, length) =>
    l.enter (.fenced fence length l.cursor.indent []) (l.past length)

/-- A block of HTML. -/
def html? (l : LineReader) : Option LineReader :=
  (htmlBlock? (!l.container.isParagraph) l.cursor.nonspace).map fun stop =>
    l.enter (.html stop []) l.cursor

/-- An underline that makes a heading of the paragraph before it, unless the
    paragraph holds definitions only. -/
def setext? (l : LineReader) : Option LineReader :=
  match l.container.kind with
  | .paragraph lines tried =>
    (setextLevel? l.cursor.nonspace).map fun level =>
      let content := lines.reverse.flatten
      let (definitions, rest) := takeDefinitions content.length content
      let r := { l.reader with references := l.reader.references ++ definitions }
      -- Nothing is left for a heading: the underline becomes text of the emptied paragraph.
      if (rest.dropWhile isAsciiSpace).isEmpty then
        { l with reader := r.setTop { r.top with kind := .paragraph [] tried } }
      else
        { l with
          reader := r.setTop { r.top with kind := .heading level rest }
          cursor := l.cursor.toEnd }
  | _ => none

/-- A rule. -/
def rule? (l : LineReader) : Option LineReader :=
  if isRule l.cursor.nonspace then some (l.enter .rule l.cursor.toEnd) else none

/-- A footnote definition. -/
def footnote? (l : LineReader) : Option LineReader :=
  (footnoteMark? l.cursor.nonspace).map fun (name, length) =>
    l.enter (.footnote name) (l.past length)

/-- The place where the content of an item begins, and the columns from its mark
    to there. Content that is indented by more than four columns is code, and an
    item without content begins one column after its mark. -/
def itemContent (c : Cursor) (markLength : Nat) : Cursor × Nat :=
  let after := skipColumns 5 c
  let gap := after.column - c.column
  if gap < 1 || 4 < gap || restBlank after.rest then
    (if 0 < gap then c.nextColumn else c, markLength + 1)
  else (after, markLength + gap)

/-- A list item, in the list that goes on or in a new one. -/
def item? (l : LineReader) : Option LineReader :=
  (listMark? l.container.isParagraph l.cursor.nonspace).map fun (mark, length) =>
    let indent := l.cursor.indent
    let (content, padding) := itemContent (l.past length) length
    let inList := match l.container.kind with
      | .list other => mark.continues other
      | _ => false
    let l := if inList then l.settle else l.enter (.list mark) content
    l.enter (.item mark (indent + padding) l.reader.line) content

/-- Code that is indented. -/
def indented? (l : LineReader) : Option LineReader :=
  if l.cursor.isBlank then none else some (l.enter (.indented []) (l.cursor.columns 4))

/-- Marks a paragraph as tried for the head of a table. -/
def markTried (l : LineReader) (lines : List (List Char)) : LineReader :=
  { l with reader := l.reader.setTop { l.reader.top with kind := .paragraph lines true } }

/-- A table below its head, which is the last line of a paragraph, or another row
    of a table. -/
def table? (l : LineReader) : Option LineReader :=
  match l.container.kind with
  | .paragraph lines false =>
    if isAlignmentRow l.cursor.nonspace then
      let marks := rowCells l.cursor.nonspace
      let head := rowCells (lines.headD [])
      if head.length = marks.length then
        -- The lines above the head stay a paragraph in front of the table.
        let before := lines.tail.reverse.flatten
        let parent := l.reader.stack.tail
        let stack := match parent with
          | p :: rest =>
            if lines.tail.isEmpty then parent
            else { p with children := .block (.paragraph before) false :: p.children } :: rest
          | [] => []
        let table := OpenBlock.begin (.table (marks.map cellAlignment) head [])
        some { l with
          reader := { l.reader with stack := table :: stack }
          cursor := l.cursor.toEnd }
      -- A paragraph in which a line has failed as a head is not tried again.
      else some (l.markTried lines)
    else none
  | .table alignments head rows =>
    if l.cursor.isBlank then none
    else
      let row := fitRow alignments.length (rowCells l.cursor.nonspace)
      let top := { l.reader.top with kind := .table alignments head (row :: rows) }
      some { l with reader := l.reader.setTop top, cursor := l.cursor.toEnd }
  | _ => none

/-- The block that begins at the cursor, if one does. `isLazy` tells whether the
    line might be text of a paragraph that is open, and `deep` whether too many
    blocks have begun in the line. -/
def begin? (l : LineReader) (isLazy deep : Bool) : Option LineReader :=
  let indented := 4 ≤ l.cursor.indent
  let marked :=
    if indented then none
    else
      l.quote? <|> l.atx? <|> l.fence? <|> l.html? <|> l.setext? <|> l.rule?
        <|> if deep then none else l.footnote?
  marked
    <|> (if indented || deep then none else l.item?)
    <|> (if indented && !isLazy then l.indented? else none)
    <|> (if indented then none else l.table?)

/-- Begins blocks as long as the line does, at most as many as the second
    number. -/
def beginBlocks (isLazy : Bool) (depth : Nat) : Nat → LineReader → LineReader
  | 0, l => l
  | n + 1, l =>
    -- Literal lines begin no block.
    if l.container.isLiteral then l
    else
      match l.begin? isLazy (100 ≤ depth + 1) with
      | none => l
      | some next =>
        if next.container.takesText then next else beginBlocks false (depth + 1) n next

end LineReader

/-! ## Text -/

/-- Adds a line of text to a block that takes text. -/
def OpenBlock.addText (b : OpenBlock) (c : Cursor) : OpenBlock :=
  match b.kind with
  | .paragraph lines tried => { b with kind := .paragraph (c.toNonspace.text :: lines) tried }
  | .heading level content =>
    if content.isEmpty then { b with kind := .heading level (chopHashes c.toNonspace.text) } else b
  | .fenced fence length indent lines =>
    { b with kind := .fenced fence length indent (c.text :: lines) }
  | .indented lines => { b with kind := .indented (c.text :: lines) }
  | .html stop lines => { b with kind := .html stop (c.text :: lines) }
  | _ => b

/-- Whether a blank line at the end of a block counts as its last line. -/
def OpenBlock.countsBlank (b : OpenBlock) (line : Nat) : Bool :=
  match b.kind with
  | .quote | .heading .. | .rule | .fenced .. => false
  | .table _ _ rows => rows.isEmpty
  | .item _ _ startLine => !b.children.isEmpty || startLine != line
  | _ => true

/-- Notes for a line whether it is blank: in the block that it belongs to, in the
    last child of that block, and, when it is not blank, in no block around. -/
def noteBlank (blank : Bool) (pending : Nat) (r : Reader) : Reader :=
  -- The blocks that do not go on are still on the stack, as children of the one that does.
  let inner := r.stack.take pending
  let inner := match inner.getLast? with
    | some b => if blank then inner.dropLast ++ [{ b with lastBlank := true }] else inner
    | none => inner
  match r.stack.drop pending with
  | [] => r
  | b :: around =>
    let counts := { b with children := if inner.isEmpty then b.children else [.block .rule false] }
    let marked := if blank && inner.isEmpty then b.markLastChild else b
    let noted := { marked with lastBlank := blank && counts.countsBlank r.line }
    { r with stack := inner ++ noted :: around.map fun a => { a with lastBlank := false } }

/-- Whether a line ends the block of HTML that it belongs to. -/
def OpenBlock.endsWith (b : OpenBlock) (c : Cursor) : Bool :=
  match b.kind with
  | .html stop _ => stop.endsAt c.nonspace
  | _ => false

/-- Adds what is left of a line. A line of text in which no block begins continues
    an open paragraph also without the marks of the blocks around it, and leaves
    them all open. -/
def LineReader.finish (l : LineReader) : Reader :=
  let blank := l.cursor.isBlank
  let r := noteBlank blank l.pending l.reader
  if 0 < l.pending && !blank && r.top.isParagraph then
    -- The paragraph goes on, and the blocks around it with it.
    r.setTop (r.top.addText l.cursor)
  else
    let r := r.closeMany l.pending
    let top := r.top
    if top.isLiteral then
      let r := r.setTop (top.addText l.cursor)
      if top.endsWith l.cursor then r.close else r
    else if blank then r
    else if top.takesText then r.setTop (top.addText l.cursor)
    else
      -- Text in a block that holds blocks is a new paragraph.
      let r := r.add (.paragraph [] false)
      r.setTop (r.top.addText l.cursor)

/-! ## Documents -/

/-- Reads a line. -/
def Reader.readLine (r : Reader) (line : List Char) : Reader :=
  let r := { r with line := r.line + 1 }
  let (matched, cursor, closing) := continueBlocks r.stack.reverse 0 (.start line)
  if closing then r.closeMany (r.stack.length - matched)
  else
    let l : LineReader := ⟨r, r.stack.length - matched, cursor⟩
    (l.beginBlocks r.top.isParagraph 0 (line.length + 2)).finish

/-- The blocks of a document and the definitions in it. -/
def readBlocks (text : List Char) : List RawBlock × References :=
  let r := (documentLines text).foldl Reader.readLine .start
  let r := r.closeMany r.stack.length
  (finishedBlocks r.top.children, r.references)

end DocSite.Markdown
