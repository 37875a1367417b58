/-
  DocSite.Markdown.Tree

  Parsed Markdown. Blocks are typed by the content of their text: raw
  characters while the block structure is being read, inlines afterwards.
-/
namespace DocSite.Markdown

/-- How the cells of a table column are aligned. -/
inductive Alignment where
  | none
  | left
  | center
  | right
  deriving Repr, DecidableEq

/-- Content of running text. -/
inductive Inline where
  | text (value : String)
  | code (literal : String)
  | html (literal : String)
  | softBreak
  | lineBreak
  | emphasis (body : List Inline)
  | strong (body : List Inline)
  | strikethrough (body : List Inline)
  | link (url title : String) (body : List Inline)
  | image (url title : String) (body : List Inline)
  /-- A reference to the footnote of the given number, the `ordinal`-th one to it.
      Both are zero until footnotes are numbered. -/
  | footnoteRef (name : String) (number ordinal : Nat)

mutual

/-- A block whose text has content of type `α`. -/
inductive Block (α : Type) where
  | paragraph (content : α)
  | heading (level : Nat) (content : α)
  | quote (body : List (Block α))
  | list (ordered : Bool) (start : Nat) (tight : Bool) (items : List (Item α))
  | code (info literal : String)
  | html (literal : String)
  | rule
  /-- A table with its head row and the rows below. -/
  | table (alignments : List Alignment) (head : List α) (rows : List (List α))
  | footnote (name : String) (references : Nat) (body : List (Block α))

/-- An item of a list. A task item is marked as done or not. -/
inductive Item (α : Type) where
  | mk (done : Option Bool) (body : List (Block α))

end

/-- A parsed document. -/
abbrev Document := List (Block (List Inline))

/-! ## Content -/

section MapM

variable {m : Type → Type} [Monad m] {α β : Type} (f : α → m β)

mutual

/-- Maps the content of a block, in the order of the document. -/
def Block.mapM : Block α → m (Block β)
  | .paragraph content => .paragraph <$> f content
  | .heading level content => .heading level <$> f content
  | .quote body => .quote <$> mapBlocksM body
  | .list ordered start tight items => .list ordered start tight <$> mapItemsM items
  | .code info literal => pure (.code info literal)
  | .html literal => pure (.html literal)
  | .rule => pure .rule
  | .table alignments head rows => do
    let head ← head.mapM f
    let rows ← rows.mapM fun row => row.mapM f
    pure (.table alignments head rows)
  | .footnote name references body => .footnote name references <$> mapBlocksM body

/-- Maps the content of an item. -/
def Item.mapM : Item α → m (Item β)
  | .mk done body => .mk done <$> mapBlocksM body

/-- Maps the content of blocks. -/
def mapBlocksM : List (Block α) → m (List (Block β))
  | [] => pure []
  | block :: rest => do
    let block ← block.mapM
    let rest ← mapBlocksM rest
    pure (block :: rest)

/-- Maps the content of items. -/
def mapItemsM : List (Item α) → m (List (Item β))
  | [] => pure []
  | item :: rest => do
    let item ← item.mapM
    let rest ← mapItemsM rest
    pure (item :: rest)

end

end MapM

/-- Maps the content of blocks by a function without effects. -/
def mapBlocks {α β : Type} (f : α → β) (blocks : List (Block α)) : List (Block β) :=
  Id.run (mapBlocksM (fun content => pure (f content)) blocks)

end DocSite.Markdown
