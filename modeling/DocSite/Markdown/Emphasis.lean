/-
  DocSite.Markdown.Emphasis

  Runs of `*`, `_` and `~`, and the emphasis they make. A run that may close
  takes the nearest run of its character that may open; what is left of runs at
  the end is text.
-/
import DocSite.Markdown.Tree

namespace DocSite.Markdown

/-- A piece of running text that is being read. -/
inductive Piece where
  | text (s : List Char)
  | node (inline : Inline)
  /-- What is left of a run of `length` characters, and what it may do. -/
  | run (char : Char) (count length : Nat) (canOpen canClose : Bool)
  /-- The start of a link or an image, whether another one follows it, and the
      characters after it. -/
  | bracket (image followed : Bool) (after : List Char)

namespace Piece

/-- The text of a piece that makes nothing else. -/
def literal : Piece → List Char
  | .text s => s
  | .node _ => []
  | .run c count _ _ _ => List.replicate count c
  | .bracket image _ _ => if image then ['!', '['] else ['[']

/-- A piece that makes nothing else. -/
def toInline : Piece → Inline
  | .node inline => inline
  | piece => .text (String.ofList piece.literal)

/-- A bound for the steps that a piece may take part in. -/
def weight : Piece → Nat
  | .run _ count _ _ _ => count + 1
  | _ => 1

/-- A bound for the steps that pieces may take part in. -/
def weightAll : List Piece → Nat
  | [] => 0
  | piece :: rest => piece.weight + weightAll rest

end Piece

/-- A run that may open emphasis, among the pieces before a run that may close it. -/
structure Opener where
  /-- The pieces between the runs, the last first. -/
  inner : List Piece
  count : Nat
  length : Nat
  canClose : Bool
  /-- The pieces before the run, the last first. -/
  older : List Piece

/-- Whether a piece opens what a run of the given character and length closes.
    Where either run can do both, their lengths must not add up to a multiple of
    three, unless both are one. -/
def Piece.opens (c : Char) (length : Nat) (canOpen : Bool) : Piece → Bool
  | .run d _ other true canClose =>
    c == d && !((canOpen || canClose) && (length + other) % 3 == 0
      && !(length % 3 == 0 && other % 3 == 0))
  | _ => false

/-- The nearest run that opens what a run of the given character and length
    closes. -/
def findOpener (c : Char) (length : Nat) (canOpen : Bool) : List Piece → Option Opener
  | [] => none
  | piece :: older =>
    if piece.opens c length canOpen then
      match piece with
      | .run _ count other _ canClose => some ⟨[], count, other, canClose, older⟩
      | _ => none
    else
      (findOpener c length canOpen older).map fun o => { o with inner := piece :: o.inner }

/-- The element that runs make with the given number of their characters. -/
def emphasized (c : Char) (used : Nat) (body : List Inline) : Inline :=
  if c = '~' then .strikethrough body else if used = 1 then .emphasis body else .strong body

/-- Makes emphasis of the runs in pieces, given the pieces before them, the last
    first. Runs of `~` match in full or end the search. -/
def settleRuns (left right : List Piece) : List Inline :=
  match right with
  | [] => left.reverse.map Piece.toInline
  | .run c count length canOpen canClose :: rest =>
    -- A run that cannot close waits on the left for one that can.
    if !canClose then settleRuns (.run c count length canOpen canClose :: left) rest
    else
      match findOpener c length canOpen left with
      | none =>
        -- Nothing to close: the run may still open, or is text for good.
        let piece := if canOpen then .run c count length canOpen canClose
          else .text (List.replicate count c)
        settleRuns (piece :: left) rest
      | some o =>
        -- Strong emphasis takes two characters off both runs, emphasis one.
        let used := if 2 ≤ count && 2 ≤ o.count then 2 else 1
        if c = '~' && (count != o.count || used < count) then
          (left.reverse ++ right).map Piece.toInline
        else
          let node := .node (emphasized c used (o.inner.reverse.map Piece.toInline))
          let left := node :: (if used < o.count then
              .run c (o.count - used) o.length true o.canClose :: o.older else o.older)
          if used < count then
            settleRuns left (.run c (count - used) length canOpen canClose :: rest)
          else settleRuns left rest
  | piece :: rest => settleRuns (piece :: left) rest
termination_by Piece.weightAll right
decreasing_by
  all_goals simp [Piece.weightAll, Piece.weight]
  all_goals grind

/-- The inlines of pieces. -/
def settlePieces (pieces : List Piece) : List Inline := settleRuns [] pieces

end DocSite.Markdown
