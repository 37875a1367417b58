/-
  DocSite.Markdown.Document

  Markdown text as a document: its blocks, the running text in them, footnotes,
  task items and mail addresses.
-/
import DocSite.Markdown.Blocks
import DocSite.Markdown.Footnotes
import DocSite.Markdown.Inlines

namespace DocSite.Markdown

/-! ## Text -/

/-- An inline in front of others. Text joins the text that follows it, and empty
    text is dropped. -/
def joinText (inline : Inline) (rest : List Inline) : List Inline :=
  match inline, rest with
  | .text s, .text t :: rest => .text (s ++ t) :: rest
  | .text s, rest => if s.isEmpty then rest else .text s :: rest
  | inline, rest => inline :: rest

mutual

/-- Joins adjacent texts inside an inline. -/
def Inline.joinTexts : Inline → Inline
  | .emphasis body => .emphasis (joinAll body)
  | .strong body => .strong (joinAll body)
  | .strikethrough body => .strikethrough (joinAll body)
  | .link url title body => .link url title (joinAll body)
  | .image url title body => .image url title (joinAll body)
  | inline => inline

/-- Joins adjacent texts. -/
def joinAll : List Inline → List Inline
  | [] => []
  | inline :: rest => joinText inline.joinTexts (joinAll rest)

end

/-! ## Mail addresses -/

/-- Text as an inline, unless it is empty. -/
def textInline (s : List Char) : List Inline :=
  if s.isEmpty then [] else [.text (String.ofList s)]

/-- Makes links of the mail addresses in a text, given what comes before it in
    reverse and how many brackets are open there. Inside brackets there are
    none. -/
def linkAddresses (before : List Char) (depth : Int) (s : List Char) : List Inline :=
  match s with
  | [] => textInline before.reverse
  | c :: rest =>
    -- A closing bracket too many makes the depth negative, which counts as outside.
    let depth := if c = '[' then depth + 1 else if c = ']' then depth - 1 else depth
    match if c = '@' && depth ≤ 0 then mailAutolink? before rest else none with
    | some (mailbox, host, link) =>
      textInline (before.drop mailbox.length).reverse ++
        link.toInline :: linkAddresses [] 0 (rest.drop host.length)
    | none => linkAddresses (c :: before) depth rest
termination_by s.length
decreasing_by all_goals simp +arith

mutual

/-- Makes links of the mail addresses in an inline. Links hold no links. -/
def Inline.linkMail : Inline → List Inline
  | .text s => linkAddresses [] 0 s.toList
  | .emphasis body => [.emphasis (linkMailAll body)]
  | .strong body => [.strong (linkMailAll body)]
  | .strikethrough body => [.strikethrough (linkMailAll body)]
  | inline => [inline]

/-- Makes links of the mail addresses in inlines. -/
def linkMailAll : List Inline → List Inline
  | [] => []
  | inline :: rest => inline.linkMail ++ linkMailAll rest

end

/-! ## Task items -/

/-- The mark of a task at the start of a text: whether the task is done, and the
    text after the mark. -/
def taskMark? (s : List Char) : Option (Bool × List Char) :=
  match skipSpace s with
  | '[' :: c :: ']' :: rest =>
    if c = ' ' || c = 'x' || c = 'X' then
      match rest with
      | [] => some (c != ' ', [])
      | d :: more => if isAsciiSpace d then some (c != ' ', more) else none
    else none
  | _ => none

/-- Takes the mark of a task off the paragraph at the start of an item. -/
def takeTaskMark? : List (Block (List Inline)) → Option (Bool × List (Block (List Inline)))
  | .paragraph (.text s :: content) :: rest =>
    (taskMark? s.toList).map fun (done, text) =>
      (done, .paragraph (textInline text ++ content) :: rest)
  | _ => none

mutual

/-- Finds the task items in a block. -/
def Block.markTasks : Block (List Inline) → Block (List Inline)
  | .quote body => .quote (markTasksIn body)
  | .list ordered start tight items => .list ordered start tight (markTasksInItems items)
  | .footnote name references body => .footnote name references (markTasksIn body)
  | block => block

/-- Finds the task items in blocks. -/
def markTasksIn : List (Block (List Inline)) → List (Block (List Inline))
  | [] => []
  | block :: rest => block.markTasks :: markTasksIn rest

/-- Decides whether an item is a task. -/
def Item.markTasks : Item (List Inline) → Item (List Inline)
  | .mk done body =>
    let body := markTasksIn body
    match takeTaskMark? body with
    | some (done, body) => .mk (some done) body
    | none => .mk done body

/-- Finds the task items among and in items. -/
def markTasksInItems : List (Item (List Inline)) → List (Item (List Inline))
  | [] => []
  | item :: rest => item.markTasks :: markTasksInItems rest

end

/-! ## Documents -/

/-- Reads Markdown text. -/
def Document.ofText (text : List Char) : Document :=
  let (blocks, references) := readBlocks text
  -- Texts are joined after footnotes are numbered, since references may become text, and mail
  -- addresses are found in joined text.
  let document := placeFootnotes (mapBlocks (readInlines references) blocks)
  mapBlocks linkMailAll (markTasksIn (mapBlocks joinAll document))

end DocSite.Markdown
