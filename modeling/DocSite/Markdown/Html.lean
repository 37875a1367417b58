/-
  DocSite.Markdown.Html

  Raw HTML in Markdown: tags, comments and the other constructs that stay as
  they are. A scanner returns what follows the construct it finds.
-/
import DocSite.Markdown.Line

namespace DocSite.Markdown

/-- Drops ASCII white space. -/
def skipSpace (s : List Char) : List Char := s.dropWhile isAsciiSpace

/-- An ASCII letter. -/
def isAsciiLetter (c : Char) : Bool := c.isAlpha

/-- The rest after the first occurrence of a text, and its end. -/
def afterText (text : List Char) : List Char → Option (List Char)
  | [] => if text.isEmpty then some [] else none
  | c :: rest =>
    match List.isPrefixOf? text (c :: rest) with
    | some after => some after
    | none => afterText text rest

/-! ## Tags -/

/-- A tag name: a letter, then letters, digits and dashes. -/
def tagName? : List Char → Option (List Char × List Char)
  | c :: rest =>
    if isAsciiLetter c then
      let isNameChar := fun d : Char => d.isAlphanum || d == '-'
      some (c :: rest.takeWhile isNameChar, rest.dropWhile isNameChar)
    else none
  | [] => none

/-- The rest after an attribute name. -/
def attributeName? : List Char → Option (List Char)
  | c :: rest =>
    if isAsciiLetter c || c == '_' || c == ':' then
      some (rest.dropWhile fun d =>
        d.isAlphanum || d == '_' || d == ':' || d == '.' || d == '-')
    else none
  | [] => none

/-- The rest after an attribute value. -/
def attributeValue? : List Char → Option (List Char)
  | '"' :: rest =>
    match rest.dropWhile (· != '"') with
    | _ :: after => some after
    | [] => none
  | '\'' :: rest =>
    match rest.dropWhile (· != '\'') with
    | _ :: after => some after
    | [] => none
  | s =>
    let isValueChar := fun c : Char =>
      !(isAsciiSpace c || ['"', '\'', '=', '<', '>', '`'].contains c)
    if (s.takeWhile isValueChar).isEmpty then none else some (s.dropWhile isValueChar)

/-- The rest after an attribute and the white space before it. -/
def attribute? (s : List Char) : Option (List Char) :=
  let t := skipSpace s
  if t.length = s.length then none
  else
    match attributeName? t with
    | none => none
    | some afterName =>
      match skipSpace afterName with
      | '=' :: value => (attributeValue? (skipSpace value)).or (some afterName)
      | _ => some afterName

/-- Drops attributes, at most as many as the first number. -/
def skipAttributes : Nat → List Char → List Char
  | 0, s => s
  | n + 1, s =>
    match attribute? s with
    | some rest => skipAttributes n rest
    | none => s

/-- The rest after an opening tag, given what follows its `<`. -/
def openTag? (s : List Char) : Option (List Char) :=
  match tagName? s with
  | none => none
  | some (_, rest) =>
    match skipSpace (skipAttributes rest.length rest) with
    | '>' :: after => some after
    | '/' :: '>' :: after => some after
    | _ => none

/-- The rest after a closing tag, given what follows its `<`. -/
def closeTag? : List Char → Option (List Char)
  | '/' :: s =>
    match tagName? s with
    | none => none
    | some (_, rest) =>
      match skipSpace rest with
      | '>' :: after => some after
      | _ => none
  | _ => none

/-- The rest after a construct of raw HTML inside text, given what follows its
    `<`. -/
def rawHtml? : List Char → Option (List Char)
  | '!' :: '-' :: '-' :: '>' :: rest => some rest
  | '!' :: '-' :: '-' :: '-' :: '>' :: rest => some rest
  | '!' :: '-' :: '-' :: rest => afterText "-->".toList rest
  | '!' :: '[' :: 'C' :: 'D' :: 'A' :: 'T' :: 'A' :: '[' :: rest => afterText "]]>".toList rest
  | '!' :: c :: rest => if isAsciiLetter c then afterText ['>'] rest else none
  | '?' :: rest => afterText "?>".toList rest
  | s => (openTag? s).or (closeTag? s)

/-! ## Blocks -/

/-- How a block of HTML ends. -/
inductive HtmlBlockEnd where
  /-- With the line that holds one of these texts, in lower case. -/
  | line (texts : List String)
  /-- Before the next blank line. -/
  | blank
  deriving Repr, DecidableEq

/-- Tags whose content is literal. -/
def literalTags : List String := ["script", "pre", "textarea", "style"]

/-- Tags that begin a block of HTML. -/
def blockTags : List String :=
  ["address", "article", "aside", "base", "basefont", "blockquote", "body", "caption", "center",
    "col", "colgroup", "dd", "details", "dialog", "dir", "div", "dl", "dt", "fieldset",
    "figcaption", "figure", "footer", "form", "frame", "frameset", "h1", "h2", "h3", "h4", "h5",
    "h6", "head", "header", "hr", "html", "iframe", "legend", "li", "link", "main", "menu",
    "menuitem", "nav", "noframes", "ol", "optgroup", "option", "p", "param", "search", "section",
    "summary", "table", "tbody", "td", "tfoot", "th", "thead", "title", "tr", "track", "ul"]

/-- The name of a tag in lower case, and what follows it. -/
def lowerTagName? (s : List Char) : Option (String × List Char) :=
  (tagName? s).map fun p => (String.ofList (p.1.map Char.toLower), p.2)

/-- Whether a tag name is followed by white space, by the end of the line or by
    one of the given texts. -/
def endsTagName (closers : List String) (rest : List Char) : Bool :=
  match rest with
  | [] => true
  | c :: _ => isAsciiSpace c || closers.any fun t => t.toList.isPrefixOf rest

/-- How the block of HTML ends that the text begins, given what follows its
    `<`. A tag by itself begins one only if it may interrupt what comes before. -/
def htmlBlockAfter? (mayInterrupt : Bool) (s : List Char) : Option HtmlBlockEnd :=
  let literal :=
    match lowerTagName? s with
    | some (name, rest) => literalTags.contains name && endsTagName [">"] rest
    | none => false
  let named :=
    match lowerTagName? (if s.head? = some '/' then s.tail else s) with
    | some (name, rest) => blockTags.contains name && endsTagName [">", "/>"] rest
    | none => false
  let alone :=
    match (openTag? s).or (closeTag? s) with
    | some rest => (rest.dropWhile fun c => isAsciiSpace c && !isLineEnd c).head?.all isLineEnd
    | none => false
  if literal then some (.line (literalTags.map fun t => "</" ++ t ++ ">"))
  else if "!--".toList.isPrefixOf s then some (.line ["-->"])
  else if "?".toList.isPrefixOf s then some (.line ["?>"])
  else if "![CDATA[".toList.isPrefixOf s then some (.line ["]]>"])
  else if s.head? = some '!' && s.tail.head?.any isAsciiLetter then some (.line [">"])
  else if named then some .blank
  else if mayInterrupt && alone then some .blank
  else none

/-- How the block of HTML ends that a line begins. -/
def htmlBlock? (mayInterrupt : Bool) : List Char → Option HtmlBlockEnd
  | '<' :: s => htmlBlockAfter? mayInterrupt s
  | _ => none

/-- Whether a line of a block of HTML is its last. -/
def HtmlBlockEnd.endsAt (stop : HtmlBlockEnd) (line : List Char) : Bool :=
  match stop with
  | .line texts => texts.any fun t => (afterText t.toList (line.map Char.toLower)).isSome
  | .blank => false

end DocSite.Markdown
