/-
  DocSite.Document.Describe

  Kinds of nodes as error messages name them.
-/
import DocSite.Document.Node
import DocSite.Text.Decimal
import DocSite.Text.Quoted

namespace DocSite.NodeKind

/-- A text between quotes. -/
def quote (s : String) : String := String.ofList (Text.quoted s.toList)

/-- A truth value by its name. -/
def truthName (b : Bool) : String := if b then "true" else "false"

/-- A number in decimal digits. -/
def number (n : Nat) : String := String.ofList (Text.decimal n)

/-- A kind with the data it carries by name. -/
def withFields (name : String) (fields : List (String × String)) : String :=
  name ++ " \x7b " ++ ", ".intercalate (fields.map fun f => f.1 ++ ": " ++ f.2) ++ " \x7d"

/-- A kind with the text it carries. -/
def withText (name text : String) : String := name ++ "(" ++ quote text ++ ")"

/-- The name of a kind and the data it carries. -/
def describe : NodeKind → String
  | .document => "Document"
  | .header level rawText =>
    withFields "Header" [("level", number level), ("raw_text", quote rawText)]
  | .paragraph => "Paragraph"
  | .list ordered start tight =>
    withFields "List"
      [("ordered", truthName ordered), ("start", number start), ("tight", truthName tight)]
  | .listItem => "ListItem"
  | .table => "Table"
  | .tableHead => "TableHead"
  | .tableBody => "TableBody"
  | .tableRow => "TableRow"
  | .tableCell inHead => withFields "TableCell" [("header", truthName inHead)]
  | .footnoteDefinition name references =>
    withFields "FootnoteDefinition" [("name", quote name), ("references", number references)]
  | .link => "Link"
  | .image => "Image"
  | .text value => withText "Text" value
  | .strong => "Strong"
  | .emphasis => "Emphasis"
  | .strikethrough => "Strikethrough"
  | .codeBlock code => withText "CodeBlock" code
  | .codeSpan code => withText "CodeSpan" code
  | .blockquote => "Blockquote"
  | .anchor => "Anchor"
  | .entity name => withText "Entity" name
  | .htmlBlock html => withText "HtmlBlock" html
  | .htmlInline html => withText "HtmlInline" html
  | .softBreak => "SoftBreak"
  | .lineBreak => "LineBreak"
  | .thematicBreak => "ThematicBreak"

end DocSite.NodeKind
