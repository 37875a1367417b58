/-
  DocSite.Manifest.Json

  The navigation manifest as JSON. Fields that are not set are left out.
-/
import DocSite.Json.Print
import DocSite.Json.Read
import DocSite.Manifest.Item

namespace DocSite

/-! ## Writing -/

/-- A text field, when it is set. -/
def textField (name : String) : Option String → List (String × Value)
  | some s => [(name, .text s)]
  | none => []

mutual

/-- An entry as a record. -/
def ManifestItem.toValue : ManifestItem → Value
  | ⟨id, title, url, kind, isExternal, pages⟩ =>
    .record (textField "id" id ++ ("title", .text title) :: textField "url" url
      ++ textField "type" (kind.map ItemKind.name)
      ++ (if isExternal then [("is_external", .boolean true)] else [])
      ++ pagesField pages)

/-- The pages below an entry, when there is a list of them. -/
def pagesField : Option (List ManifestItem) → List (String × Value)
  | some items => [("pages", .list (manifestValues items))]
  | none => []

/-- Entries as records. -/
def manifestValues : List ManifestItem → List Value
  | [] => []
  | item :: rest => item.toValue :: manifestValues rest

end

/-- The JSON text of a manifest. -/
def manifestJson (items : List ManifestItem) : String :=
  String.ofList (Json.print (.list (manifestValues items)))

/-! ## Reading -/

/-- The names of an entry's fields in order. -/
def manifestFields : List String := ["id", "title", "url", "type", "is_external", "pages"]

/-- A kind by its name. A record of one member may hold the name, with nothing in
    it. -/
def ItemKind.ofValue? : Value → Option ItemKind
  | .text "header" => some .header
  | .text "placeholder" => some .placeholder
  | .record [("header", .null)] => some .header
  | .record [("placeholder", .null)] => some .placeholder
  | _ => none

/-- An entry of a record. The fuel bounds the depth of pages below pages. -/
def ManifestItem.ofValue? : Nat → Value → Option ManifestItem
  | 0, _ => none
  | depth + 1, value => do
    let fields ← value.fields? true manifestFields
    let id ← fieldOr fields "id" none (Value.asNullable? Value.asText?)
    let title ← fieldOf? fields "title" Value.asText?
    let url ← fieldOr fields "url" none (Value.asNullable? Value.asText?)
    let kind ← fieldOr fields "type" none (Value.asNullable? ItemKind.ofValue?)
    let isExternal ← fieldOr fields "is_external" false Value.asBoolean?
    let pages ← fieldOr fields "pages" none
      (Value.asNullable? (Value.asList? (ManifestItem.ofValue? depth)))
    pure ⟨id, title, url, kind, isExternal, pages⟩

/-- The entries of a manifest. -/
def manifestOfValue? (value : Value) : Option (List ManifestItem) :=
  value.asList? (ManifestItem.ofValue? value.size)

/-- The entries of a manifest's JSON text. -/
def readManifest? (text : String) : Option (List ManifestItem) :=
  (Json.read? text.toList).bind manifestOfValue?

end DocSite
