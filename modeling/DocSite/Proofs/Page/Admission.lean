/-
  DocSite.Proofs.Page.Admission

  What an author decides of the markup of a page: keys of attributes, names of
  references, raw HTML and links to mail addresses. The elements, and the keys
  that they are given besides those of the author, are the layout's own.
-/
import DocSite.Proofs.Page.Layout

namespace DocSite

open DocSite.Text

/-! ## Admission -/

/-- The elements around what a document says. -/
def layoutTags : List String :=
  ["p", "ul", "ol", "li", "table", "thead", "tbody", "tr", "th", "td", "section", "aside", "pre",
    "code", "a", "span", "strong", "em", "del"]

/-- The elements without content. -/
def emptyTags : List String := ["img", "br", "hr"]

/-- The keys of attributes that pages have whether their author sets them or not. -/
def layoutKeys : List String := ["href", "class", "id", "name", "start", "data-bypass"]

/-- What is admitted of an author. -/
structure Admission where
  key : String → Prop
  reference : String → Prop
  raw : String → Prop
  /-- The mail addresses that links may lead to. -/
  mail : String → Prop
  key_of_mem : ∀ k ∈ layoutKeys, key k

namespace Admission

variable (a : Admission)

/-- Attributes with admitted keys. -/
def Keys (attributes : Attributes) : Prop := ∀ entry ∈ attributes.entries, a.key entry.1

/-- The mail address that a link with the attributes leads to. -/
def mailAddress? (attributes : Attributes) : Option String :=
  (dropPrefix? "mailto:".toList ((attributes.get? "href").getD "").toList).map String.ofList

/-- The label of a link is settled apart only in a link to a mail address. -/
theorem mailAddress_onPage (attributes : Attributes) (baseUrl : String) :
    (Link.onPage ((attributes.get? "href").getD "") baseUrl).mailAddress
      = mailAddress? attributes := by
  unfold mailAddress? Link.onPage
  split
  · next heq =>
    rw [heq]
    rfl
  · next heq =>
    rw [heq]
    rfl

/-- What is admitted of a node, its children aside. -/
def Admits (kind : NodeKind) (attributes : Attributes) : Prop :=
  a.Keys attributes ∧
    match kind with
    | .entity name => a.reference name
    | .htmlBlock html => a.raw (Layout.closeLine html)
    | .htmlInline html => a.raw html
    | .link => ∀ address, mailAddress? attributes = some address → a.mail address
    | _ => True

variable {a}

theorem Admits.of_text (value other : String) (attributes : Attributes)
    (h : a.Admits (.text value) attributes) : a.Admits (.text other) attributes := h

theorem Keys.insert {attributes : Attributes} (h : a.Keys attributes) {key : String}
    (hkey : a.key key) (value : String) : a.Keys (attributes.insert key value) := by
  intro entry hentry
  have hmem : entry.1 ∈ (setEntry key value attributes.entries).map Prod.fst :=
    List.mem_map_of_mem hentry
  have hold : entry.1 ∈ attributes.entries.map Prod.fst → a.key entry.1 := by
    intro hmem
    obtain ⟨e, he, heq⟩ := List.mem_map.mp hmem
    rw [← heq]
    exact h e he
  rw [keys_setEntry] at hmem
  split at hmem
  · exact hold hmem
  · rcases List.mem_append.mp hmem with hmem | hnew
    · exact hold hmem
    · rw [List.mem_singleton.mp hnew]
      exact hkey

theorem keys_empty : a.Keys .empty := by
  intro entry hentry
  exact absurd hentry List.not_mem_nil

theorem keys_ofList {entries : List (String × String)} (h : ∀ e ∈ entries, e.1 ∈ layoutKeys) :
    a.Keys (.ofList entries) := by
  have hfold : ∀ (attributes : Attributes), a.Keys attributes →
      a.Keys (entries.foldl (fun attrs e => attrs.insert e.1 e.2) attributes) := by
    induction entries with
    | nil => exact fun _ hkeys => hkeys
    | cons e rest ih =>
      intro attributes hkeys
      rw [List.forall_mem_cons] at h
      exact ih h.2 _ (hkeys.insert (a.key_of_mem _ h.1) e.2)
  exact hfold _ keys_empty

end Admission

/-! ## Attributes that the layout changes -/

namespace Layout

open Admission

variable {a : Admission}

theorem keys_quoteAttributes {attributes : Attributes} (h : a.Keys attributes)
    (children : List Node) : a.Keys (quoteAttributes attributes children) := by
  have hclass : a.key "class" := a.key_of_mem _ (by decide)
  unfold quoteAttributes
  split
  · unfold admonitionAttributes
    split
    · dsimp only
      split
      · split
        · exact h
        · exact h.insert hclass _
      · split
        · exact h
        · exact h.insert hclass _
    · dsimp only
      split
      · exact h
      · exact h.insert hclass _
  · exact h

theorem keys_listAttributes {attributes : Attributes} (h : a.Keys attributes) (ordered : Bool)
    (start : Nat) : a.Keys (listAttributes attributes ordered start) := by
  unfold listAttributes
  split
  · exact h.insert (a.key_of_mem _ (by decide)) _
  · exact h

end Layout

end DocSite
