/-
  DocSite.Proofs.Page.LinkElement

  What a link becomes on a page: an anchor with the attributes of its author, the
  target as the page leads to it, and its label in a `span`. The label is compared
  with the mail address to which the link leads after it has been printed, and a
  label that is the address is replaced as a whole.
-/
import DocSite.Proofs.Page.Admission
import DocSite.Proofs.Page.Settling

namespace DocSite

open DocSite.Html

/-! ## Attributes -/

/-- The attributes of a link on a page. -/
def linkAttributes (baseUrl : String) (attributes : Attributes) : Attributes :=
  let target := Link.onPage ((attributes.get? "href").getD "") baseUrl
  let attributes := attributes.insert "href" target.href
  if target.external then attributes.insert "data-bypass" "yes" else attributes

/-- Setting a key keeps the keys there are in their order. -/
theorem Attributes.keys_prefix_insert (attributes : Attributes) (key value : String) :
    attributes.entries.map Prod.fst <+: (attributes.insert key value).entries.map Prod.fst := by
  rw [insert, keys_setEntry]
  split
  · exact List.prefix_rfl
  · exact List.prefix_append _ _

theorem keys_prefix_linkAttributes (baseUrl : String) (attributes : Attributes) :
    attributes.entries.map Prod.fst
      <+: (linkAttributes baseUrl attributes).entries.map Prod.fst := by
  unfold linkAttributes
  dsimp only
  split
  · exact (attributes.keys_prefix_insert "href" _).trans
      (Attributes.keys_prefix_insert _ "data-bypass" "yes")
  · exact attributes.keys_prefix_insert "href" _

/-- What a link has on a page: its target, the mark of an external target, and otherwise
    what its author has set. -/
theorem get?_linkAttributes (baseUrl : String) (attributes : Attributes) (key : String) :
    let target := Link.onPage ((attributes.get? "href").getD "") baseUrl
    (linkAttributes baseUrl attributes).get? key
      = if key = "data-bypass" ∧ target.external = true then some "yes"
        else if key = "href" then some target.href else attributes.get? key := by
  intro target
  have hunfold : linkAttributes baseUrl attributes
      = if target.external then
          (attributes.insert "href" target.href).insert "data-bypass" "yes"
        else attributes.insert "href" target.href := rfl
  rw [hunfold]
  cases target.external with
  | true =>
    rw [if_pos rfl, Attributes.get?_insert, Attributes.get?_insert]
    simp only [and_true]
  | false =>
    rw [if_neg Bool.false_ne_true, Attributes.get?_insert]
    simp only [Bool.false_eq_true, and_false, if_false]

/-! ## Labels -/

/-- The label of a link on a page, given what it says before it is compared. -/
def shownLabel (attributes : Attributes) (label : List Html) : List Html :=
  if Admission.mailAddress? attributes = some (printAll label) then
    [.raw (String.ofList (obfuscate (printAll label).toList))]
  else label

section Settling

variable {settings : RenderSettings} {highlighter : Highlighter} {p q : Progress}

/-- A label is settled apart if there is an address to compare it with. -/
theorem Layout.link_eq (baseUrl : String) (attributes : Attributes) (label : List Draft) :
    link baseUrl attributes label
      = .element "a" (linkAttributes baseUrl attributes) [.element "span" .empty
          (match Admission.mailAddress? attributes with
            | some address => [.mailLabel address label]
            | none => label)] := by
  rw [link, Admission.mailAddress_onPage]
  rfl

/-- A link settles to an anchor around what its label settles to. -/
theorem Settles.of_link {baseUrl : String} {attributes : Attributes} {body : List Draft}
    {html : List Html}
    (h : Settles settings highlighter p [Layout.link baseUrl attributes body] html q) :
    ∃ label, Settles settings highlighter p body label q ∧
      html = [.element "a" (linkAttributes baseUrl attributes)
        [.element "span" .empty (shownLabel attributes label)]] := by
  rw [Layout.link_eq] at h
  obtain ⟨_, hspan, rfl⟩ := h.of_element
  obtain ⟨inner, hinner, rfl⟩ := hspan.of_element
  unfold shownLabel
  cases haddress : Admission.mailAddress? attributes with
  | none =>
    rw [haddress] at hinner
    exact ⟨inner, hinner, by rw [if_neg (Option.some_ne_none _).symm]⟩
  | some address =>
    rw [haddress] at hinner
    obtain ⟨label, hlabel, ⟨hshown, rfl⟩ | ⟨hkept, rfl⟩⟩ := hinner.of_mailLabel
    · exact ⟨label, hlabel, by rw [if_pos (congrArg some hshown.symm), hshown]⟩
    · refine ⟨inner, hlabel, ?_⟩
      rw [if_neg fun heq => hkept (Option.some.inj heq).symm]

end Settling

end DocSite
