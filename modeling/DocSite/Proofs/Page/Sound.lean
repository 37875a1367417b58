/-
  DocSite.Proofs.Page.Sound

  What is admitted of an author throughout a document is all that the draft of the
  document has of an author: everything else in it is the layout's own.
-/
import DocSite.Proofs.Page.Composition

namespace DocSite

open DocSite.Text

/-! ## Drafts -/

namespace Draft

mutual

/-- A piece of a draft in which all that is not the layout's own is admitted. -/
def Sound (a : Admission) : Draft → Prop
  | .settled (.text _) => True
  | .settled (.raw s) => a.raw s
  | .settled (.reference name) => a.reference name
  | .settled (.void tag attributes) => tag ∈ emptyTags ∧ a.Keys attributes
  -- Elements are settled with what they hold, so that none is settled before.
  | .settled (.element ..) => False
  | .element tag attributes body => tag ∈ layoutTags ∧ a.Keys attributes ∧ SoundAll a body
  | .code _ => True
  | .heading spot body => a.Keys spot.attributes ∧ SoundAll a body
  | .mailLabel address body => a.mail address ∧ SoundAll a body

/-- A draft of sound pieces. -/
def SoundAll (a : Admission) : List Draft → Prop
  | [] => True
  | piece :: rest => piece.Sound a ∧ SoundAll a rest

end

variable {a : Admission}

@[simp] theorem soundAll_nil : SoundAll a [] := trivial

@[simp] theorem soundAll_cons {piece : Draft} {rest : List Draft} :
    SoundAll a (piece :: rest) ↔ piece.Sound a ∧ SoundAll a rest := by
  rw [SoundAll]

theorem soundAll_iff {draft : List Draft} : SoundAll a draft ↔ ∀ piece ∈ draft, piece.Sound a := by
  induction draft with
  | nil => simp
  | cons piece rest ih => rw [soundAll_cons, ih, List.forall_mem_cons]

@[simp] theorem soundAll_append {b c : List Draft} :
    SoundAll a (b ++ c) ↔ SoundAll a b ∧ SoundAll a c := by
  simp only [soundAll_iff, List.forall_mem_append]

theorem sound_of_isSpace {piece : Draft} (h : piece.isSpace = true) : piece.Sound a := by
  obtain ⟨s, rfl⟩ := exists_of_isSpace h
  trivial

end Draft

/-! ## Layout -/

namespace Layout

open Admission
open Draft (SoundAll)

variable {a : Admission} (baseUrl : String)

/-- The label of a link is settled apart only in a link to a mail address. -/
theorem sound_link {attributes : Attributes} {label : List Draft}
    (h : a.Admits .link attributes) (hlabel : SoundAll a label) :
    (link baseUrl attributes label).Sound a := by
  obtain ⟨hkeys, hmail⟩ := h
  have hhref : ∀ value, a.Keys (attributes.insert "href" value) :=
    hkeys.insert (a.key_of_mem _ (by decide))
  have hall : ∀ (attributes : Attributes) (label : List Draft), a.Keys attributes →
      SoundAll a label →
      (Draft.element "a" attributes [.element "span" .empty label]).Sound a := by
    intro attributes label hkeys hlabel
    simp only [Draft.Sound, Draft.soundAll_cons, Draft.soundAll_nil, and_true]
    exact ⟨by decide, hkeys, by decide, keys_empty, hlabel⟩
  unfold link
  refine hall _ _ ?_ ?_
  · split
    · exact (hhref _).insert (a.key_of_mem _ (by decide)) _
    · exact hhref _
  · split
    · next address haddress =>
      have hto : mailAddress? attributes = some address := by
        rw [← mailAddress_onPage attributes baseUrl, haddress]
      exact Draft.soundAll_cons.mpr ⟨⟨hmail address hto, hlabel⟩, Draft.soundAll_nil⟩
    · exact hlabel

/-- What a leaf is settled as is admitted with the leaf. -/
theorem sound_opening {n : Node} {html : Html} (h : a.Admits n.kind n.attributes)
    (hopening : n.opening = [.settled html]) : (Draft.settled html).Sound a := by
  obtain ⟨hkeys, hown⟩ := h
  unfold Node.opening at hopening
  cases hkind : n.kind with
  | text value | entity name | htmlBlock html | htmlInline html =>
    rw [hkind] at hown hopening
    cases hopening
    exact hown
  | image | thematicBreak =>
    rw [hkind] at hopening
    cases hopening
    exact ⟨by decide, hkeys⟩
  | lineBreak =>
    rw [hkind] at hopening
    cases hopening
    exact ⟨by decide, keys_empty⟩
  | _ =>
    rw [hkind] at hopening
    cases hopening

/-- A draft that is composed of admitted nodes is sound. -/
theorem Composed.sound {baseUrl : String} {draft : List Draft} {v : List Node}
    (h : Composed baseUrl draft v) (hadmits : ∀ n ∈ v, a.Admits n.kind n.attributes) :
    SoundAll a draft := by
  have hsingle : ∀ {piece : Draft}, piece.Sound a → SoundAll a [piece] := fun hpiece =>
    Draft.soundAll_cons.mpr ⟨hpiece, Draft.soundAll_nil⟩
  induction h with
  | nil => exact Draft.soundAll_nil
  | append hb hc ihb ihc =>
    obtain ⟨hadmitsb, hadmitsc⟩ := List.forall_mem_append.mp hadmits
    exact Draft.soundAll_append.mpr ⟨ihb hadmitsb, ihc hadmitsc⟩
  | space hspace => exact hsingle (Draft.sound_of_isSpace hspace)
  | frame htag hne hkeys hbody ih => exact hsingle ⟨htag, hkeys a keys_empty, ih hadmits⟩
  | backLink name reference =>
    exact hsingle ⟨by decide, keys_ofList (by simp [layoutKeys]), trivial, trivial⟩
  | bare hframe hbody ih => exact ih (List.forall_mem_cons.mp hadmits).2
  | element hframe htag hne hkeys hbody ih =>
    obtain ⟨hown, hadmits⟩ := List.forall_mem_cons.mp hadmits
    exact hsingle ⟨htag, hkeys a hown.1, ih hadmits⟩
  | leaf hopening =>
    obtain ⟨hown, -⟩ := List.forall_mem_cons.mp hadmits
    exact hsingle (sound_opening hown hopening)
  | code hspot hkeys =>
    obtain ⟨hown, -⟩ := List.forall_mem_cons.mp hadmits
    exact hsingle ⟨by decide, hkeys a hown.1, hsingle trivial⟩
  | heading hkind hbody ih =>
    obtain ⟨hown, hadmits⟩ := List.forall_mem_cons.mp hadmits
    exact hsingle ⟨hown.1, ih hadmits⟩
  | anchor hkind hbody ih =>
    obtain ⟨hown, hadmits⟩ := List.forall_mem_cons.mp hadmits
    exact hsingle ⟨by decide, hown.1, ih hadmits⟩
  | link hkind hbody ih =>
    obtain ⟨hown, hadmits⟩ := List.forall_mem_cons.mp hadmits
    rw [hkind] at hown
    exact hsingle (sound_link baseUrl hown (ih hadmits))

/-- **The layout adds nothing to what is admitted.** The draft of a document is
    sound if everything in the document is admitted. -/
theorem sound_node {n : Node} (hn : n.Throughout a.Admits) (indent : Nat) :
    SoundAll a (node baseUrl indent n) :=
  (Composed.node baseUrl n indent).sound fun _ hm => hn.of_mem_visited Admits.of_text hm

end Layout

end DocSite
