/-
  DocSite.Proofs.Html.Escape

  What escaping guarantees: no character of a text, of a value or of an
  obfuscated address that has a meaning in markup is left in it.
-/
import DocSite.Html.Entity
import DocSite.Html.Escape
import DocSite.Proofs.Text.Decimal

namespace DocSite.Html

open DocSite.Text

/-! ## Characters that are left -/

theorem not_mem_escapeTextChar {mark : Char} (hmark : mark = '<' ∨ mark = '>') (c : Char) :
    mark ∉ escapeTextChar c := by
  unfold escapeTextChar
  split
  · rcases hmark with rfl | rfl <;> decide
  · rcases hmark with rfl | rfl <;> decide
  · rcases hmark with rfl | rfl <;> decide
  · next hlt hgt =>
    rw [List.mem_singleton]
    rintro rfl
    rcases hmark with rfl | rfl
    · exact hlt rfl
    · exact hgt rfl

/-- Neither `<` nor `>` is left in escaped text. -/
theorem not_mem_escapeText {mark : Char} (hmark : mark = '<' ∨ mark = '>') (s : List Char) :
    mark ∉ escapeText s := by
  rw [escapeText, List.mem_flatMap]
  rintro ⟨c, -, hc⟩
  exact not_mem_escapeTextChar hmark c hc

/-- Neither `<` nor `>` nor `"` is left in the value of an attribute. -/
theorem not_mem_escapeAttribute {mark : Char} (hmark : mark = '<' ∨ mark = '>' ∨ mark = '"')
    (s : List Char) : mark ∉ escapeAttribute s := by
  -- No reference that is written for a character holds a mark.
  have hnames : mark ∉ ['&', 'a', 'm', 'p', ';'] ∧ mark ∉ ['&', 'l', 't', ';'] ∧
      mark ∉ ['&', 'g', 't', ';'] ∧ mark ∉ ['&', 'q', 'u', 'o', 't', ';'] ∧ mark ≠ '&' := by
    rcases hmark with rfl | rfl | rfl <;> decide
  obtain ⟨hamp, hlt, hgt, hquot, hne⟩ := hnames
  induction s with
  | nil => exact List.not_mem_nil
  | cons c rest ih =>
    unfold escapeAttribute
    split
    · split
      · rw [List.mem_cons, not_or]
        exact ⟨hne, ih⟩
      · rw [List.mem_append, not_or]
        exact ⟨hamp, ih⟩
    · rw [List.mem_append, not_or]
      exact ⟨hlt, ih⟩
    · rw [List.mem_append, not_or]
      exact ⟨hgt, ih⟩
    · rw [List.mem_append, not_or]
      exact ⟨hquot, ih⟩
    · next hclt hcgt hcquot =>
      rw [List.mem_cons, not_or]
      refine ⟨?_, ih⟩
      rintro rfl
      rcases hmark with rfl | rfl | rfl
      · exact hclt rfl
      · exact hcgt rfl
      · exact hcquot rfl

/-- An obfuscated text is made of references in digits. -/
theorem of_mem_obfuscate {s : List Char} {c : Char} (h : c ∈ obfuscate s) :
    c = '&' ∨ c = '#' ∨ c = ';' ∨ c.isDigit := by
  rw [obfuscate, List.mem_flatMap] at h
  obtain ⟨d, -, hd⟩ := h
  rw [numericReference, List.mem_append, List.mem_append] at hd
  rcases hd with (hstart | hdigit) | hend
  · rw [List.mem_cons, List.mem_singleton] at hstart
    exact hstart.imp_right .inl
  · exact .inr (.inr (.inr (isDigit_of_mem_padZeros hdigit)))
  · exact .inr (.inr (.inl (List.mem_singleton.mp hend)))

/-- No tag begins or ends in an obfuscated address. -/
theorem not_mem_obfuscate {mark : Char} (hmark : mark = '<' ∨ mark = '>') (s : List Char) :
    mark ∉ obfuscate s := by
  intro hmem
  rcases of_mem_obfuscate hmem with h | h | h | h
  all_goals rcases hmark with rfl | rfl <;> exact absurd h (by decide)

/-! ## Texts without references -/

theorem one_le_length_escapeTextChar (c : Char) : 1 ≤ (escapeTextChar c).length := by
  unfold escapeTextChar
  split <;> simp

theorem length_le_escapeText (s : List Char) : s.length ≤ (escapeText s).length := by
  induction s with
  | nil => exact Nat.le_refl _
  | cons c rest ih =>
    have hchar := one_le_length_escapeTextChar c
    rw [escapeText, List.flatMap_cons, List.length_cons, List.length_append, ← escapeText]
    omega

/-- Escaping leaves exactly the texts as they are in which nothing has a meaning. -/
theorem escapeText_eq_self_iff (s : List Char) :
    escapeText s = s ↔ '&' ∉ s ∧ '<' ∉ s ∧ '>' ∉ s := by
  constructor
  · intro h
    refine ⟨?_, by rw [← h]; exact not_mem_escapeText (.inl rfl) s,
      by rw [← h]; exact not_mem_escapeText (.inr rfl) s⟩
    -- What is written for `&` begins with one, so that only its length gives it away.
    induction s with
    | nil => exact List.not_mem_nil
    | cons c rest ih =>
      have hsplit : escapeTextChar c ++ escapeText rest = c :: rest := h
      have hlength := congrArg List.length hsplit
      rw [List.length_append, List.length_cons] at hlength
      have hchar := one_le_length_escapeTextChar c
      have hrest := length_le_escapeText rest
      have hone : (escapeTextChar c).length = 1 := by omega
      rw [List.mem_cons, not_or]
      constructor
      · rintro rfl
        exact absurd hone (by decide)
      · obtain ⟨d, hd⟩ := List.length_eq_one_iff.mp hone
        rw [hd] at hsplit
        exact ih (List.cons.inj hsplit).2
  · rintro ⟨hamp, hlt, hgt⟩
    induction s with
    | nil => rfl
    | cons c rest ih =>
      rw [List.mem_cons, not_or] at hamp hlt hgt
      have hchar : escapeTextChar c = [c] := by
        unfold escapeTextChar
        split
        · exact absurd rfl hamp.1
        · exact absurd rfl hlt.1
        · exact absurd rfl hgt.1
        · rfl
      rw [escapeText, List.flatMap_cons, ← escapeText, hchar, ih hamp.2 hlt.2 hgt.2]
      rfl

/-! ## Obfuscated texts in attributes -/

/-- Digits that a semicolon follows close a reference. -/
theorem closesReference_digits {digits : List Char} (hdigits : ∀ c ∈ digits, c.isDigit)
    (hne : digits ≠ []) (rest : List Char) (seen : Bool) :
    closesReference seen (digits ++ ';' :: rest) = true := by
  induction digits generalizing seen with
  | nil => exact absurd rfl hne
  | cons d more ih =>
    obtain ⟨hd, hmore⟩ := List.forall_mem_cons.mp hdigits
    have hchar : isReferenceChar d = true := by
      unfold isReferenceChar Char.isAlphanum
      rw [hd, Bool.or_true]
    rw [List.cons_append, closesReference, if_pos hchar]
    cases more with
    | nil => rfl
    | cons e rest => exact ih hmore (List.cons_ne_nil e rest) true

/-- A character without a meaning in an attribute. -/
def IsInert (c : Char) : Prop := c ≠ '&' ∧ c ≠ '<' ∧ c ≠ '>' ∧ c ≠ '"'

instance (c : Char) : Decidable (IsInert c) :=
  inferInstanceAs (Decidable (c ≠ '&' ∧ c ≠ '<' ∧ c ≠ '>' ∧ c ≠ '"'))

/-- A character of a class that leaves out the characters with a meaning has none. -/
theorem isInert_of {p : Char → Prop} {c : Char} (hc : p c)
    (hp : ¬ p '&' ∧ ¬ p '<' ∧ ¬ p '>' ∧ ¬ p '"') : IsInert c := by
  obtain ⟨hamp, hlt, hgt, hquot⟩ := hp
  exact ⟨fun h => hamp (h ▸ hc), fun h => hlt (h ▸ hc), fun h => hgt (h ▸ hc),
    fun h => hquot (h ▸ hc)⟩

/-- Characters without a meaning stay as they are in an attribute. -/
theorem escapeAttribute_append {s : List Char} (h : ∀ c ∈ s, IsInert c) (rest : List Char) :
    escapeAttribute (s ++ rest) = s ++ escapeAttribute rest := by
  induction s with
  | nil => rfl
  | cons c s ih =>
    obtain ⟨⟨hamp, hlt, hgt, hquot⟩, hrest⟩ := List.forall_mem_cons.mp h
    rw [List.cons_append, List.cons_append, ← ih hrest]
    rw [escapeAttribute.eq_def]
    dsimp only
    split
    · exact absurd rfl hamp
    · exact absurd rfl hlt
    · exact absurd rfl hgt
    · exact absurd rfl hquot
    · rfl

/-- A decimal reference stays as it is in an attribute. -/
theorem escapeAttribute_numericReference (c : Char) (rest : List Char) :
    escapeAttribute (numericReference c ++ rest) = numericReference c ++ escapeAttribute rest := by
  have hdigits : ∀ d ∈ padZeros 3 (decimal c.toNat), d.isDigit := fun _ => isDigit_of_mem_padZeros
  have hplain : ∀ d ∈ '#' :: (padZeros 3 (decimal c.toNat) ++ [';']), IsInert d := by
    intro d hd
    rw [List.mem_cons, List.mem_append, List.mem_singleton] at hd
    rcases hd with rfl | hd | rfl
    · decide
    · exact isInert_of (p := fun d => d.isDigit = true) (hdigits d hd) (by decide)
    · decide
  have hsplit : numericReference c ++ rest
      = '&' :: ('#' :: (padZeros 3 (decimal c.toNat) ++ [';']) ++ rest) := by
    simp [numericReference]
  have hcloses : completesReference ('#' :: (padZeros 3 (decimal c.toNat) ++ [';']) ++ rest)
      = true := by
    have hread := closesReference_digits hdigits padZeros_decimal_ne_nil rest false
    rw [completesReference.eq_def]
    simpa using hread
  rw [hsplit, escapeAttribute.eq_def]
  dsimp only
  rw [if_pos hcloses, escapeAttribute_append hplain]
  simp [numericReference]

/-- An obfuscated text stays as it is in an attribute. -/
theorem escapeAttribute_obfuscate (s rest : List Char) :
    escapeAttribute (obfuscate s ++ rest) = obfuscate s ++ escapeAttribute rest := by
  induction s with
  | nil => rfl
  | cons c s ih =>
    have hcons : obfuscate (c :: s) = numericReference c ++ obfuscate s := List.flatMap_cons
    rw [hcons, List.append_assoc, escapeAttribute_numericReference, ih, List.append_assoc]

/-- A text that is not empty is not obfuscated by escaping it. -/
theorem escapeText_ne_obfuscate {s : List Char} (hne : s ≠ []) : escapeText s ≠ obfuscate s := by
  obtain ⟨c, rest, rfl⟩ := List.exists_cons_of_ne_nil hne
  have hobfuscate : obfuscate (c :: rest)
      = '&' :: '#' :: (padZeros 3 (decimal c.toNat) ++ [';'] ++ obfuscate rest) := by
    simp [obfuscate, numericReference]
  have hescape : escapeText (c :: rest) = escapeTextChar c ++ escapeText rest := List.flatMap_cons
  rw [hobfuscate, hescape]
  intro heq
  -- No reference by name begins with `#`.
  unfold escapeTextChar at heq
  split at heq
  · exact absurd (List.cons.inj (List.cons.inj heq).2).1 (by decide)
  · exact absurd (List.cons.inj (List.cons.inj heq).2).1 (by decide)
  · exact absurd (List.cons.inj (List.cons.inj heq).2).1 (by decide)
  · next hamp _ _ => exact hamp (List.cons.inj heq).1

/-! ## Names of references -/

/-- The name of a reference without the `#` of a numeric one. -/
def withoutHash : List Char → List Char
  | '#' :: rest => rest
  | name => name

/-- The name of a reference: an optional `#`, and ASCII letters and digits. -/
def IsReferenceName (name : List Char) : Prop :=
  withoutHash name ≠ [] ∧ ∀ c ∈ withoutHash name, isReferenceChar c

instance (name : List Char) : Decidable (IsReferenceName name) :=
  decidable_of_iff (withoutHash name ≠ [] ∧ (withoutHash name).all isReferenceChar)
    (and_congr_right fun _ => List.all_eq_true)

theorem IsReferenceName.mem {name : List Char} (h : IsReferenceName name) {c : Char}
    (hc : c ∈ name) : c = '#' ∨ isReferenceChar c := by
  unfold IsReferenceName withoutHash at h
  split at h
  · rcases List.mem_cons.mp hc with rfl | hc
    · exact .inl rfl
    · exact .inr (h.2 c hc)
  · exact .inr (h.2 c hc)

end DocSite.Html
