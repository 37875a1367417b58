/-
  DocSite.Proofs.Html.References

  References in the values of attributes. What follows an `&` decides whether it begins a
  reference, but only as far as the next `&`; so a value may be cut in front of an `&` and
  its parts be escaped apart. That is why escaping leaves every reference alone, wherever
  it stands, and why none comes into being where two parts meet.

  An obfuscated text is made of references alone. Each is read up to its `;`, as a number
  in decimal digits and as the character with that code point.
-/
import DocSite.Proofs.Html.Escape
import DocSite.Text.Split
import Mathlib.Data.List.Infix

namespace DocSite.Html

open DocSite.Text

/-! ## What follows an `&` -/

/-- What follows an `&` that begins a reference: a name, `;` and anything else. -/
def IsReferenceRest (s : List Char) : Prop :=
  ∃ name rest, IsReferenceName name ∧ s = name ++ ';' :: rest

theorem closesReference_iff (seen : Bool) (s : List Char) :
    closesReference seen s = true ↔
      ∃ run rest, (seen = true ∨ run ≠ []) ∧ (∀ c ∈ run, isReferenceChar c) ∧
        s = run ++ ';' :: rest := by
  -- On the text, for both values of `seen`: it turns true behind the first character of the run.
  induction s generalizing seen with
  | nil =>
    constructor
    · exact fun h => absurd h Bool.false_ne_true
    · rintro ⟨run, rest, -, -, h⟩
      exact absurd h.symm (List.append_ne_nil_of_right_ne_nil _ (List.cons_ne_nil _ _))
  | cons c s ih =>
    rw [closesReference]
    split
    · next hc =>
      rw [ih]
      constructor
      · rintro ⟨run, rest, -, hrun, rfl⟩
        exact ⟨c :: run, rest, .inr (List.cons_ne_nil _ _), List.forall_mem_cons.mpr ⟨hc, hrun⟩,
          rfl⟩
      · rintro ⟨run, rest, -, hrun, hs⟩
        cases run with
        | nil =>
          rw [(List.cons.inj hs).1] at hc
          exact absurd hc (by decide)
        | cons d run =>
          exact ⟨run, rest, .inl rfl, (List.forall_mem_cons.mp hrun).2, (List.cons.inj hs).2⟩
    · next hc =>
      rw [Bool.and_eq_true, beq_iff_eq]
      constructor
      · rintro ⟨hseen, rfl⟩
        exact ⟨[], s, .inl hseen, List.forall_mem_nil _, rfl⟩
      · rintro ⟨run, rest, hseen, hrun, hs⟩
        cases run with
        | nil => exact ⟨hseen.resolve_right (· rfl), (List.cons.inj hs).1⟩
        | cons d run =>
          rw [(List.cons.inj hs).1] at hc
          exact absurd (List.forall_mem_cons.mp hrun).1 hc

theorem isReferenceName_iff (name : List Char) :
    IsReferenceName name ↔
      ∃ run, run ≠ [] ∧ (∀ c ∈ run, isReferenceChar c) ∧ (name = run ∨ name = '#' :: run) := by
  unfold IsReferenceName withoutHash
  split
  · next rest =>
    constructor
    · rintro ⟨hne, hrun⟩
      exact ⟨rest, hne, hrun, .inr rfl⟩
    · rintro ⟨run, hne, hrun, rfl | h⟩
      · exact absurd (hrun '#' List.mem_cons_self) (by decide)
      · obtain rfl := (List.cons.inj h).2
        exact ⟨hne, hrun⟩
  · next hhash =>
    constructor
    · rintro ⟨hne, hrun⟩
      exact ⟨name, hne, hrun, .inl rfl⟩
    · rintro ⟨run, hne, hrun, rfl | h⟩
      · exact ⟨hne, hrun⟩
      · exact absurd h (hhash run)

/-- The look-ahead tells whether a reference begins. -/
theorem completesReference_iff (s : List Char) :
    completesReference s = true ↔ IsReferenceRest s := by
  unfold IsReferenceRest
  simp only [isReferenceName_iff]
  unfold completesReference
  split
  · next rest =>
    rw [closesReference_iff]
    constructor
    · rintro ⟨run, more, hne, hrun, rfl⟩
      exact ⟨'#' :: run, more, ⟨run, hne.resolve_left nofun, hrun, .inr rfl⟩, rfl⟩
    · rintro ⟨name, more, ⟨run, hne, hrun, rfl | rfl⟩, h⟩
      · -- No run of letters and digits begins with `#`.
        obtain ⟨d, run, rfl⟩ := List.exists_cons_of_ne_nil hne
        rw [← (List.cons.inj h).1] at hrun
        exact absurd (hrun '#' List.mem_cons_self) (by decide)
      · exact ⟨run, more, .inr hne, hrun, (List.cons.inj h).2⟩
  · next hhash =>
    rw [closesReference_iff]
    constructor
    · rintro ⟨run, more, hne, hrun, rfl⟩
      exact ⟨run, more, ⟨run, hne.resolve_left nofun, hrun, .inl rfl⟩, rfl⟩
    · rintro ⟨name, more, ⟨run, hne, hrun, rfl | rfl⟩, h⟩
      · exact ⟨name, more, .inr hne, hrun, h⟩
      · exact absurd h (hhash _)

/-- What follows an `&` is judged only as far as the next one. -/
theorem completesReference_append_amp (s rest : List Char) :
    completesReference (s ++ '&' :: rest) = completesReference s := by
  -- An `&` belongs to no reference, so that the run has ended in front of it.
  have hcloses : ∀ (seen : Bool) (s : List Char),
      closesReference seen (s ++ '&' :: rest) = closesReference seen s := by
    intro seen s
    induction s generalizing seen with
    | nil => cases seen <;> rfl
    | cons c s ih => rw [List.cons_append, closesReference, ih, closesReference]
  unfold completesReference
  split
  · next more h =>
    cases s with
    | nil => exact absurd (List.cons.inj h).1 (by decide)
    | cons c s =>
      obtain ⟨rfl, rfl⟩ := List.cons.inj h
      exact hcloses false s
  · next hhash =>
    rw [hcloses]
    split
    · next more => exact absurd rfl (hhash (more ++ '&' :: rest))
    · rfl

/-! ## The characters of a value -/

/-- What is written for a character of a value, when `kept` tells whether it begins a
    reference. -/
def escapeAttributeChar (kept : Bool) (c : Char) : List Char :=
  match c with
  | '&' => if kept then ['&'] else "&amp;".toList
  | '<' => "&lt;".toList
  | '>' => "&gt;".toList
  | '"' => "&quot;".toList
  | c => [c]

theorem escapeAttribute_cons (c : Char) (rest : List Char) :
    escapeAttribute (c :: rest) =
      escapeAttributeChar (completesReference rest) c ++ escapeAttribute rest := by
  by_cases hspecial : c = '&' ∨ c = '<' ∨ c = '>' ∨ c = '"'
  · obtain rfl | rfl | rfl | rfl := hspecial
    · rw [escapeAttribute, escapeAttributeChar]
      split <;> rfl
    all_goals rfl
  · simp only [not_or] at hspecial
    rw [escapeAttribute, escapeAttributeChar] <;> simp [hspecial]

theorem escapeAttributeChar_of_isInert {c : Char} (h : IsInert c) (kept : Bool) :
    escapeAttributeChar kept c = [c] := by
  unfold escapeAttributeChar
  split
  · exact absurd rfl h.1
  · exact absurd rfl h.2.1
  · exact absurd rfl h.2.2.1
  · exact absurd rfl h.2.2.2
  · rfl

/-- A character is escaped to itself, or to a reference by name. -/
theorem escapeAttributeChar_eq (kept : Bool) (c : Char) :
    escapeAttributeChar kept c = [c] ∨
      ∃ name, (name, c) ∈ [("amp", '&'), ("lt", '<'), ("gt", '>'), ("quot", '"')] ∧
        escapeAttributeChar kept c = '&' :: (name.toList ++ [';']) := by
  unfold escapeAttributeChar
  split
  · split
    · exact .inl rfl
    · exact .inr ⟨"amp", by decide, by decide⟩
  · exact .inr ⟨"lt", by decide, by decide⟩
  · exact .inr ⟨"gt", by decide, by decide⟩
  · exact .inr ⟨"quot", by decide, by decide⟩
  · exact .inl rfl

/-- A value may be cut in front of an `&`. -/
theorem escapeAttribute_append_amp (s rest : List Char) :
    escapeAttribute (s ++ '&' :: rest) = escapeAttribute s ++ escapeAttribute ('&' :: rest) := by
  induction s with
  | nil => rfl
  | cons c s ih =>
    rw [List.cons_append, escapeAttribute_cons c (s ++ '&' :: rest), completesReference_append_amp,
      ih, escapeAttribute_cons c s, List.append_assoc]

/-! ## References in values -/

theorem IsReferenceName.isInert {name : List Char} (h : IsReferenceName name) :
    ∀ c ∈ name ++ [';'], IsInert c := by
  intro c hc
  rcases List.mem_append.mp hc with hname | hend
  · rcases h.mem hname with rfl | hchar
    · decide
    · exact isInert_of (p := fun c => c.isAlphanum = true) hchar (by decide)
  · rw [List.mem_singleton.mp hend]
    decide

/-- The rest of a reference is left alone. -/
theorem escapeAttribute_name {name : List Char} (h : IsReferenceName name) (rest : List Char) :
    escapeAttribute (name ++ ';' :: rest) = name ++ ';' :: escapeAttribute rest := by
  have happend := escapeAttribute_append h.isInert rest
  rwa [List.append_assoc, List.append_assoc] at happend

/-- A reference is left alone, wherever it stands. -/
theorem escapeAttribute_reference {name : List Char} (h : IsReferenceName name)
    (before after : List Char) :
    escapeAttribute (before ++ '&' :: (name ++ ';' :: after)) =
      escapeAttribute before ++ '&' :: (name ++ ';' :: escapeAttribute after) := by
  have hbegins : completesReference (name ++ ';' :: after) = true :=
    (completesReference_iff _).mpr ⟨name, after, h, rfl⟩
  rw [escapeAttribute_append_amp, escapeAttribute_cons, hbegins, escapeAttribute_name h]
  rfl

/-! ## Escaped values -/

/-- A value that needs no escaping: every `&` begins a reference, and `<`, `>` and `"` do
    not occur. -/
structure IsEscaped (s : List Char) : Prop where
  references : ∀ after, '&' :: after <:+ s → IsReferenceRest after
  marks : '<' ∉ s ∧ '>' ∉ s ∧ '"' ∉ s

theorem suffix_of_suffix_append {mark : Char} {s front rest : List Char} (h : mark ∉ front)
    (hs : mark :: s <:+ front ++ rest) : mark :: s <:+ rest := by
  induction front with
  | nil => exact hs
  | cons c front ih =>
    rw [List.mem_cons, not_or] at h
    rcases List.suffix_cons_iff.mp hs with heq | hs
    · exact absurd (List.cons.inj heq).1 h.1
    · exact ih h.2 hs

/-- A value that needs no escaping is left alone. -/
theorem IsEscaped.escapeAttribute_eq {s : List Char} (h : IsEscaped s) : escapeAttribute s = s := by
  induction s with
  | nil => rfl
  | cons c s ih =>
    obtain ⟨hreferences, hmarks⟩ := h
    simp only [List.mem_cons, not_or] at hmarks
    obtain ⟨⟨hlt, hlts⟩, ⟨hgt, hgts⟩, hquot, hquots⟩ := hmarks
    have hrest : escapeAttribute s = s :=
      ih ⟨fun after hafter => hreferences after (hafter.trans (List.suffix_cons c s)),
        hlts, hgts, hquots⟩
    rw [escapeAttribute_cons, hrest]
    by_cases hamp : c = '&'
    · subst hamp
      rw [(completesReference_iff s).mpr (hreferences s (List.suffix_refl _))]
      rfl
    · rw [escapeAttributeChar_of_isInert ⟨hamp, Ne.symm hlt, Ne.symm hgt, Ne.symm hquot⟩]
      rfl

theorem references_escapeAttribute (s : List Char) :
    ∀ after, '&' :: after <:+ escapeAttribute s → IsReferenceRest after := by
  induction s with
  | nil =>
    intro after h
    exact absurd (List.suffix_nil.mp h) (List.cons_ne_nil _ _)
  | cons c s ih =>
    intro after h
    rw [escapeAttribute_cons] at h
    rcases escapeAttributeChar_eq (completesReference s) c with hself | ⟨name, hname, hwritten⟩
    · rw [hself] at h
      rcases List.suffix_cons_iff.mp h with heq | h
      · -- An `&` that is written as itself begins a reference, and it still does in front of
        -- the rest as that is written.
        obtain ⟨rfl, rfl⟩ := List.cons.inj heq
        have hkept : completesReference s = true := by
          by_contra hkept
          rw [Bool.not_eq_true] at hkept
          rw [hkept] at hself
          exact absurd hself (by decide)
        obtain ⟨name, rest, hname, rfl⟩ := (completesReference_iff s).mp hkept
        exact ⟨name, escapeAttribute rest, hname, escapeAttribute_name hname rest⟩
      · exact ih after h
    · have hreference : IsReferenceName name.toList := by
        have hall : ∀ p ∈ [("amp", '&'), ("lt", '<'), ("gt", '>'), ("quot", '"')],
            IsReferenceName p.1.toList := by decide
        exact hall _ hname
      have hamp : '&' ∉ name.toList ++ [';'] := fun hmem => (hreference.isInert _ hmem).1 rfl
      rw [hwritten, List.cons_append] at h
      rcases List.suffix_cons_iff.mp h with heq | h
      · rw [(List.cons.inj heq).2, List.append_assoc]
        exact ⟨name.toList, escapeAttribute s, hreference, rfl⟩
      · exact ih after (suffix_of_suffix_append hamp h)

/-- An escaped value needs no further escaping. -/
theorem isEscaped_escapeAttribute (s : List Char) : IsEscaped (escapeAttribute s) where
  references := references_escapeAttribute s
  marks := ⟨not_mem_escapeAttribute (.inl rfl) s, not_mem_escapeAttribute (.inr (.inl rfl)) s,
    not_mem_escapeAttribute (.inr (.inr rfl)) s⟩

/-! ## Values without references -/

/-- No `&` of a value begins a reference. -/
def HasNoReference (s : List Char) : Prop := ∀ after, '&' :: after <:+ s → ¬ IsReferenceRest after

theorem hasNoReference_iff (s : List Char) :
    HasNoReference s ↔ ∀ t ∈ s.tails, t.head? = some '&' → completesReference t.tail = false := by
  simp only [HasNoReference, List.mem_tails, ← completesReference_iff, Bool.not_eq_true]
  constructor
  · intro h t ht hhead
    obtain ⟨after, rfl⟩ := List.head?_eq_some_iff.mp hhead
    exact h after ht
  · intro h after hafter
    exact h _ hafter rfl

instance (s : List Char) : Decidable (HasNoReference s) :=
  decidable_of_iff _ (hasNoReference_iff s).symm

/-- Writes the characters for the references that escaping writes for them. -/
def unescapeAttribute : List Char → List Char
  | '&' :: 'a' :: 'm' :: 'p' :: ';' :: rest => '&' :: unescapeAttribute rest
  | '&' :: 'l' :: 't' :: ';' :: rest => '<' :: unescapeAttribute rest
  | '&' :: 'g' :: 't' :: ';' :: rest => '>' :: unescapeAttribute rest
  | '&' :: 'q' :: 'u' :: 'o' :: 't' :: ';' :: rest => '"' :: unescapeAttribute rest
  | c :: rest => c :: unescapeAttribute rest
  | [] => []

theorem unescapeAttribute_cons {c : Char} (h : c ≠ '&') (rest : List Char) :
    unescapeAttribute (c :: rest) = c :: unescapeAttribute rest := by
  rw [unescapeAttribute]
  all_goals
    intros
    exact h ‹_›

theorem unescapeAttribute_escapeAttributeChar {kept : Bool} {c : Char}
    (h : c = '&' → kept = false) (rest : List Char) :
    unescapeAttribute (escapeAttributeChar kept c ++ rest) = c :: unescapeAttribute rest := by
  unfold escapeAttributeChar
  split
  · rw [h rfl]
    rfl
  · rfl
  · rfl
  · rfl
  · next hamp _ _ _ => exact unescapeAttribute_cons hamp rest

/-- Escaping is undone where it finds no reference. -/
theorem HasNoReference.unescapeAttribute_eq {s : List Char} (h : HasNoReference s) :
    unescapeAttribute (escapeAttribute s) = s := by
  induction s with
  | nil => rfl
  | cons c s ih =>
    have hkept : c = '&' → completesReference s = false := by
      rintro rfl
      rw [← Bool.not_eq_true, completesReference_iff]
      exact h s (List.suffix_refl _)
    rw [escapeAttribute_cons, unescapeAttribute_escapeAttributeChar hkept,
      ih fun after hafter => h after (hafter.trans (List.suffix_cons c s))]

/-- Escaping makes a value safe, once and for all: the result needs no escaping, and escaping
    leaves it alone. A reference of the value stays as and where it is. Where a value has no
    reference, writing the characters back gives the value, so that no two such values are
    escaped alike. -/
theorem escapeAttribute_safe (s : List Char) :
    IsEscaped (escapeAttribute s) ∧ escapeAttribute (escapeAttribute s) = escapeAttribute s ∧
      (∀ before name after, IsReferenceName name →
        s = before ++ '&' :: (name ++ ';' :: after) →
        escapeAttribute s =
          escapeAttribute before ++ '&' :: (name ++ ';' :: escapeAttribute after)) ∧
      (HasNoReference s → unescapeAttribute (escapeAttribute s) = s ∧
        ∀ t, HasNoReference t → escapeAttribute t = escapeAttribute s → t = s) := by
  refine ⟨isEscaped_escapeAttribute s, (isEscaped_escapeAttribute s).escapeAttribute_eq, ?_, ?_⟩
  · rintro before name after hname rfl
    exact escapeAttribute_reference hname before after
  · intro h
    refine ⟨h.unescapeAttribute_eq, fun t ht heq => ?_⟩
    rw [← ht.unescapeAttribute_eq, heq, h.unescapeAttribute_eq]

/-- A reference between two characters that are escaped, and an `&` that nothing completes. -/
theorem escapeAttribute_safe_mixed :
    IsReferenceName "#38".toList ∧
      escapeAttribute "<&#38;&".toList = "&lt;&#38;&amp;".toList ∧
      HasNoReference "AT&T <x>; &".toList ∧
      unescapeAttribute (escapeAttribute "AT&T <x>; &".toList) = "AT&T <x>; &".toList ∧
      ∀ t, HasNoReference t → escapeAttribute t = escapeAttribute "AT&T <x>; &".toList →
        t = "AT&T <x>; &".toList := by
  have hname : IsReferenceName "#38".toList := by decide
  have hfree : HasNoReference "AT&T <x>; &".toList := by decide
  have hkept := (escapeAttribute_safe "<&#38;&".toList).2.2.1 "<".toList _ "&".toList hname
    (by decide)
  exact ⟨hname, hkept.trans (by decide), hfree, (escapeAttribute_safe _).2.2.2 hfree⟩

/-! ## Obfuscated texts -/

/-- A decimal reference without its `;`. -/
def referenceToken (c : Char) : List Char := '&' :: '#' :: padZeros 3 (decimal c.toNat)

/-- The character that a decimal reference of at least three digits stands for, read
    without its `;`. -/
def readToken? (token : List Char) : Option Char :=
  (dropPrefix? ['&', '#'] token).bind fun digits =>
    (readDecimal? digits).bind fun n =>
      if 3 ≤ digits.length ∧ n.isValidChar then some (Char.ofNat n) else none

/-- Reads a text of decimal references, each of which ends with `;`. -/
def reveal? (s : List Char) : Option (List Char) :=
  match (s.splitOn ';').reverse with
  | [] :: tokens => tokens.reverse.mapM readToken?
  | _ => none

/-- A character is read back from its reference. -/
theorem readToken?_referenceToken (c : Char) : readToken? (referenceToken c) = some c := by
  have hdigits : dropPrefix? ['&', '#'] (referenceToken c) = some (padZeros 3 (decimal c.toNat)) :=
    rfl
  rw [readToken?, hdigits, Option.bind_some, readDecimal?_padZeros, Option.bind_some,
    if_pos ⟨le_length_padZeros 3 _, c.valid⟩, Char.ofNat_toNat]

/-- An obfuscated text is cut into the references to its characters. -/
theorem splitOn_obfuscate (s : List Char) :
    (obfuscate s).splitOn ';' = s.map referenceToken ++ [[]] := by
  induction s with
  | nil => rfl
  | cons c s ih =>
    have hsplit : obfuscate (c :: s) = referenceToken c ++ ';' :: obfuscate s := by
      simp [obfuscate, numericReference, referenceToken]
    have hend : ';' ∉ referenceToken c := by
      rw [referenceToken, List.mem_cons, List.mem_cons]
      rintro (h | h | h)
      · cases h
      · cases h
      · exact absurd (isDigit_of_mem_padZeros h) (by decide)
    rw [hsplit, List.splitOn_append_cons_self, List.splitOn_eq_singleton hend, ih]
    rfl

/-- A text is read back from its obfuscated form. -/
theorem reveal?_obfuscate (s : List Char) : reveal? (obfuscate s) = some s := by
  have hread : (s.map referenceToken).mapM readToken? = some s := by
    induction s with
    | nil => rfl
    | cons c s ih =>
      rw [List.map_cons, List.mapM_cons, readToken?_referenceToken, ih]
      rfl
  rw [reveal?, splitOn_obfuscate, List.reverse_append]
  exact (congrArg (List.mapM readToken?) (List.reverse_reverse _)).trans hread

/-- Obfuscating can be undone, and is done once and for all: the references are cut at each
    `;` and read as decimal code points, character by character, so that different texts are
    obfuscated differently. There is nothing but references in the result, and escaping leaves
    it alone. -/
theorem obfuscate_reversible (s t : List Char) :
    reveal? (obfuscate s) = some s ∧ (obfuscate s = obfuscate t ↔ s = t) ∧
      obfuscate (s ++ t) = obfuscate s ++ obfuscate t ∧
      (obfuscate s).all (fun c => c == '&' || c == '#' || c == ';' || c.isDigit) = true ∧
      escapeAttribute (obfuscate s) = obfuscate s := by
  refine ⟨reveal?_obfuscate s, ⟨fun h => ?_, congrArg obfuscate⟩, obfuscate_append s t, ?_, ?_⟩
  · rw [← Option.some_inj, ← reveal?_obfuscate s, h, reveal?_obfuscate t]
  · rw [List.all_eq_true]
    intro c hc
    simpa [or_assoc] using of_mem_obfuscate hc
  · have happend := escapeAttribute_obfuscate s []
    rwa [List.append_nil, escapeAttribute, List.append_nil] at happend

end DocSite.Html
