/-
  DocSite.Proofs.Text.Lowercase

  Lower-cased characters have no lower case but themselves, and lower-casing leaves such
  characters alone. This is read off the table of runs: no image of a run is a member of any.
  Members and images are compared as the bits of two numbers, since there are too many pairs
  of runs to compare them one by one.
-/
import DocSite.Text.Lowercase
import Mathlib.Data.List.Basic

namespace DocSite.Text

/-! ## Sets of numbers -/

/-- The number whose bits are the numbers of a list. -/
def bitsOf : List Nat → Nat
  | [] => 0
  | n :: rest => 1 <<< n ||| bitsOf rest

theorem testBit_bitsOf {n : Nat} {l : List Nat} (h : n ∈ l) : (bitsOf l).testBit n = true := by
  induction l with
  | nil => nomatch h
  | cons m rest ih =>
    rw [bitsOf, Nat.testBit_or, Nat.one_shiftLeft, Nat.testBit_two_pow, Bool.or_eq_true,
      decide_eq_true_eq]
    exact (List.mem_cons.mp h).imp Eq.symm ih

theorem not_mem_of_land_eq_zero {a b : List Nat} (h : bitsOf a &&& bitsOf b = 0) {n : Nat}
    (ha : n ∈ a) : n ∉ b := by
  intro hb
  have hbit := congrArg (Nat.testBit · n) h
  simp [Nat.testBit_and, testBit_bitsOf ha, testBit_bitsOf hb] at hbit

/-! ## Code points -/

/-- A run of capitals: its first and last member, the step between two members, and the
    image of the first. -/
abbrev CapitalRun := Nat × Nat × Nat × Nat

namespace CapitalRun

/-- Whether a code point is a member of a run. -/
def Has (r : CapitalRun) (n : Nat) : Prop :=
  r.1 ≤ n ∧ n ≤ r.2.1 ∧ (n - r.1) % r.2.2.1 = 0

/-- The image of a member. -/
def image (r : CapitalRun) (n : Nat) : Nat := r.2.2.2 + (n - r.1)

/-- As many numbers as a run has members, one step apart, from a number on. -/
def stepsFrom (r : CapitalRun) (first : Nat) : List Nat :=
  List.range' first ((r.2.1 - r.1) / r.2.2.1 + 1) r.2.2.1

theorem Has.mem_stepsFrom {r : CapitalRun} {n : Nat} (h : r.Has n) (first : Nat) :
    first + (n - r.1) ∈ r.stepsFrom first := by
  obtain ⟨hlow, hhigh, hstep⟩ := h
  refine List.mem_range'.mpr ⟨(n - r.1) / r.2.2.1, ?_, ?_⟩
  · exact Nat.lt_succ_of_le (Nat.div_le_div_right (Nat.sub_le_sub_right hhigh _))
  · rw [Nat.mul_div_cancel' (Nat.dvd_of_mod_eq_zero hstep)]

theorem Has.mem_members {r : CapitalRun} {n : Nat} (h : r.Has n) : n ∈ r.stepsFrom r.1 := by
  have hmem := h.mem_stepsFrom r.1
  rwa [Nat.add_sub_cancel' h.1] at hmem

end CapitalRun

/-- All runs of capitals. The capital that goes to two characters is a run of its own. -/
def capitalRuns : List CapitalRun := (0x130, 0x130, 1, 0x69) :: lowercaseRuns

/-- No image is a member of a run. -/
theorem not_has_image {r s : CapitalRun} (hr : r ∈ capitalRuns) (hs : s ∈ capitalRuns) {n : Nat}
    (hn : r.Has n) : ¬ s.Has (r.image n) := by
  have hapart : bitsOf (capitalRuns.flatMap fun r => r.stepsFrom r.2.2.2) &&&
      bitsOf (capitalRuns.flatMap fun r => r.stepsFrom r.1) = 0 := by
    decide +kernel
  intro himage
  exact not_mem_of_land_eq_zero hapart
    (List.mem_flatMap.mpr ⟨r, hr, hn.mem_stepsFrom r.2.2.2⟩)
    (List.mem_flatMap.mpr ⟨s, hs, himage.mem_members⟩)

/-- A code point is left alone, or it is a member of a run and goes to its image. -/
theorem lowerCodePoint_cases (runs : List CapitalRun) (n : Nat) :
    lowerCodePoint runs n = n ∨ ∃ r ∈ runs, r.Has n ∧ lowerCodePoint runs n = r.image n := by
  induction runs with
  | nil => exact .inl rfl
  | cons r rest ih =>
    obtain ⟨lo, hi, step, image⟩ := r
    rw [lowerCodePoint]
    split
    · exact .inl rfl
    · next hlow =>
      split
      · next hmember =>
        rw [Bool.and_eq_true, decide_eq_true_eq, beq_iff_eq] at hmember
        exact .inr ⟨_, List.mem_cons_self, ⟨Nat.le_of_not_lt hlow, hmember⟩, rfl⟩
      · exact ih.imp_right fun ⟨r, hr, h⟩ => ⟨r, List.mem_cons_of_mem _ hr, h⟩

/-- The lower case of a code point is its own lower case. -/
theorem lowerCodePoint_lowerCodePoint (n : Nat) :
    lowerCodePoint lowercaseRuns (lowerCodePoint lowercaseRuns n) =
      lowerCodePoint lowercaseRuns n := by
  rcases lowerCodePoint_cases lowercaseRuns n with hself | ⟨r, hr, hhas, himage⟩
  · rw [hself, hself]
  · rcases lowerCodePoint_cases lowercaseRuns (lowerCodePoint lowercaseRuns n) with
      hself | ⟨s, hs, hagain, -⟩
    · exact hself
    · rw [himage] at hagain
      exact absurd hagain
        (not_has_image (List.mem_cons_of_mem _ hr) (List.mem_cons_of_mem _ hs) hhas)

/-! ## Characters -/

/-- A character is in lower case if lower-casing leaves it alone. -/
def IsLower (c : Char) : Prop := lowerChar c = [c]

instance (c : Char) : Decidable (IsLower c) := inferInstanceAs (Decidable (lowerChar c = [c]))

/-- No lower case is the capital that goes to two characters. -/
theorem lowerCodePoint_ne {c : Char} (h : c ≠ 'İ') :
    lowerCodePoint lowercaseRuns c.toNat ≠ 0x130 := by
  rcases lowerCodePoint_cases lowercaseRuns c.toNat with hself | ⟨r, hr, hhas, himage⟩
  · rw [hself]
    exact fun heq => h (Char.ext (UInt32.toNat_inj.mp heq))
  · intro heq
    have hnot := not_has_image (List.mem_cons_of_mem _ hr) List.mem_cons_self hhas
    rw [← himage, heq] at hnot
    exact hnot ⟨Nat.le_refl _, Nat.le_refl _, rfl⟩

/-- The lower case of a character is in lower case. -/
theorem isLower_of_mem_lowerChar {c d : Char} (h : d ∈ lowerChar c) : IsLower d := by
  by_cases hc : c = 'İ'
  · have hall : ∀ d ∈ ['i', '\u0307'], IsLower d := List.forall_iff_forall_mem.mp (by decide)
    rw [lowerChar, if_pos hc] at h
    exact hall d h
  · rw [lowerChar, if_neg hc, List.mem_singleton] at h
    subst h
    by_cases hvalid : (lowerCodePoint lowercaseRuns c.toNat).isValidChar
    · have hnat : (Char.ofNat (lowerCodePoint lowercaseRuns c.toNat)).toNat =
          lowerCodePoint lowercaseRuns c.toNat := congrArg Char.toNat (dif_pos hvalid)
      have hne : Char.ofNat (lowerCodePoint lowercaseRuns c.toNat) ≠ 'İ' := by
        intro heq
        rw [heq] at hnat
        exact lowerCodePoint_ne hc hnat.symm
      rw [IsLower, lowerChar, if_neg hne, hnat, lowerCodePoint_lowerCodePoint]
    · have hzero : Char.ofNat (lowerCodePoint lowercaseRuns c.toNat) = '\x00' := dif_neg hvalid
      rw [hzero]
      decide

/-! ## Texts -/

theorem isLower_of_mem_lowercaseAfter {before s : List Char} {c : Char}
    (h : c ∈ lowercaseAfter before s) : IsLower c := by
  induction s generalizing before with
  | nil => nomatch h
  | cons d s ih =>
    rw [lowercaseAfter, List.mem_append] at h
    rcases h with himage | hrest
    · split at himage
      · have hsigmas : IsLower 'ς' ∧ IsLower 'σ' := by decide
        rw [List.mem_singleton.mp himage]
        split
        · exact hsigmas.1
        · exact hsigmas.2
      · exact isLower_of_mem_lowerChar himage
    · exact ih hrest

theorem isLower_of_mem_lowercase {s : List Char} {c : Char} (h : c ∈ lowercase s) : IsLower c :=
  isLower_of_mem_lowercaseAfter h

/-- A text in lower case is left alone. -/
theorem lowercase_eq_self {s : List Char} (h : ∀ c ∈ s, IsLower c) : lowercase s = s := by
  have hsigma : ¬ IsLower 'Σ' := by decide
  have hafter : ∀ before, lowercaseAfter before s = s := by
    induction s with
    | nil => exact fun _ => rfl
    | cons c s ih =>
      intro before
      obtain ⟨hc, hs⟩ := List.forall_mem_cons.mp h
      have hne : c ≠ 'Σ' := by
        rintro rfl
        exact hsigma hc
      rw [lowercaseAfter, if_neg hne, hc, ih hs, List.singleton_append]
  exact hafter []

end DocSite.Text
