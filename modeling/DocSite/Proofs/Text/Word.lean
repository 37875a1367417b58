/-
  DocSite.Proofs.Text.Word

  Word characters are no white space and no braces, and digits are no white space.
  This is read off the tables of code points: no range of one table meets a range of
  the other.
-/
import DocSite.Text.Blank
import DocSite.Text.Word

namespace DocSite.Text

/-- No code point lies in a range of both lists. -/
def apart (a b : List (Nat × Nat)) : Bool :=
  a.all fun r => b.all fun s => r.2 < s.1 || s.2 < r.1

theorem inRanges_eq_false {a b : List (Nat × Nat)} {n : Nat} (hapart : apart a b = true)
    (h : inRanges a n = true) : inRanges b n = false := by
  rw [Bool.eq_false_iff]
  intro hb
  obtain ⟨r, hr, hlow, hhigh⟩ := exists_of_inRanges h
  obtain ⟨s, hs, hlow', hhigh'⟩ := exists_of_inRanges hb
  have hrs := List.all_eq_true.mp (List.all_eq_true.mp hapart r hr) s hs
  rw [Bool.or_eq_true, decide_eq_true_eq, decide_eq_true_eq] at hrs
  omega

theorem isBlank_eq_false_of_isWordChar {c : Char} (h : isWordChar c = true) :
    isBlank c = false := by
  rcases Bool.or_eq_true_iff.mp h with h | h
  · exact inRanges_eq_false (a := alphabeticRanges) (by decide +kernel) h
  · exact inRanges_eq_false (a := wordExtraRanges) (by decide +kernel) h

theorem isBlank_eq_false_of_isDigit {c : Char} (h : c.isDigit = true) : isBlank c = false := by
  obtain ⟨hlow, hhigh⟩ : 0x30 ≤ c.toNat ∧ c.toNat ≤ 0x39 := Char.isDigit_iff_toNat.mp h
  have hrange : inRanges [(0x30, 0x39)] c.toNat = true := by
    rw [inRanges, if_neg (by omega), decide_eq_true hhigh, Bool.true_or]
  exact inRanges_eq_false (by decide) hrange

theorem ne_brace_of_isWordChar {c : Char} (h : isWordChar c = true) : c ≠ '{' := by
  rintro rfl
  exact absurd h (by decide +kernel)

end DocSite.Text
