/-
  DocSite.Text.Ranges

  Sets of code points given as increasing lists of closed ranges. A search
  stops at the first range that lies beyond the code point. All tables of
  characters are those of Unicode 17.
-/
namespace DocSite.Text

/-- Whether `n` lies in one of the increasing closed ranges. -/
def inRanges : List (Nat × Nat) → Nat → Bool
  | [], _ => false
  | (lo, hi) :: rest, n => if n < lo then false else n ≤ hi || inRanges rest n

/-- A member of the ranges lies between the ends of one of them. -/
theorem exists_of_inRanges {rs : List (Nat × Nat)} {n : Nat} (h : inRanges rs n = true) :
    ∃ r ∈ rs, r.1 ≤ n ∧ n ≤ r.2 := by
  induction rs with
  | nil => simp [inRanges] at h
  | cons r rest ih =>
    obtain ⟨lo, hi⟩ := r
    simp only [inRanges] at h
    split at h
    · simp at h
    · next hlo =>
      rcases Bool.or_eq_true_iff.1 h with hle | hrest
      · exact ⟨(lo, hi), by simp, by simpa using hlo, by simpa using hle⟩
      · obtain ⟨r, hr, hb⟩ := ih hrest
        exact ⟨r, by simp [hr], hb⟩

end DocSite.Text
