/-
  DocSite.Proofs.Text.Split

  Cutting texts at a character: at the first one, at the last one, and at all.
-/
import DocSite.Text.Split
import Mathlib.Data.List.TakeWhile

namespace DocSite.Text

variable {sep : Char} {s : List Char}

theorem splitOnce_append {a : List Char} (h : sep ∉ a) (b : List Char) :
    splitOnce sep (a ++ sep :: b) = some (a, b) := by
  induction a with
  | nil => rw [List.nil_append, splitOnce, if_pos rfl]
  | cons c rest ih =>
    obtain ⟨hc, hrest⟩ := not_or.mp (mt List.mem_cons.mpr h)
    rw [List.cons_append, splitOnce, if_neg fun heq => hc heq.symm, ih hrest]
    rfl

theorem splitOnce_eq_none (h : sep ∉ s) : splitOnce sep s = none := by
  induction s with
  | nil => rfl
  | cons c rest ih =>
    obtain ⟨hc, hrest⟩ := not_or.mp (mt List.mem_cons.mpr h)
    rw [splitOnce, if_neg fun heq => hc heq.symm, ih hrest]
    rfl

/-- What stands before the first mark, and the text from there on. -/
theorem span_mark {a : List Char} (h : sep ∉ a) (b : List Char) :
    (a ++ sep :: b).takeWhile (· != sep) = a ∧ (a ++ sep :: b).dropWhile (· != sep) = sep :: b := by
  have hkeep : ∀ c ∈ a, (c != sep) = true := by
    intro c hc
    rw [bne_iff_ne]
    rintro rfl
    exact h hc
  have hstop : ¬(fun c => c != sep) sep = true := by simp
  have htake : (sep :: b).takeWhile (· != sep) = [] := List.takeWhile_cons_of_neg hstop
  have hdrop : (sep :: b).dropWhile (· != sep) = sep :: b := List.dropWhile_cons_of_neg hstop
  rw [List.takeWhile_append_of_pos hkeep, List.dropWhile_append_of_pos hkeep, htake, hdrop,
    List.append_nil]
  exact ⟨rfl, rfl⟩

/-- Nothing is cut off a text without the mark. -/
theorem span_of_not_mem (h : sep ∉ s) :
    s.takeWhile (· != sep) = s ∧ s.dropWhile (· != sep) = [] := by
  rw [List.takeWhile_eq_self_iff, List.dropWhile_eq_nil_iff]
  have hkeep : ∀ c ∈ s, (c != sep) = true := by
    intro c hc
    rw [bne_iff_ne]
    rintro rfl
    exact h hc
  exact ⟨hkeep, hkeep⟩

/-- A text is cut at the last of the characters of a kind. -/
theorem exists_last (h : sep ∈ s) : ∃ a b, s = a ++ sep :: b ∧ sep ∉ b := by
  obtain ⟨after, before, hs, hafter⟩ := List.eq_append_cons_of_mem (List.mem_reverse.mpr h)
  refine ⟨before.reverse, after.reverse, ?_, by rwa [List.mem_reverse]⟩
  rw [← List.reverse_reverse s, hs, List.reverse_append, List.reverse_cons, List.append_assoc]
  rfl

/-- The last of the characters of a kind tells what stands before it and behind it. -/
theorem append_mark_inj {a b c d : List Char} (hb : sep ∉ b) (hd : sep ∉ d) :
    a ++ sep :: b = c ++ sep :: d ↔ a = c ∧ b = d := by
  constructor
  · intro h
    -- Read from the end, the texts are cut at their first mark.
    have hcut : ∀ {x y : List Char}, sep ∉ y →
        splitOnce sep (x ++ sep :: y).reverse = some (y.reverse, x.reverse) := by
      intro x y hy
      rw [List.reverse_append, List.reverse_cons, List.append_assoc]
      exact splitOnce_append (mt List.mem_reverse.mp hy) _
    obtain ⟨hbd, hac⟩ := Prod.mk.inj (Option.some.inj ((hcut hb).symm.trans (h ▸ hcut hd)))
    exact ⟨List.reverse_inj.mp hac, List.reverse_inj.mp hbd⟩
  · rintro ⟨rfl, rfl⟩
    rfl

/-- A character that is no separator goes to the last of the parts. -/
theorem exists_splitOn_concat {c : Char} (h : c ≠ sep) (s : List Char) :
    ∃ parts last, last <:+ s ∧ (s ++ [c]).splitOn sep = parts ++ [last ++ [c]] := by
  have hnone : ∀ last, sep ∉ last → sep ∉ last ++ [c] := by
    intro last hlast
    rw [List.mem_append, List.mem_singleton, not_or]
    exact ⟨hlast, fun heq => h heq.symm⟩
  by_cases hsep : sep ∈ s
  · obtain ⟨a, last, rfl, hlast⟩ := exists_last hsep
    refine ⟨a.splitOn sep, last, ⟨a ++ [sep], by rw [List.append_assoc]; rfl⟩, ?_⟩
    rw [List.append_assoc, List.cons_append, List.splitOn_append_cons_self,
      List.splitOn_eq_singleton (hnone last hlast)]
  · exact ⟨[], s, List.suffix_refl s, List.splitOn_eq_singleton (hnone s hsep)⟩

/-- What stands in texts that are joined stands in one of them, or between them. -/
theorem mem_of_mem_intercalate {between : List Char} {texts : List (List Char)} {c : Char}
    (h : c ∈ between.intercalate texts) : c ∈ between ∨ ∃ s ∈ texts, c ∈ s := by
  induction texts with
  | nil => nomatch h
  | cons s rest ih =>
    cases rest with
    | nil =>
      rw [List.intercalate_singleton] at h
      exact .inr ⟨s, List.mem_cons_self, h⟩
    | cons t rest =>
      rw [List.intercalate_cons_cons, List.append_assoc, List.mem_append, List.mem_append] at h
      rcases h with hs | hbetween | hrest
      · exact .inr ⟨s, List.mem_cons_self, hs⟩
      · exact .inl hbetween
      · exact (ih hrest).imp_right fun ⟨u, hu, hc⟩ => ⟨u, List.mem_cons_of_mem _ hu, hc⟩

end DocSite.Text
