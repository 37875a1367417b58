/-
  DocSite.Proofs.Text.Blank

  Texts without their white space, which is what is left of a text however it
  is trimmed, broken into lines and indented; and texts up to their first white
  space, which are their first words.
-/
import DocSite.Text.Blank
import Mathlib.Data.List.TakeWhile

namespace DocSite.Text

/-- A text without its white space. -/
def withoutBlanks (s : List Char) : List Char := s.filter (!isBlank ·)

@[simp] theorem withoutBlanks_nil : withoutBlanks [] = [] := rfl

@[simp] theorem withoutBlanks_append (s t : List Char) :
    withoutBlanks (s ++ t) = withoutBlanks s ++ withoutBlanks t := List.filter_append ..

theorem withoutBlanks_eq_nil {s : List Char} (h : s.all isBlank = true) :
    withoutBlanks s = [] := by
  rw [withoutBlanks, List.filter_eq_nil_iff]
  intro c hc
  rw [List.all_eq_true.mp h c hc]
  decide

theorem all_isBlank_replicate (n : Nat) : (List.replicate n ' ').all isBlank = true := by
  rw [List.all_replicate]
  split
  · rfl
  · decide

theorem withoutBlanks_flatMap {α : Type} (f : α → List Char) (l : List α) :
    withoutBlanks (l.flatMap f) = l.flatMap fun x => withoutBlanks (f x) := by
  induction l with
  | nil => rfl
  | cons x rest ih => rw [List.flatMap_cons, withoutBlanks_append, ih, List.flatMap_cons]

theorem withoutBlanks_trimStart (s : List Char) :
    withoutBlanks (trimStart s) = withoutBlanks s := by
  induction s with
  | nil => rfl
  | cons c rest ih =>
    cases hc : isBlank c with
    | true =>
      have hdrop : trimStart (c :: rest) = trimStart rest := List.dropWhile_cons_of_pos hc
      have hfilter : withoutBlanks (c :: rest) = withoutBlanks rest :=
        List.filter_cons_of_neg (by simp [hc])
      rw [hdrop, hfilter, ih]
    | false => rw [trimStart, List.dropWhile_cons_of_neg (by simp [hc])]

/-! ## Trimming -/

/-- `s` is `core` with white space around it, and `core` is not blank at either end. -/
structure Trims (s core : List Char) : Prop where
  around : ∃ before after, s = before ++ core ++ after ∧
    (∀ c ∈ before, isBlank c = true) ∧ ∀ c ∈ after, isBlank c = true
  head : ∀ c ∈ core.head?, isBlank c = false
  last : ∀ c ∈ core.getLast?, isBlank c = false

theorem dropWhile_isBlank_eq_self {s : List Char} (h : ∀ c ∈ s.head?, isBlank c = false) :
    s.dropWhile isBlank = s := by
  cases s with
  | nil => rfl
  | cons c rest =>
    exact List.dropWhile_cons_of_neg (by rw [h c rfl]; exact Bool.false_ne_true)

theorem head?_dropWhile_isBlank (s : List Char) :
    ∀ c ∈ (s.dropWhile isBlank).head?, isBlank c = false := by
  intro c hc
  have hstop := List.head?_dropWhile_not isBlank s
  rw [Option.mem_def.mp hc] at hstop
  simpa using hstop

/-- White space at the end is trimmed off, whatever stands before it. -/
theorem trimEnd_append_blanks (s : List Char) {blanks : List Char}
    (h : ∀ c ∈ blanks, isBlank c = true) : trimEnd (s ++ blanks) = trimEnd s := by
  have hreverse : ∀ c ∈ blanks.reverse, isBlank c = true := fun c hc =>
    h c (List.mem_reverse.mp hc)
  rw [trimEnd, List.reverse_append, List.dropWhile_append_of_pos hreverse, trimEnd]

/-- A text is its trimmed form and white space. -/
theorem exists_trimEnd_append (s : List Char) :
    ∃ blanks, s = trimEnd s ++ blanks ∧ ∀ c ∈ blanks, isBlank c = true := by
  refine ⟨(s.reverse.takeWhile isBlank).reverse, ?_, ?_⟩
  · rw [trimEnd, ← List.reverse_append, List.takeWhile_append_dropWhile, List.reverse_reverse]
  · exact fun c hc => List.mem_takeWhile_imp (List.mem_reverse.mp hc)

/-- White space around a core is trimmed off. -/
theorem Trims.trim_eq {s core : List Char} (h : Trims s core) : trim s = core := by
  obtain ⟨⟨before, after, rfl, hbefore, hafter⟩, hhead, hlast⟩ := h
  have hlast' : ∀ c ∈ core.reverse.head?, isBlank c = false := by
    rwa [List.head?_reverse]
  have hend : trimEnd (core ++ after) = core := by
    rw [trimEnd_append_blanks core hafter, trimEnd, dropWhile_isBlank_eq_self hlast',
      List.reverse_reverse]
  rw [trim, trimStart, List.append_assoc, List.dropWhile_append_of_pos hbefore]
  cases core with
  | nil =>
    rw [List.nil_append, List.dropWhile_eq_nil_iff.mpr hafter]
    rfl
  | cons c rest => rw [dropWhile_isBlank_eq_self (s := c :: rest ++ after) hhead, hend]

/-- Trimming leaves the core of a text. -/
theorem trims_trim (s : List Char) : Trims s (trim s) := by
  obtain ⟨after, hback, hafter⟩ := exists_trimEnd_append (trimStart s)
  rw [← trim] at hback
  refine ⟨⟨s.takeWhile isBlank, after, ?_, fun c hc => List.mem_takeWhile_imp hc, hafter⟩, ?_, ?_⟩
  · rw [List.append_assoc, ← hback, trimStart, List.takeWhile_append_dropWhile]
  · intro c hc
    refine head?_dropWhile_isBlank s c ?_
    have hstart : (trimStart s).head? = some c := by
      rw [hback, List.head?_append, Option.mem_def.mp hc, Option.some_or]
    exact hstart
  · rw [trim, trimEnd, List.getLast?_reverse]
    exact head?_dropWhile_isBlank _

/-- A text has one core, and trimming finds it. -/
theorem trim_eq_iff {s core : List Char} : trim s = core ↔ Trims s core :=
  ⟨fun h => h ▸ trims_trim s, Trims.trim_eq⟩

/-- What is not white space stands in the core. -/
theorem Trims.not_mem {s core : List Char} (h : Trims s core) {c : Char} (hc : isBlank c = false)
    (hcore : c ∉ core) : c ∉ s := by
  obtain ⟨⟨before, after, rfl, hbefore, hafter⟩, -, -⟩ := h
  have hblank : ∀ {blanks : List Char}, (∀ c ∈ blanks, isBlank c = true) → c ∉ blanks := by
    intro blanks hblanks hmem
    rw [hblanks c hmem] at hc
    nomatch hc
  simp only [List.mem_append, not_or]
  exact ⟨⟨hblank hbefore, hcore⟩, hblank hafter⟩

theorem trims_self {s : List Char} (h : ∀ c ∈ s, isBlank c = false) : Trims s s :=
  ⟨⟨[], [], by rw [List.nil_append, List.append_nil], by nofun, by nofun⟩,
    fun c hc => h c (List.mem_of_head? hc), fun c hc => h c (List.mem_of_getLast? hc)⟩

/-- White space behind a text without any is trimmed off. -/
theorem trim_append {kept blanks : List Char} (hkept : ∀ c ∈ kept, isBlank c = false)
    (hblanks : ∀ c ∈ blanks, isBlank c = true) : trim (kept ++ blanks) = kept :=
  Trims.trim_eq { trims_self hkept with around := ⟨[], blanks, rfl, by nofun, hblanks⟩ }

theorem trim_eq_self {s : List Char} (h : ∀ c ∈ s, isBlank c = false) : trim s = s :=
  (trims_self h).trim_eq

/-! ## First words -/

/-- A word at the start of a text, with white space or nothing behind it. -/
theorem head?_words {word rest : List Char} (hne : word ≠ [])
    (hword : ∀ c ∈ word, isBlank c = false) (hrest : ∀ c ∈ rest.head?, isBlank c = true) :
    (words (word ++ rest)).head? = some word := by
  have hsplit : ∃ more, (word ++ rest).splitOnP isBlank = word :: more := by
    cases rest with
    | nil => exact ⟨[], by rw [List.append_nil, List.splitOnP_eq_singleton hword]⟩
    | cons c rest =>
      exact ⟨_, List.splitOnP_append_cons_of_forall_mem hword c (hrest c rfl) rest⟩
  obtain ⟨more, hmore⟩ := hsplit
  rw [words, hmore, List.filter_cons_of_pos (by simpa using hne), List.head?_cons]

/-- A text up to its first white space. -/
def beforeBlank (s : List Char) : List Char := s.takeWhile (!isBlank ·)

theorem isBlank_of_mem_beforeBlank {c : Char} {s : List Char} (h : c ∈ beforeBlank s) :
    isBlank c = false := by
  have hkeep := List.mem_takeWhile_imp h
  simpa using hkeep

theorem exists_beforeBlank_eq_cons {c : Char} {s : List Char} (h : s.head? = some c)
    (hc : isBlank c = false) : ∃ rest, beforeBlank s = c :: rest := by
  obtain ⟨rest, rfl⟩ := List.head?_eq_some_iff.mp h
  exact ⟨_, List.takeWhile_cons_of_pos (by rw [hc]; rfl)⟩

/-- What follows the first part of a text is nothing, or begins with white space. -/
theorem exists_append_beforeBlank (s : List Char) :
    ∃ rest, s = beforeBlank s ++ rest ∧ ∀ c ∈ rest.head?, isBlank c = true := by
  refine ⟨s.dropWhile (!isBlank ·), List.takeWhile_append_dropWhile.symm, fun c hc => ?_⟩
  have hstop := List.head?_dropWhile_not (!isBlank ·) s
  rw [Option.mem_def.mp hc] at hstop
  simpa using hstop

end DocSite.Text
