/-
  DocSite.Proofs.Highlight.Marks

  Marked lines. Code is cut behind its newlines, and each line whose number is selected stands
  in an element of its own. Nothing that is escaped looks like a tag, so that the elements are
  told from the code whatever the code holds: they can be erased, and they show which lines are
  selected. A line number is any number here: code is taken to have fewer than 2 ^ 32 lines.
-/
import DocSite.Highlight.Plain
import DocSite.Proofs.Html.Entity

namespace DocSite

open DocSite.Html

/-! ## Lines -/

/-- Lines of which each ends in its only newline. The last may lack it, but is not empty then. -/
inductive IsLines : List (List Char) → Prop
  | nil : IsLines []
  | last {line : List Char} (hne : line ≠ []) (h : '\n' ∉ line) : IsLines [line]
  | cons {line : List Char} {rest : List (List Char)} (h : '\n' ∉ line) (hrest : IsLines rest) :
      IsLines ((line ++ ['\n']) :: rest)

theorem IsLines.ne_nil {lines : List (List Char)} (h : IsLines lines) :
    ∀ line ∈ lines, line ≠ [] := by
  induction h with
  | nil => nofun
  | last hne _ => exact List.forall_mem_singleton.mpr hne
  | cons _ _ ih => exact List.forall_mem_cons.mpr ⟨by simp, ih⟩

theorem isLines_codeLines (s : List Char) : IsLines (codeLines s) := by
  induction s with
  | nil => exact .nil
  | cons c rest ih =>
    rw [codeLines]
    split
    · next hc =>
      subst hc
      exact @IsLines.cons [] _ List.not_mem_nil ih
    · next hc =>
      -- The character goes in front of the first line, which stays what it is.
      have hmem : ∀ {line : List Char}, '\n' ∉ line → '\n' ∉ c :: line := fun hline h =>
        (List.mem_cons.mp h).elim (fun heq => hc heq.symm) hline
      generalize codeLines rest = lines at ih
      cases ih with
      | nil => exact .last (List.cons_ne_nil c []) (hmem List.not_mem_nil)
      | last _ hline => exact .last (List.cons_ne_nil _ _) (hmem hline)
      | @cons line _ hline hrest => exact @IsLines.cons (c :: line) _ (hmem hline) hrest

theorem codeLines_append_newline {line : List Char} (h : '\n' ∉ line) (rest : List Char) :
    codeLines (line ++ '\n' :: rest) = (line ++ ['\n']) :: codeLines rest := by
  induction line with
  | nil => rw [List.nil_append, codeLines, if_pos rfl, List.nil_append]
  | cons c line ih =>
    obtain ⟨hc, hline⟩ := not_or.mp (mt List.mem_cons.mpr h)
    rw [List.cons_append, codeLines, if_neg (Ne.symm hc), ih hline, List.cons_append]

theorem codeLines_of_not_mem {line : List Char} (hne : line ≠ []) (h : '\n' ∉ line) :
    codeLines line = [line] := by
  induction line with
  | nil => exact absurd rfl hne
  | cons c line ih =>
    obtain ⟨hc, hline⟩ := not_or.mp (mt List.mem_cons.mpr h)
    rw [codeLines, if_neg (Ne.symm hc)]
    cases line with
    | nil => rfl
    | cons d line => rw [ih (List.cons_ne_nil d line) hline]

/-- Code is cut into lines in one way. -/
theorem codeLines_eq_iff {s : List Char} {lines : List (List Char)} :
    codeLines s = lines ↔ IsLines lines ∧ lines.flatten = s := by
  constructor
  · rintro rfl
    exact ⟨isLines_codeLines s, flatten_codeLines s⟩
  · rintro ⟨hlines, rfl⟩
    induction hlines with
    | nil => rfl
    | last hne h => rw [List.flatten_singleton, codeLines_of_not_mem hne h]
    | cons h _ ih =>
      rw [List.flatten_cons, List.append_assoc, List.singleton_append,
        codeLines_append_newline h, ih]

/-! ## Blocks -/

/-- A line with its number as it stands in a block with the given numbers marked. -/
def lineInBlock (numbers : List Nat) (p : List Char × Nat) : List Char :=
  if p.2 ∈ numbers then "<span class=\"hll\">".toList ++ escapeText p.1 ++ "</span>".toList
  else escapeText p.1

theorem markLines_eq_flatMap (numbers : List Nat) (lines : List (List Char)) (start : Nat) :
    markLines ⟨numbers⟩ start (lines.map escapeText) =
      (lines.zipIdx start).flatMap (lineInBlock numbers) := by
  induction lines generalizing start with
  | nil => rfl
  | cons line rest ih =>
    rw [List.map_cons, markLines, ih, List.zipIdx_cons, List.flatMap_cons, lineInBlock,
      LineSelection.contains]
    simp only [List.contains_iff_mem]
    rfl

theorem plainHighlight_block (numbers : List Nat) (code : List Char) :
    plainHighlight .block ⟨numbers⟩ code =
      ((codeLines code).zipIdx 1).flatMap (lineInBlock numbers) :=
  markLines_eq_flatMap numbers (codeLines code) 1

/-! ## Erased marks -/

/-- The tags of the element around a marked line. -/
def markTexts : List (List Char) := ["<span class=\"hll\">".toList, "</span>".toList]

/-- Deletes the tags of marked lines. So many characters are left of a tag that has begun. -/
def eraseFrom : Nat → List Char → List Char
  | _, [] => []
  | left + 1, _ :: rest => eraseFrom left rest
  | 0, c :: rest =>
    match markTexts.find? fun tag => tag.isPrefixOf (c :: rest) with
    | some tag => eraseFrom (tag.length - 1) rest
    | none => c :: eraseFrom 0 rest

/-- A block without the tags of its marked lines. -/
def eraseMarks (block : List Char) : List Char := eraseFrom 0 block

theorem eraseMarks_append_of_mem {tag : List Char} (h : tag ∈ markTexts) (rest : List Char) :
    eraseMarks (tag ++ rest) = eraseMarks rest := by
  rcases List.mem_cons.mp h with rfl | h
  · rfl
  · obtain rfl := List.mem_singleton.mp h
    rfl

theorem eraseMarks_append_of_not_mem {s : List Char} (h : '<' ∉ s) (rest : List Char) :
    eraseMarks (s ++ rest) = s ++ eraseMarks rest := by
  induction s with
  | nil => rfl
  | cons c s ih =>
    obtain ⟨hc, hs⟩ := not_or.mp (mt List.mem_cons.mpr h)
    have hnone : markTexts.find? (fun tag => tag.isPrefixOf (c :: (s ++ rest))) = none := by
      have hne : ('<' == c) = false := beq_eq_false_iff_ne.mpr hc
      simp [markTexts, List.isPrefixOf, hne]
    rw [List.cons_append, eraseMarks, eraseFrom, hnone, List.cons_append]
    exact congrArg (c :: ·) (ih hs)

theorem eraseMarks_lineInBlock (numbers : List Nat) (p : List Char × Nat) (rest : List Char) :
    eraseMarks (lineInBlock numbers p ++ rest) = escapeText p.1 ++ eraseMarks rest := by
  have hplain : '<' ∉ escapeText p.1 := not_mem_escapeText (.inl rfl) p.1
  rw [lineInBlock]
  split
  · rw [List.append_assoc, List.append_assoc, eraseMarks_append_of_mem List.mem_cons_self,
      eraseMarks_append_of_not_mem hplain,
      eraseMarks_append_of_mem (List.mem_cons_of_mem _ List.mem_cons_self)]
  · exact eraseMarks_append_of_not_mem hplain rest

/-- What is left of a block is its escaped code, because escaping goes line by line. -/
theorem eraseMarks_block (numbers : List Nat) (lines : List (List Char)) (start : Nat) :
    eraseMarks ((lines.zipIdx start).flatMap (lineInBlock numbers)) = escapeText lines.flatten := by
  induction lines generalizing start with
  | nil => rfl
  | cons line rest ih =>
    rw [List.zipIdx_cons, List.flatMap_cons, eraseMarks_lineInBlock, ih, List.flatten_cons,
      escapeText_append]

/-! ## Selections -/

theorem head?_escapeText_ne {line : List Char} (hne : line ≠ []) (rest : List Char) :
    (escapeText line ++ rest).head? ≠ some '<' := by
  have hescaped : escapeText line ≠ [] := List.ne_nil_of_length_pos
    (Nat.lt_of_lt_of_le (List.length_pos_iff.mpr hne) (length_le_escapeText line))
  obtain ⟨c, cs, hcons⟩ := List.exists_cons_of_ne_nil hescaped
  rw [hcons, List.cons_append, List.head?_cons, Ne, Option.some.injEq]
  rintro rfl
  exact not_mem_escapeText (.inl rfl) line (hcons ▸ List.mem_cons_self)

/-- A block shows of its first line whether it is marked. -/
theorem lineInBlock_append_inj {a b : List Nat} {line : List Char} (hne : line ≠ []) {n : Nat}
    {s t : List Char} :
    lineInBlock a (line, n) ++ s = lineInBlock b (line, n) ++ t ↔ (n ∈ a ↔ n ∈ b) ∧ s = t := by
  have hopen : ∀ rest : List Char, ("<span class=\"hll\">".toList ++ escapeText line ++
      "</span>".toList ++ rest).head? = some '<' := fun rest => rfl
  rw [lineInBlock, lineInBlock]
  by_cases ha : n ∈ a <;> by_cases hb : n ∈ b <;> simp only [ha, hb, if_true, if_false]
  · simp
  · refine iff_of_false (fun h => head?_escapeText_ne hne t ?_) (by simp)
    rw [← h, hopen]
  · refine iff_of_false (fun h => head?_escapeText_ne hne s ?_) (by simp)
    rw [h, hopen]
  · simp

/-- Blocks of the same lines are equal if the same lines are marked. -/
theorem flatMap_lineInBlock_inj {a b : List Nat} {lines : List (List Char)}
    (hne : ∀ line ∈ lines, line ≠ []) (start : Nat) :
    (lines.zipIdx start).flatMap (lineInBlock a) = (lines.zipIdx start).flatMap (lineInBlock b) ↔
      ∀ n, start ≤ n → n < start + lines.length → (n ∈ a ↔ n ∈ b) := by
  induction lines generalizing start with
  | nil => exact ⟨fun _ n hstart hend => absurd hend (Nat.not_lt.mpr hstart), fun _ => rfl⟩
  | cons line rest ih =>
    obtain ⟨hline, hrest⟩ := List.forall_mem_cons.mp hne
    rw [List.zipIdx_cons, List.flatMap_cons, List.flatMap_cons, lineInBlock_append_inj hline,
      ih hrest, List.length_cons]
    -- The number of the first line is the start, and those of the others are greater.
    constructor
    · rintro ⟨hfirst, hlater⟩ n hstart hend
      rcases Nat.eq_or_lt_of_le hstart with rfl | hstart
      · exact hfirst
      · exact hlater n hstart (by omega)
    · intro h
      exact ⟨h start (Nat.le_refl _) (by omega), fun n hstart hend => h n (by omega) (by omega)⟩

/-- Lines are marked exactly, and nothing is lost. Code is cut behind its newlines, in one way.
    A block has the escaped lines one after the other, and those whose number is selected in an
    element each. Without the tags of these elements it is the code as it is escaped in running
    text, from which the code is decoded. Blocks are equal exactly if the same lines are selected,
    however often, in whatever order, and with whatever numbers that no line has. -/
theorem Backend.plain_marks_lines (code language : String) (numbers : List Nat) :
    ∃ lines block,
      (∀ cut, IsLines cut ∧ cut.flatten = code.toList ↔ cut = lines) ∧
      plain.highlight ⟨code, language, .block, ⟨numbers⟩⟩ = .ok (String.ofList block) ∧
      plain.highlight ⟨code, language, .span, ⟨numbers⟩⟩
        = .ok (String.ofList (escapeText code.toList)) ∧
      block = (lines.zipIdx 1).flatMap (lineInBlock numbers) ∧
      eraseMarks block = escapeText code.toList ∧
      decodeReferences (escapeText code.toList) = code.toList ∧
      ∀ other : List Nat,
        plain.highlight ⟨code, language, .block, ⟨other⟩⟩ = .ok (String.ofList block) ↔
          ∀ n, 1 ≤ n → n ≤ lines.length → (n ∈ other ↔ n ∈ numbers) := by
  have hblock := plainHighlight_block numbers code.toList
  refine ⟨codeLines code.toList, plainHighlight .block ⟨numbers⟩ code.toList, ?_, rfl, rfl, hblock,
    ?_, ?_, fun other => ?_⟩
  · intro cut
    rw [← codeLines_eq_iff, eq_comm]
  · rw [hblock, eraseMarks_block, flatten_codeLines]
  · have hdecode := decodeReferences_escapeText code.toList []
    rwa [List.append_nil, decodeReferences, List.append_nil] at hdecode
  · have hother : plain.highlight ⟨code, language, .block, ⟨other⟩⟩
        = .ok (String.ofList (plainHighlight .block ⟨other⟩ code.toList)) := rfl
    -- Blocks are compared line by line, and there is at least one line.
    rw [hother, Except.ok.injEq, String.ofList_inj, hblock, plainHighlight_block,
      flatMap_lineInBlock_inj (isLines_codeLines _).ne_nil]
    simp only [Nat.add_comm 1, Nat.lt_add_one_iff]

/-- Blank lines are lines, and the text of a mark in the code is no mark. -/
example :
    plainHighlight .block ⟨[3, 2, 3, 9]⟩ "</span>\n\na".toList =
      "&lt;/span&gt;\n<span class=\"hll\">\n</span><span class=\"hll\">a</span>".toList := by
  decide +kernel

end DocSite
