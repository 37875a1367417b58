/-
  DocSite.Proofs.Highlight.LineSelection

  Directives that are cut at their first white space. Nothing is lost if there is
  white space at the end only. A directive that is cut behind a comma or a dash has
  a token that is not complete, and is refused.
-/
import DocSite.Proofs.Highlight.Directive
import Mathlib.Data.List.Basic

namespace DocSite.LineSelection

open DocSite.Text

/-! ## Bodies -/

/-- The lines that a directive selects depend on its body alone. -/
theorem parse_congr {a b : List Char} {lines : LineSelection}
    (hbody : directiveBody a = directiveBody b)
    (h : parse (some (String.ofList a)) = .ok lines) :
    parse (some (String.ofList b)) = .ok lines := by
  rw [parse, String.toList_ofList] at h ⊢
  rw [← hbody]
  by_cases hempty : (directiveBody a).isEmpty
  · rw [if_pos hempty] at h ⊢
    exact h
  · rw [if_neg hempty] at h ⊢
    cases hread : readTokens ((directiveBody a).splitOn ',') with
    | error fault =>
      rw [hread] at h
      cases h
    | ok numbers =>
      rw [hread] at h
      exact h

/-- A directive with white space at its end alone is read up to it. -/
theorem parse_beforeBlank {directive : List Char} {lines : LineSelection}
    (hend : ∀ c ∈ directive.dropWhile (!isBlank ·), isBlank c = true)
    (h : parse (some (String.ofList directive)) = .ok lines) :
    parse (some (String.ofList (beforeBlank directive))) = .ok lines := by
  have hkept : ∀ c ∈ beforeBlank directive, isBlank c = false := fun c hc =>
    isBlank_of_mem_beforeBlank hc
  have hsplit : beforeBlank directive ++ directive.dropWhile (!isBlank ·) = directive :=
    List.takeWhile_append_dropWhile
  have hwhole : trim directive = beforeBlank directive := by
    rw [← trim_append hkept hend, hsplit]
  refine parse_congr ?_ h
  rw [directiveBody, directiveBody, hwhole, trim_eq_self hkept]

/-- The body of a directive that has an opening brace and no closing one. -/
theorem directiveBody_brace {kept : List Char} {c : Char} (hkept : ∀ c ∈ kept, isBlank c = false)
    (hlast : kept.getLast? = some c) (hc : c ≠ '}') : directiveBody ('{' :: kept) = kept := by
  have hbrace : ∀ c ∈ '{' :: kept, isBlank c = false :=
    List.forall_mem_cons.mpr ⟨by decide, hkept⟩
  have hclosing : kept.getLast? ≠ some '}' := by
    rw [hlast]
    exact fun h => hc (Option.some.inj h)
  exact directiveBody_eq_iff.mpr
    ⟨_, kept, kept, trims_self hbrace, .inl rfl, .inr ⟨hclosing, rfl⟩, trims_self hkept⟩

/-! ## Tokens that are not complete -/

/-- Tokens are refused if the last one is, by that one or one before it. -/
theorem exists_readTokens_error (tokens : List (List Char)) {token : List Char}
    (h : ∃ fault, readToken (trim token) = .error fault) :
    ∃ fault, readTokens (tokens ++ [token]) = .error fault := by
  induction tokens with
  | nil =>
    obtain ⟨fault, hfault⟩ := h
    exact ⟨fault, by rw [List.nil_append, readTokens, hfault]; rfl⟩
  | cons first rest ih =>
    obtain ⟨fault, hfault⟩ := ih
    rw [List.cons_append, readTokens, hfault]
    cases readToken (trim first) with
    | error here => exact ⟨here, rfl⟩
    | ok numbers => exact ⟨fault, rfl⟩

theorem readLineNumber?_of_mem {c : Char} {s : List Char} (hc : c ∈ s)
    (hdigit : c.isDigit = false) : readLineNumber? s = none :=
  Option.eq_none_iff_forall_not_mem.mpr fun _ hn =>
    (readLineNumber?_eq_some_iff.mp hn).not_mem hdigit hc

/-- A token that ends in a dash is refused: its range has no end. -/
theorem exists_readToken_dash {token : List Char} (hblank : ∀ c ∈ token, isBlank c = false) :
    ∃ fault, readToken (token ++ ['-']) = .error fault := by
  have hrange : ∃ first last, splitOnce '-' (token ++ ['-']) = some (first, last) ∧
      readLineNumber? (trim last) = none := by
    -- The range is cut at the first dash, which need not be the one at the end.
    by_cases hdash : '-' ∈ token
    · obtain ⟨first, rest, rfl, hfirst⟩ := List.eq_append_cons_of_mem hdash
      have hrest : ∀ c ∈ rest ++ ['-'], isBlank c = false :=
        List.forall_mem_append.mpr
          ⟨fun c hc => hblank c (List.mem_append_right _ (List.mem_cons_of_mem _ hc)),
            List.forall_mem_singleton.mpr (by decide)⟩
      refine ⟨first, rest ++ ['-'], ?_, ?_⟩
      · rw [List.append_assoc, List.cons_append, splitOnce_append hfirst]
      · rw [trim_eq_self hrest]
        exact readLineNumber?_of_mem (List.mem_append_right _ (List.mem_singleton_self _))
          (by decide)
    · exact ⟨token, [], splitOnce_append hdash [], rfl⟩
  obtain ⟨first, last, hsplit, hlast⟩ := hrange
  rw [readToken, if_neg (by simp), hsplit]
  dsimp only
  rw [readRange, hlast]
  cases readLineNumber? (trim first) with
  | none => exact ⟨_, rfl⟩
  | some a => exact ⟨_, rfl⟩

/-- A directive that begins with a brace and ends in a comma or a dash is refused. -/
theorem exists_parse_error {kept : List Char} (hkept : ∀ c ∈ kept, isBlank c = false)
    (hlast : kept.getLast? = some ',' ∨ kept.getLast? = some '-') :
    ∃ e, parse (some (String.ofList ('{' :: kept))) = .error e := by
  have hbody : directiveBody ('{' :: kept) = kept := by
    rcases hlast with hcomma | hdash
    · exact directiveBody_brace hkept hcomma (by decide)
    · exact directiveBody_brace hkept hdash (by decide)
  have hne : ¬ kept.isEmpty = true := by
    rintro hempty
    rw [List.isEmpty_iff.mp hempty] at hlast
    rcases hlast with h | h <;> nomatch h
  have htokens : ∃ fault, readTokens (kept.splitOn ',') = .error fault := by
    rcases hlast with hcomma | hdash
    · obtain ⟨before, rfl⟩ : ∃ before, kept = before ++ [','] :=
        ⟨_, (List.dropLast_append_getLast? ',' hcomma).symm⟩
      -- Behind the comma there is one more token, and it is empty.
      rw [List.splitOn_append_cons_self, List.splitOn_nil]
      exact exists_readTokens_error _ ⟨.emptyToken, rfl⟩
    · obtain ⟨before, rfl⟩ : ∃ before, kept = before ++ ['-'] :=
        ⟨_, (List.dropLast_append_getLast? '-' hdash).symm⟩
      obtain ⟨parts, last, hsuffix, hparts⟩ := exists_splitOn_concat
        (show '-' ≠ ',' by decide) before
      have hblank : ∀ c ∈ last, isBlank c = false := fun c hc =>
        hkept c (List.mem_append_left _ (hsuffix.subset hc))
      have htoken : ∀ c ∈ last ++ ['-'], isBlank c = false :=
        List.forall_mem_append.mpr ⟨hblank, List.forall_mem_singleton.mpr (by decide)⟩
      rw [hparts]
      refine exists_readTokens_error parts ?_
      rw [trim_eq_self htoken]
      exact exists_readToken_dash hblank
  obtain ⟨fault, hfault⟩ := htokens
  refine ⟨⟨String.ofList ('{' :: kept), fault⟩, ?_⟩
  rw [parse, String.toList_ofList, hbody, if_neg hne, hfault]

/-- A directive that is cut behind a comma or a dash is refused. -/
theorem exists_parse_beforeBlank_error {directive : List Char}
    (hbrace : directive.head? = some '{')
    (hcut : (beforeBlank directive).getLast? = some ',' ∨
      (beforeBlank directive).getLast? = some '-') :
    ∃ e, parse (some (String.ofList (beforeBlank directive))) = .error e := by
  obtain ⟨body, hbody⟩ : ∃ body, beforeBlank directive = '{' :: body :=
    exists_beforeBlank_eq_cons hbrace (by decide)
  have hblank : ∀ c ∈ body, isBlank c = false := by
    intro c hc
    have hmem : c ∈ beforeBlank directive := by
      rw [hbody]
      exact List.mem_cons_of_mem _ hc
    exact isBlank_of_mem_beforeBlank hmem
  have hlast : body.getLast? = some ',' ∨ body.getLast? = some '-' := by
    rw [hbody] at hcut
    cases body with
    | nil => rcases hcut with h | h <;> nomatch h
    | cons c rest => exact hcut
  rw [hbody]
  exact exists_parse_error hblank hlast

end DocSite.LineSelection
