/-
  DocSite.Proofs.Page.Themed

  Pages whose code a library colours. Lines are coloured one after the other, so that a
  block fails with the first line on which the library fails, after all lines before it. A
  renderer that is chosen by settings asks nothing else: besides a directive the library is
  the only reason why such a renderer has no page.
-/
import DocSite.Page.Render
import DocSite.Proofs.Except
import DocSite.Proofs.Page.Failure

namespace DocSite

namespace SyntaxLibrary

variable {library : SyntaxLibrary} {theme : String} {grammar : Option String}
  {request : HighlightRequest} {reason : String}

/-! ## Code that is not coloured -/

theorem colourLines_cons_eq_ok_iff {before rest coloured : List String} {line : String} :
    library.colourLines theme grammar before (line :: rest) = .ok coloured ↔
      ∃ first more, library.colour theme grammar before line = .ok first ∧
        library.colourLines theme grammar (before ++ [line]) rest = .ok more ∧
        first :: more = coloured := by
  rw [colourLines, bind_eq_ok_iff]
  simp only [bind_eq_ok_iff, pure, Except.pure, Except.ok.injEq, exists_and_left]

theorem colourLines_cons_eq_error_iff {before rest : List String} {line : String} :
    library.colourLines theme grammar before (line :: rest) = .error reason ↔
      library.colour theme grammar before line = .error reason ∨
        ∃ first, library.colour theme grammar before line = .ok first ∧
          library.colourLines theme grammar (before ++ [line]) rest = .error reason := by
  rw [colourLines, bind_eq_error_iff]
  simp only [bind_eq_error_iff, pure, Except.pure, reduceCtorEq, and_false, exists_false, or_false]

/-- Colouring stops at the first line that fails. It was asked for after the lines before
    it, all of which have been coloured. -/
theorem colourLines_eq_error_iff {before lines : List String} :
    library.colourLines theme grammar before lines = .error reason ↔
      ∃ done line rest, lines = done ++ line :: rest ∧
        (∃ coloured, library.colourLines theme grammar before done = .ok coloured) ∧
        library.colour theme grammar (before ++ done) line = .error reason := by
  induction lines generalizing before with
  | nil =>
    constructor
    · nofun
    · rintro ⟨done, line, rest, hlines, -⟩
      nomatch List.append_eq_nil_iff.mp hlines.symm
  | cons line rest ih =>
    rw [colourLines_cons_eq_error_iff]
    constructor
    · rintro (hhere | ⟨first, hfirst, hlater⟩)
      · refine ⟨[], line, rest, rfl, ⟨[], rfl⟩, ?_⟩
        rwa [List.append_nil]
      · obtain ⟨done, failing, after, rfl, ⟨more, hmore⟩, hfails⟩ := ih.mp hlater
        refine ⟨line :: done, failing, after, rfl, ⟨first :: more, ?_⟩, ?_⟩
        · exact colourLines_cons_eq_ok_iff.mpr ⟨first, more, hfirst, hmore, rfl⟩
        · rwa [List.append_cons]
    · rintro ⟨done, failing, after, hlines, ⟨coloured, hdone⟩, hfails⟩
      cases done with
      | nil =>
        obtain ⟨rfl, rfl⟩ := List.cons.inj hlines
        rw [List.append_nil] at hfails
        exact .inl hfails
      | cons _ done =>
        obtain ⟨rfl, rfl⟩ := List.cons.inj hlines
        obtain ⟨first, more, hfirst, hmore, -⟩ := colourLines_cons_eq_ok_iff.mp hdone
        rw [List.append_cons] at hfails
        exact .inr ⟨first, hfirst, ih.mpr ⟨done, failing, after, rfl, ⟨more, hmore⟩, hfails⟩⟩

/-- The library fails on some text: a span of code, or a line of a block after the lines
    before it. -/
inductive FailsOn (library : SyntaxLibrary) (theme : String) (request : HighlightRequest) :
    String → Prop
  | span {reason : String} : request.mode = .span →
      library.colour theme (library.grammar? request.language) [] request.code = .error reason →
      FailsOn library theme request reason
  | line {done rest : List String} {line reason : String} : request.mode = .block →
      (codeLines request.code.toList).map String.ofList = done ++ line :: rest →
      (∃ coloured, library.colourLines theme (library.grammar? request.language) [] done
        = .ok coloured) →
      library.colour theme (library.grammar? request.language) done line = .error reason →
      FailsOn library theme request reason

theorem highlight_eq_error_iff :
    library.highlight theme request = .error reason ↔ library.FailsOn theme request reason := by
  rw [highlight]
  cases hmode : request.mode with
  | span =>
    constructor
    · exact .span hmode
    · intro h
      cases h with
      | span _ hcolour => exact hcolour
      | line hblock => nomatch hmode.symm.trans hblock
  | block =>
    dsimp only
    simp only [bind_eq_error_iff, pure, Except.pure, reduceCtorEq, and_false, exists_false,
      or_false, colourLines_eq_error_iff, List.nil_append]
    constructor
    · rintro ⟨done, line, rest, hlines, hdone, hfails⟩
      exact .line hmode hlines hdone hfails
    · intro h
      cases h with
      | span hspan => nomatch hmode.symm.trans hspan
      | line _ hlines hdone hfails => exact ⟨_, _, _, hlines, hdone, hfails⟩

/-- Nothing fails without grammars. -/
theorem not_failsOn_plainText : ¬ plainText.FailsOn theme request reason := by
  intro h
  cases h with
  | span _ hcolour => nomatch hcolour
  | line _ _ _ hcolour => nomatch hcolour

end SyntaxLibrary

/-! ## Pages without their code -/

variable {library : SyntaxLibrary} {request : HighlightRequest} {e : HighlightError}

/-- The backend for a theme fails where the library does, and with its reason. -/
theorem Backend.highlight_themed_error_iff {theme : Option String} {backend : Backend}
    (h : Backend.themed theme library = .ok backend) :
    backend.highlight request = .error e ↔
      ∃ reason, e = .failed reason ∧ library.FailsOn (theme.getD defaultTheme) request reason := by
  unfold Backend.themed at h
  dsimp only at h
  split at h
  · obtain rfl := Except.ok.inj h
    simp only [← SyntaxLibrary.highlight_eq_error_iff]
    cases library.highlight (theme.getD defaultTheme) request with
    | ok html => simp [Except.mapError]
    | error reason => simp [Except.mapError, eq_comm]
  · nomatch h

/-- Settings choose a backend for a theme, or the one that only escapes code. -/
theorem Highlighter.ofOptions_cases (options : HighlightOptions) (library : SyntaxLibrary) :
    ofOptions options library = plain ∨ ∃ theme backend,
      Backend.themed theme library = .ok backend ∧
      ofOptions options library = ofBackend backend := by
  unfold ofOptions
  split
  · split
    · next h hthemed =>
      obtain ⟨backend, hbackend, rfl⟩ := map_eq_ok_iff.mp hthemed
      exact .inr ⟨_, backend, hbackend, rfl⟩
    · split
      · next h hthemed =>
        obtain ⟨backend, hbackend, rfl⟩ := map_eq_ok_iff.mp hthemed
        exact .inr ⟨_, backend, hbackend, rfl⟩
      · exact .inl rfl
  · exact .inl rfl

/-- A renderer that is chosen by settings has no page for want of colours only where the
    library fails on code of the document. -/
theorem Renderer.exists_failsOn_of_ofSettings {settings : RenderSettings} {document : Node}
    {ids : HeadingIds}
    (h : ((Renderer.ofSettings settings library).renderWithIds document ids).1
      = .error (.highlight e)) :
    ∃ n ∈ document.visited, ∃ request language theme reason, n.Requests request ∧
      library.FailsOn theme { request with language } reason ∧ e = .failed reason := by
  obtain ⟨before, n, after, hvisited, -, request, hrequests, hfails⟩ :=
    (Renderer.renderWithIds_highlight_error_iff _ document ids e).mp h
  have hmem : n ∈ document.visited := by
    rw [hvisited]
    exact List.mem_append_right _ List.mem_cons_self
  -- Such a renderer falls back to plain text, so that its backend has been asked.
  rcases Highlighter.ofOptions_cases settings.highlight library with hplain |
    ⟨theme, backend, hbackend, hthemed⟩
  · rw [Renderer.ofSettings, hplain] at hfails
    cases hfails with
    | backend _ herror => nomatch herror
    | unsupported hsupports => nomatch hsupports
  · rw [Renderer.ofSettings, hthemed] at hfails
    cases hfails with
    | backend _ herror =>
      obtain ⟨reason, rfl, hfailsOn⟩ := (Backend.highlight_themed_error_iff hbackend).mp herror
      exact ⟨n, hmem, request, _, _, reason, hrequests, hfailsOn, rfl⟩
    | unsupported _ hfallback => nomatch hfallback

/-- Without grammars a directive is the only reason why there is no page. -/
theorem Renderer.ofSettings_plainText_error {settings : RenderSettings} {document : Node}
    {ids : HeadingIds} {e : RenderError}
    (h : ((Renderer.ofSettings settings).renderWithIds document ids).1 = .error e) :
    ∃ fault, e = .malformedDirective fault := by
  cases e with
  | malformedDirective fault => exact ⟨fault, rfl⟩
  | highlight e =>
    obtain ⟨_, _, _, _, _, _, _, hfails, -⟩ := Renderer.exists_failsOn_of_ofSettings h
    exact absurd hfails SyntaxLibrary.not_failsOn_plainText

end DocSite
