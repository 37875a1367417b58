/-
  DocSite.Proofs.Page.Failure

  When a document has no page, and which error says so. A code block fails with its
  directive if that cannot be read, and otherwise as the highlighter does; code inside
  text fails as the highlighter does, whatever directive its class has. The error of a
  document is that of the first of its code elements that fails, in the order in which
  the page would print them.

  What fails is told here off the tree and the class as its author wrote it, apart from
  the walk over landmarks by which a page is settled. Failures of the highlighter are told
  by those of its backend.
-/
import DocSite.Proofs.Document.Visited
import DocSite.Proofs.Page.Walk
import DocSite.Proofs.Text.Split

namespace DocSite

open DocSite.Text

/-! ## Directives in classes -/

namespace CodeClass

/-- The directive of a class is its text from the first `{` on, if there is one. -/
inductive Directs : Option String → Option String → Prop
  | absent : Directs none none
  | plain {cls : String} : '{' ∉ cls.toList → Directs (some cls) none
  | braced {cls : String} {before rest : List Char} : cls.toList = before ++ '{' :: rest →
      '{' ∉ before → Directs (some cls) (some (String.ofList ('{' :: rest)))

/-- The directive is found wherever it is in the class. -/
theorem Directs.directive?_eq {cls directive : Option String} (h : Directs cls directive) :
    directive? cls = directive := by
  cases h with
  | absent => rfl
  | plain hplain => rw [directive?, Option.bind_some, (span_of_not_mem hplain).2]
  | braced hcls hbefore => rw [directive?, Option.bind_some, hcls, (span_mark hbefore _).2]

/-- Every class has a directive, or lacks one. -/
theorem directs_directive? (cls : Option String) : Directs cls (directive? cls) := by
  cases cls with
  | none => exact .absent
  | some cls =>
    by_cases hbrace : '{' ∈ cls.toList
    · obtain ⟨before, rest, hcls, hbefore⟩ := List.eq_append_cons_of_mem hbrace
      have h : Directs (some cls) _ := .braced hcls hbefore
      rwa [h.directive?_eq]
    · have h : Directs (some cls) none := .plain hbrace
      rwa [h.directive?_eq]

/-- A directive says nothing about the language. -/
theorem language_append_brace {cls plain : String} {rest : List Char}
    (hcls : cls.toList = plain.toList ++ '{' :: rest) (hplain : '{' ∉ plain.toList) :
    language (some cls) = language (some plain) := by
  rw [language, language, Option.bind_some, Option.bind_some, hcls, (span_mark hplain rest).1,
    (span_of_not_mem hplain).1]

end CodeClass

/-- A directive that cannot be read is reported as its author wrote it. -/
theorem LineSelection.directive_of_parse_error {directive : String} {fault : MalformedDirective}
    (h : parse (some directive) = .error fault) : fault.directive = directive := by
  rw [parse] at h
  split at h
  · cases h
  · split at h
    · cases h
    · cases h
      rfl

/-! ## Highlighters that fail -/

namespace Highlighter

variable {h : Highlighter} {request : HighlightRequest} {e : HighlightError}

/-- The language in which a highlighter asks its backend for code in another: the one
    that the name stands for, or plain text in place of one the backend does not take. -/
inductive Asks (h : Highlighter) (language : String) : String → Prop
  | resolved : h.backend.supports (h.resolve language) = true → Asks h language (h.resolve language)
  | fallback : h.backend.supports (h.resolve language) = false → h.fallbackToPlain = true →
      Asks h language "text"

/-- A highlighter fails as its backend does, or without asking it. -/
inductive Fails (h : Highlighter) (request : HighlightRequest) : HighlightError → Prop
  | backend {asked : String} {e : HighlightError} : h.Asks request.language asked →
      h.backend.highlight { request with language := asked } = .error e → Fails h request e
  | unsupported : h.backend.supports (h.resolve request.language) = false →
      h.fallbackToPlain = false →
      Fails h request (.unsupportedLanguage (h.resolve request.language))

theorem highlight_eq_error_iff : h.highlight request = .error e ↔ h.Fails request e := by
  constructor
  · intro herror
    rw [highlight] at herror
    cases hsupports : h.backend.supports (h.resolve request.language) with
    | true =>
      rw [if_pos hsupports] at herror
      exact .backend (.resolved hsupports) herror
    | false =>
      rw [if_neg (by simp [hsupports])] at herror
      cases hfallback : h.fallbackToPlain with
      | true =>
        rw [if_pos hfallback] at herror
        exact .backend (.fallback hsupports hfallback) herror
      | false =>
        rw [if_neg (by simp [hfallback])] at herror
        obtain rfl := Except.error.inj herror
        exact .unsupported hsupports hfallback
  · intro hfails
    rw [highlight]
    cases hfails with
    | backend hasks herror =>
      cases hasks with
      | resolved hsupports => rwa [if_pos hsupports]
      | fallback hsupports hfallback => rwa [if_neg (by simp [hsupports]), if_pos hfallback]
    | unsupported hsupports hfallback =>
      rw [if_neg (by simp [hsupports]), if_neg (by simp [hfallback])]

end Highlighter

/-! ## Nodes that fail -/

/-- A code element fails with an error. No other node fails. -/
inductive Node.Fails (highlighter : Highlighter) (n : Node) : RenderError → Prop
  /-- The directive of a block is read before the block is highlighted. -/
  | directive {code directive : String} {fault : MalformedDirective} :
      n.kind = .codeBlock code → CodeClass.Directs (n.attribute? "class") (some directive) →
      LineSelection.parse (some directive) = .error fault →
      Fails highlighter n (.malformedDirective fault)
  | block {code : String} {directive : Option String} {lines : LineSelection}
      {error : HighlightError} :
      n.kind = .codeBlock code → CodeClass.Directs (n.attribute? "class") directive →
      LineSelection.parse directive = .ok lines →
      highlighter.highlight ⟨code, CodeClass.language (n.attribute? "class"), .block, lines⟩
        = .error error →
      Fails highlighter n (.highlight error)
  | span {code : String} {error : HighlightError} :
      n.kind = .codeSpan code →
      highlighter.highlight ⟨code, CodeClass.language (n.attribute? "class"), .span, .empty⟩
        = .error error →
      Fails highlighter n (.highlight error)

/-- What a code element asks of the highlighter. A block whose directive cannot be read
    asks nothing. -/
inductive Node.Requests (n : Node) : HighlightRequest → Prop
  | block {code : String} {directive : Option String} {lines : LineSelection} :
      n.kind = .codeBlock code → CodeClass.Directs (n.attribute? "class") directive →
      LineSelection.parse directive = .ok lines →
      Requests n ⟨code, CodeClass.language (n.attribute? "class"), .block, lines⟩
  | span {code : String} : n.kind = .codeSpan code →
      Requests n ⟨code, CodeClass.language (n.attribute? "class"), .span, .empty⟩

namespace Node

variable {highlighter : Highlighter} {n : Node} {e : RenderError}

/-- A failure of the highlighter is one of its backend, or of a language that it refuses. -/
theorem fails_highlight_iff {error : HighlightError} :
    n.Fails highlighter (.highlight error) ↔
      ∃ request, n.Requests request ∧ highlighter.Fails request error := by
  constructor
  · intro h
    cases h with
    | block hkind hdirects hparse herror =>
      exact ⟨_, .block hkind hdirects hparse, Highlighter.highlight_eq_error_iff.mp herror⟩
    | span hkind herror =>
      exact ⟨_, .span hkind, Highlighter.highlight_eq_error_iff.mp herror⟩
  · rintro ⟨request, hrequests, hfails⟩
    have herror := Highlighter.highlight_eq_error_iff.mpr hfails
    cases hrequests with
    | block hkind hdirects hparse => exact .block hkind hdirects hparse herror
    | span hkind => exact .span hkind herror

/-- A node fails as the code element that it is does. -/
theorem fails_iff :
    n.Fails highlighter e
      ↔ ∃ spot, n.codeSpot? = some spot ∧ spot.highlight highlighter = .error e := by
  constructor
  · intro h
    cases h with
    | directive hkind hdirects hparse =>
      refine ⟨_, by rw [codeSpot?, hkind], ?_⟩
      rw [CodeSpot.highlight, hdirects.directive?_eq, hparse]
    | block hkind hdirects hparse herror =>
      refine ⟨_, by rw [codeSpot?, hkind], ?_⟩
      rw [CodeSpot.highlight, hdirects.directive?_eq, hparse]
      simp only [herror]
    | span hkind herror =>
      refine ⟨_, by rw [codeSpot?, hkind], ?_⟩
      rw [CodeSpot.highlight, LineSelection.parse]
      simp only [herror]
  · rintro ⟨spot, hspot, herror⟩
    unfold codeSpot? at hspot
    split at hspot
    · next code hkind =>
      obtain rfl := Option.some.inj hspot
      have hdirects := CodeClass.directs_directive? (n.attribute? "class")
      -- Either the directive is refused, or the highlighter is asked and fails.
      unfold CodeSpot.highlight at herror
      split at herror
      · next fault hparse =>
        obtain rfl := Except.error.inj herror
        obtain ⟨directive, hdirective⟩ : ∃ directive,
            CodeClass.directive? (n.attribute? "class") = some directive := by
          cases hnone : CodeClass.directive? (n.attribute? "class") with
          | none =>
            rw [hnone] at hparse
            cases hparse
          | some directive => exact ⟨directive, rfl⟩
        rw [hdirective] at hdirects hparse
        exact .directive hkind hdirects hparse
      · next lines hparse =>
        split at herror
        · next hfails =>
          obtain rfl := Except.error.inj herror
          exact .block hkind hdirects hparse hfails
        · cases herror
    · next code hkind =>
      obtain rfl := Option.some.inj hspot
      rw [CodeSpot.highlight, LineSelection.parse] at herror
      dsimp only at herror
      split at herror
      · next hfails =>
        obtain rfl := Except.error.inj herror
        exact .span hkind hfails
      · cases herror
    · cases hspot

/-- What stands behind the `{` in the class of code inside text has no say in whether
    it fails. -/
theorem fails_withAttribute_iff {code cls plain : String} {rest : List Char}
    (hkind : n.kind = .codeSpan code) (hclass : n.attribute? "class" = some cls)
    (hcls : cls.toList = plain.toList ++ '{' :: rest) (hplain : '{' ∉ plain.toList) :
    n.Fails highlighter e ↔ (n.withAttribute "class" plain).Fails highlighter e := by
  have hnow : (n.withAttribute "class" plain).attribute? "class" = some plain := by
    rw [withAttribute, attribute?, Attributes.get?_insert, if_pos rfl]
  have hkept : (n.withAttribute "class" plain).kind = .codeSpan code := hkind
  have hspot : n.codeSpot? = (n.withAttribute "class" plain).codeSpot? := by
    rw [codeSpot?, codeSpot?, hkind, hkept, hclass, hnow]
    dsimp only
    rw [CodeClass.language_append_brace hcls hplain]
  rw [fails_iff, fails_iff, hspot]

/-! ## The first failure -/

/-- The landmark that a node is fails as the node does. -/
theorem firstFailure?_ownLandmarks :
    Landmark.firstFailure? highlighter n.ownLandmarks = some e ↔ n.Fails highlighter e := by
  have hcode : ∀ spot : CodeSpot,
      Landmark.firstFailure? highlighter [.code spot] = some e
        ↔ spot.highlight highlighter = .error e := by
    intro spot
    rw [Landmark.firstFailure?, List.findSome?_singleton, Landmark.failure?]
    cases spot.highlight highlighter <;> simp
  rw [fails_iff]
  unfold ownLandmarks codeSpot?
  cases n.kind with
  | codeBlock code | codeSpan code => simp only [hcode, Option.some.injEq, exists_eq_left']
  | _ => simp [Landmark.firstFailure?, Landmark.failure?]

/-- The landmarks of a document are those of its visited nodes. -/
theorem landmarks_eq_visited (document : Node) :
    document.landmarks = document.visited.flatMap ownLandmarks := by
  induction hsize : document.size using Nat.strongRecOn generalizing document with
  | _ size ih =>
    subst hsize
    have hshown : document.shown.flatMap landmarks
        = document.shown.flatMap fun child => child.visited.flatMap ownLandmarks :=
      List.flatMap_congr fun child hchild =>
        ih child.size (size_lt_of_mem_shown hchild) child rfl
    rw [landmarks_eq, visited_eq, List.flatMap_cons, List.flatMap_assoc, hshown]

/-- The first failure in a document is that of the first visited node that fails. -/
theorem firstFailure?_eq (document : Node) :
    document.firstFailure? highlighter
      = document.visited.findSome? fun n => Landmark.firstFailure? highlighter n.ownLandmarks := by
  rw [firstFailure?, landmarks_eq_visited]
  exact findSome?_flatMap_eq fun _ _ => rfl

/-- Nodes before the first failure do not fail. -/
theorem firstFailure?_eq_some_iff (document : Node) :
    document.firstFailure? highlighter = some e ↔
      ∃ before n after, document.visited = before ++ n :: after ∧
        (∀ m ∈ before, ∀ e', ¬m.Fails highlighter e') ∧ n.Fails highlighter e := by
  -- To find nothing in the landmark of a node is to have no error for it.
  have hnone : ∀ m : Node, Landmark.firstFailure? highlighter m.ownLandmarks = none ↔
      ∀ e', ¬m.Fails highlighter e' := by
    intro m
    simp only [← firstFailure?_ownLandmarks, Option.eq_none_iff_forall_ne_some]
  rw [firstFailure?_eq, List.findSome?_eq_some_iff]
  simp only [firstFailure?_ownLandmarks, hnone]
  constructor
  · rintro ⟨before, n, after, hvisited, hfails, hbefore⟩
    exact ⟨before, n, after, hvisited, hbefore, hfails⟩
  · rintro ⟨before, n, after, hvisited, hbefore, hfails⟩
    exact ⟨before, n, after, hvisited, hfails, hbefore⟩

end Node

/-! ## Documents without a page -/

theorem Renderer.renderWithIds_eq_error_iff (r : Renderer) (document : Node) (ids : HeadingIds)
    (e : RenderError) :
    (r.renderWithIds document ids).1 = .error e ↔
      document.firstFailure? r.highlighter = some e := by
  obtain ⟨html, hpage⟩ := r.renderWithIds_eq document ids
  rw [hpage]
  cases document.firstFailure? r.highlighter <;> simp

/-- A page is missing for its code, and not for a directive, exactly if the first visited
    node that fails asks for code on which the backend fails, or in a language that is
    refused. -/
theorem Renderer.renderWithIds_highlight_error_iff (r : Renderer) (document : Node)
    (ids : HeadingIds) (e : HighlightError) :
    (r.renderWithIds document ids).1 = .error (.highlight e) ↔
      ∃ before n after, document.visited = before ++ n :: after ∧
        (∀ m ∈ before, ∀ e', ¬m.Fails r.highlighter e') ∧
        ∃ request, n.Requests request ∧ r.highlighter.Fails request e := by
  rw [renderWithIds_eq_error_iff, Node.firstFailure?_eq_some_iff]
  simp only [Node.fails_highlight_iff]

/-- **Which documents have no page, and why.** The error of a document is that of the
    first of its visited nodes that fails; there is one exactly if some visited node
    fails. Only blocks of code fail with a directive, which is reported as it stands in
    their class, and before the highlighter is asked; the directive of code inside text
    never matters. -/
theorem Renderer.renderWithIds_error_iff (r : Renderer) (document : Node) (ids : HeadingIds) :
    (∀ e, (r.renderWithIds document ids).1 = .error e ↔
      ∃ before n after, document.visited = before ++ n :: after ∧
        (∀ m ∈ before, ∀ e', ¬m.Fails r.highlighter e') ∧ n.Fails r.highlighter e) ∧
    ((∃ e, (r.renderWithIds document ids).1 = .error e) ↔
      ∃ n ∈ document.visited, ∃ e, n.Fails r.highlighter e) ∧
    (∀ (n : Node) (fault : MalformedDirective),
      n.Fails r.highlighter (.malformedDirective fault) ↔
        ∃ code, n.kind = .codeBlock code ∧
          CodeClass.Directs (n.attribute? "class") (some fault.directive) ∧
          LineSelection.parse (some fault.directive) = .error fault) ∧
    ∀ (n : Node) (code cls plain : String) (rest : List Char) (e : RenderError),
      n.kind = .codeSpan code → n.attribute? "class" = some cls →
      cls.toList = plain.toList ++ '{' :: rest → '{' ∉ plain.toList →
      (n.Fails r.highlighter e ↔ (n.withAttribute "class" plain).Fails r.highlighter e) := by
  have herror := r.renderWithIds_eq_error_iff document ids
  refine ⟨fun e => ?_, ?_, fun n fault => ?_, ?_⟩
  · rw [herror, Node.firstFailure?_eq_some_iff]
  · have hsome : (∃ e, (r.renderWithIds document ids).1 = .error e) ↔
        (document.firstFailure? r.highlighter).isSome = true := by
      simp only [herror, Option.isSome_iff_exists]
    rw [hsome, Node.firstFailure?_eq, List.findSome?_isSome_iff]
    simp only [Option.isSome_iff_exists, Node.firstFailure?_ownLandmarks]
  · constructor
    · intro hfails
      cases hfails with
      | directive hkind hdirects hparse =>
        obtain rfl := LineSelection.directive_of_parse_error hparse
        exact ⟨_, hkind, hdirects, hparse⟩
    · rintro ⟨code, hkind, hdirects, hparse⟩
      exact .directive hkind hdirects hparse
  · intro n code cls plain rest e hkind hclass hcls hplain
    exact Node.fails_withAttribute_iff hkind hclass hcls hplain

end DocSite
