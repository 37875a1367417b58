/-
  DocSite.Proofs.Page.CodeClass

  What becomes of a directive behind the language of a code block. Lowering keeps
  the first word of what describes the block, and rendering reads the language and
  the directive off that word: a directive is cut at its first white space. What is
  left of it is read as if it were the whole, since the braces of a directive are
  optional.
-/
import DocSite.Markdown.Lower
import DocSite.Page.Render
import DocSite.Proofs.Highlight.LineSelection
import DocSite.Proofs.Text.Word
import Mathlib.Data.List.TakeWhile

namespace DocSite

open DocSite.Text

/-! ## The class of a block -/

namespace CodeClass

theorem not_isBlank_and_ne_brace_of_isLanguageChar {c : Char} (h : isLanguageChar c = true) :
    isBlank c = false ∧ c ≠ '{' := by
  unfold isLanguageChar at h
  simp only [Bool.or_eq_true, beq_iff_eq] at h
  rcases h with (((h | rfl) | rfl) | rfl) | rfl
  · exact ⟨isBlank_eq_false_of_isWordChar h, ne_brace_of_isWordChar h⟩
  all_goals exact ⟨by decide, by decide⟩

variable {language directive : List Char}

/-- The class of a block that is described by a language and a directive: the
    directive is cut at its first white space. -/
theorem codeClass?_append (hne : language ≠ [])
    (hlanguage : ∀ c ∈ language, isLanguageChar c = true) :
    Markdown.codeClass? (String.ofList (language ++ directive))
      = some (String.ofList ("language-".toList ++ (language ++ beforeBlank directive))) := by
  obtain ⟨rest, hrest, hblank⟩ := exists_append_beforeBlank directive
  have hword : ∀ c ∈ language ++ beforeBlank directive, isBlank c = false := by
    intro c hc
    rcases List.mem_append.mp hc with hc | hc
    · exact (not_isBlank_and_ne_brace_of_isLanguageChar (hlanguage c hc)).1
    · exact isBlank_of_mem_beforeBlank hc
  have hsplit : language ++ directive = (language ++ beforeBlank directive) ++ rest := by
    rw [List.append_assoc, ← hrest]
  rw [Markdown.codeClass?, String.toList_ofList, hsplit,
    head?_words (List.append_ne_nil_of_left_ne_nil hne _) hword hblank, Option.map_some]
  congr 1
  apply String.toList_inj.mp
  simp only [String.toList_append, String.toList_ofList]

/-- A brace ends what may name a language. -/
theorem span_brace (hlanguage : ∀ c ∈ language, isLanguageChar c = true) {braced : List Char}
    (hbrace : braced.head? = some '{') :
    ("language-".toList ++ (language ++ braced)).takeWhile (· != '{')
        = "language-".toList ++ language ∧
      ("language-".toList ++ (language ++ braced)).dropWhile (· != '{') = braced := by
  have hplain : '{' ∉ "language-".toList ++ language := by
    rw [List.mem_append, not_or]
    refine ⟨by decide, fun hmem => ?_⟩
    exact (not_isBlank_and_ne_brace_of_isLanguageChar (hlanguage '{' hmem)).2 rfl
  obtain ⟨rest, rfl⟩ : ∃ rest, braced = '{' :: rest := List.head?_eq_some_iff.mp hbrace
  rw [← List.append_assoc]
  exact span_mark hplain rest

/-- The language of such a class. -/
theorem language_eq (hne : language ≠ []) (hlanguage : ∀ c ∈ language, isLanguageChar c = true)
    {braced : List Char} (hbrace : braced.head? = some '{') :
    CodeClass.language (some (String.ofList ("language-".toList ++ (language ++ braced))))
      = String.ofList language := by
  have hhere : languageHere? ("language-".toList ++ language) = some language := by
    have hname : language.takeWhile isLanguageChar = language :=
      List.takeWhile_eq_self_iff.mpr hlanguage
    rw [languageHere?, dropPrefix?, List.isPrefixOf?_eq_some_iff_append_eq.mpr rfl,
      Option.bind_some, hname, if_neg (by simpa using hne)]
  -- The marker stands at the front, and is found before one in the language itself.
  have hfind : findLanguage? true ("language-".toList ++ language) = some language := by
    have hcons : "language-".toList ++ language = 'l' :: ("anguage-".toList ++ language) := rfl
    rw [hcons] at hhere ⊢
    rw [findLanguage?, if_pos rfl, hhere]
  rw [CodeClass.language, Option.bind_some, String.toList_ofList, (span_brace hlanguage hbrace).1,
    hfind]

/-- The directive of such a class. -/
theorem directive?_eq (hlanguage : ∀ c ∈ language, isLanguageChar c = true)
    {braced : List Char} (hbrace : braced.head? = some '{') :
    directive? (some (String.ofList ("language-".toList ++ (language ++ braced))))
      = some (String.ofList braced) := by
  rw [directive?, Option.bind_some, String.toList_ofList, (span_brace hlanguage hbrace).2]
  cases braced with
  | nil => nomatch hbrace
  | cons c rest => rfl

end CodeClass

/-! ## Blocks of code -/

/-- The page that is a block of code and nothing else. -/
def Page.ofCode (language html : String) : Page :=
  ⟨Html.printAll (Html.block "pre" .empty
    [.element "code"
      (.ofList [("class", "code-block__wrapper code-block _highlighted lang_" ++ language)])
      [.raw html]] 0), [], none⟩

/-- A document that is a block of code is what the highlighter answers. -/
theorem Renderer.render_codeBlock (r : Renderer) (attributes : Attributes) (code : String) :
    let cls := attributes.get? "class"
    r.render (.ofKind .document [⟨.codeBlock code, attributes, []⟩])
      = (CodeSpot.highlight r.highlighter
          ⟨code, CodeClass.language cls, .block, CodeClass.directive? cls⟩).map
        (Page.ofCode (CodeClass.language cls)) := by
  intro cls
  have hdraft : Draft.ofNode r.settings.baseUrl
      (.ofKind .document [⟨.codeBlock code, attributes, []⟩]) = Layout.codeBlock cls code := by
    rfl
  rw [render, renderWithIds, hdraft]
  -- There is one step that can fail, and the block stands around what it gives.
  cases hspot : CodeSpot.highlight r.highlighter
      ⟨code, CodeClass.language cls, .block, CodeClass.directive? cls⟩ with
  | error e =>
    simp only [Layout.codeBlock, Draft.block, Draft.pad, Draft.newline, settleAll, Draft.settle,
      hspot]
    rfl
  | ok html =>
    simp only [Layout.codeBlock, Draft.block, Draft.pad, Draft.newline, settleAll, Draft.settle,
      hspot]
    rfl

/-- The document that is a block of code with the given description. -/
def Node.ofCode (info code : String) : Node :=
  .ofKind .document [(Markdown.Block.code info code).lower]

/-- A document is what the highlighter answers to a request, or its directive is
    refused. -/
def Renderer.Honors (r : Renderer) (document : Node) (request : HighlightRequest) : Prop :=
  (∃ e, r.render document = .error (.malformedDirective e)) ∨
    r.render document = ((r.highlighter.highlight request).mapError .highlight).map
      (Page.ofCode request.language)

section Honors

variable {r : Renderer} {document : Node} {code language : String} {directive : Option String}
  {lines : LineSelection}

/-- A directive that selects the lines, or is refused, is honored. -/
theorem Renderer.honors_of_render
    (hsame : ∀ other, LineSelection.parse directive = .ok other → other = lines)
    (hrender : r.render document
      = (CodeSpot.highlight r.highlighter ⟨code, language, .block, directive⟩).map
        (Page.ofCode language)) :
    r.Honors document ⟨code, language, .block, lines⟩ := by
  unfold CodeSpot.highlight at hrender
  cases hparse : LineSelection.parse directive with
  | error e =>
    rw [hparse] at hrender
    exact .inl ⟨e, hrender⟩
  | ok other =>
    obtain rfl := hsame other hparse
    rw [hparse] at hrender
    refine .inr (hrender.trans ?_)
    dsimp only
    cases r.highlighter.highlight ⟨code, language, .block, other⟩ <;> rfl

/-- A backend that takes code with the given marked lines, and no other code. -/
def Backend.only (lines : LineSelection) : Backend :=
  ⟨"only", [], fun _ => true, fun request =>
    if request.lines = lines then .ok "" else .error (.failed "")⟩

theorem Highlighter.highlight_only (request : HighlightRequest) :
    Highlighter.highlight ⟨.only lines, [], false⟩ request =
      if request.lines = lines then .ok "" else .error (.failed "") := rfl

/-- A directive that is honored by every renderer selects no other lines: the backend
    for these lines alone would refuse them. -/
theorem Renderer.eq_of_honors
    (hrender : ∀ r : Renderer, r.render document
      = (CodeSpot.highlight r.highlighter ⟨code, language, .block, directive⟩).map
        (Page.ofCode language))
    (hall : ∀ r : Renderer, r.Honors document ⟨code, language, .block, lines⟩)
    {other : LineSelection} (hparse : LineSelection.parse directive = .ok other) :
    other = lines := by
  -- If they were others, the backend for the lines alone would refuse the page, and
  -- this is neither the answer for the lines nor a directive that is refused.
  by_contra hne
  have hpage := hrender ⟨{}, ⟨.only lines, [], false⟩⟩
  unfold CodeSpot.highlight at hpage
  rw [hparse] at hpage
  dsimp only at hpage
  rw [Highlighter.highlight_only, if_neg hne] at hpage
  rcases hall ⟨{}, ⟨.only lines, [], false⟩⟩ with ⟨e, he⟩ | hanswer
  · rw [hpage] at he
    nomatch he
  · rw [hpage, Highlighter.highlight_only, if_pos rfl] at hanswer
    nomatch hanswer

end Honors

section Directive

variable {language directive : List Char} (hne : language ≠ [])
  (hlanguage : ∀ c ∈ language, CodeClass.isLanguageChar c = true)
  (hbrace : directive.head? = some '{')

include hne hlanguage hbrace

/-- What a block that is described by a language and a directive asks of a highlighter:
    the directive is read up to its first white space. -/
theorem Renderer.render_ofCode (r : Renderer) (code : String) :
    r.render (.ofCode (String.ofList (language ++ directive)) code)
      = (CodeSpot.highlight r.highlighter ⟨code, String.ofList language, .block,
          some (String.ofList (beforeBlank directive))⟩).map
        (Page.ofCode (String.ofList language)) := by
  have hkept : (beforeBlank directive).head? = some '{' := by
    obtain ⟨rest, hrest⟩ := exists_beforeBlank_eq_cons hbrace (by decide)
    rw [hrest]
    rfl
  have hlowered : (Markdown.Block.code (String.ofList (language ++ directive)) code).lower
      = ⟨.codeBlock code, Attributes.empty.insert "class"
          (String.ofList ("language-".toList ++ (language ++ beforeBlank directive))), []⟩ := by
    rw [Markdown.Block.lower, CodeClass.codeClass?_append hne hlanguage]
    rfl
  rw [Node.ofCode, hlowered, render_codeBlock, Attributes.get?_insert, if_pos rfl,
    CodeClass.language_eq hne hlanguage hkept, CodeClass.directive?_eq hlanguage hkept]

/-- **A directive is honored, or refused, exactly if its first part is.** What stands
    behind the first white space of a directive is lost. A directive that selects lines
    is honored by every renderer exactly if what is left of it selects the same lines or
    none at all because it is refused; so it is if there is white space at its end only,
    or if a comma or a dash stands before its first white space. -/
theorem Renderer.honors_iff {lines : LineSelection} (code : String)
    (hparse : LineSelection.parse (some (String.ofList directive)) = .ok lines) :
    let document := Node.ofCode (String.ofList (language ++ directive)) code
    let kept := beforeBlank directive
    (∀ r : Renderer, r.render document = (CodeSpot.highlight r.highlighter
      ⟨code, String.ofList language, .block, some (String.ofList kept)⟩).map
        (Page.ofCode (String.ofList language))) ∧
    ((∀ r : Renderer, r.Honors document ⟨code, String.ofList language, .block, lines⟩) ↔
      ∀ other, LineSelection.parse (some (String.ofList kept)) = .ok other → other = lines) ∧
    ((directive.dropWhile (!isBlank ·)).all isBlank = true ∨ kept.getLast? = some ',' ∨
        kept.getLast? = some '-' →
      ∀ r : Renderer, r.Honors document ⟨code, String.ofList language, .block, lines⟩) := by
  intro document kept
  have hrender : ∀ r : Renderer, r.render document = (CodeSpot.highlight r.highlighter
      ⟨code, String.ofList language, .block, some (String.ofList kept)⟩).map
        (Page.ofCode (String.ofList language)) := fun r =>
    r.render_ofCode hne hlanguage hbrace code
  have hhonors : (∀ other, LineSelection.parse (some (String.ofList kept)) = .ok other →
      other = lines) →
      ∀ r : Renderer, r.Honors document ⟨code, String.ofList language, .block, lines⟩ :=
    fun hsame r => r.honors_of_render hsame (hrender r)
  refine ⟨hrender, ⟨fun hall other hother => ?_, hhonors⟩, fun hlucky => hhonors ?_⟩
  · exact eq_of_honors hrender hall hother
  · -- Either nothing but white space is lost, or what is left is refused.
    rcases hlucky with hend | hcut
    · intro other hother
      rw [LineSelection.parse_beforeBlank (List.all_eq_true.mp hend) hparse] at hother
      exact (Except.ok.inj hother).symm
    · intro other hother
      obtain ⟨e, he⟩ := LineSelection.exists_parse_beforeBlank_error hbrace hcut
      rw [hother] at he
      nomatch he

end Directive

/-- A directive without white space is honored. -/
theorem Renderer.honors_python :
    (∀ c ∈ "python".toList, CodeClass.isLanguageChar c = true) ∧
      LineSelection.parse (some "{1,3}") = .ok ⟨[1, 3]⟩ ∧
      ∀ r : Renderer, r.Honors (.ofCode "python{1,3}" "a\nb\nc\n")
        ⟨"a\nb\nc\n", "python", .block, ⟨[1, 3]⟩⟩ := by
  have hlanguage : ∀ c ∈ "python".toList, CodeClass.isLanguageChar c = true :=
    List.all_eq_true.mp (by decide +kernel)
  have hparse : LineSelection.parse (some "{1,3}") = .ok ⟨[1, 3]⟩ := by decide +kernel
  have hinfo : String.ofList ("python".toList ++ "{1,3}".toList) = "python{1,3}" := by decide
  have hbrace : "{1,3}".toList.head? = some '{' := by decide
  obtain ⟨-, -, hhonors⟩ := honors_iff (by decide) hlanguage hbrace "a\nb\nc\n" hparse
  rw [hinfo] at hhonors
  exact ⟨hlanguage, hparse, hhonors (.inl (by decide))⟩

/-- With a space before the comma only the first line is marked. -/
theorem Renderer.not_honors_space :
    LineSelection.parse (some "{1 ,3}") = .ok ⟨[1, 3]⟩ ∧
      ((Renderer.mk {} .plain).render (.ofCode "python{1 ,3}" "a\nb\nc\n")).toOption.map (·.html)
        = some ("<pre><code class=\"code-block__wrapper code-block _highlighted lang_python\">"
          ++ "<span class=\"hll\">a\n</span>b\nc\n</code></pre>\n") ∧
      ¬ (Renderer.mk {} .plain).Honors (.ofCode "python{1 ,3}" "a\nb\nc\n")
        ⟨"a\nb\nc\n", "python", .block, ⟨[1, 3]⟩⟩ := by
  refine ⟨by decide +kernel, by decide +kernel, ?_⟩
  rintro (⟨e, he⟩ | hanswer)
  · have hok : ((Renderer.mk {} .plain).render
        (.ofCode "python{1 ,3}" "a\nb\nc\n")).isOk = true := by
      decide +kernel
    rw [he] at hok
    nomatch hok
  · have hhtml := congrArg (fun result => result.toOption.map Page.html) hanswer
    exact absurd hhtml (by decide +kernel)

end DocSite
