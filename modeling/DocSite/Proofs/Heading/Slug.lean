/-
  DocSite.Proofs.Heading.Slug

  Slugs are words that single dashes join, and so are identifiers: a prefix and a suffix are
  words of their own. Words keep their shape when a slug is made of a slug, and none of their
  characters is escaped, so that an identifier stands in a page as it was issued.
-/
import DocSite.Page.Settle
import DocSite.Proofs.Document.Attributes
import DocSite.Proofs.Heading.Ids
import DocSite.Proofs.Html.Escape
import DocSite.Proofs.Html.Reading
import DocSite.Proofs.Text.Lowercase
import DocSite.Proofs.Text.Split
import Mathlib.Data.List.Chain

namespace DocSite.Heading

open DocSite.Text

/-! ## Words -/

/-- The words of a text: its runs of characters that slugs keep. -/
def slugRuns (s : List Char) : List (List Char) :=
  (s.splitOnP fun c => !isSlugChar c).filter fun word => !word.isEmpty

/-- A word of a slug. -/
structure IsSlugWord (word : List Char) : Prop where
  ne_nil : word ≠ []
  chars : ∀ c ∈ word, isSlugChar c = true

theorem isSlugChar_dash : isSlugChar '-' = false := by
  decide

theorem IsSlugWord.ne_dash {word : List Char} (h : IsSlugWord word) : ∀ c ∈ word, c ≠ '-' := by
  rintro c hc rfl
  exact absurd (h.chars '-' hc) (by rw [isSlugChar_dash]; decide)

theorem mem_of_mem_splitOnP {s word : List Char} (h : word ∈ s.splitOnP fun c => !isSlugChar c) :
    ∀ c ∈ word, c ∈ s ∧ isSlugChar c = true := by
  induction s generalizing word with
  | nil =>
    rw [List.splitOnP_nil, List.mem_singleton] at h
    rw [h]
    nofun
  | cons d s ih =>
    have hrest : ∀ {part}, part ∈ s.splitOnP (fun c => !isSlugChar c) →
        ∀ c ∈ part, c ∈ d :: s ∧ isSlugChar c = true := fun hpart c hc =>
      ⟨List.mem_cons_of_mem d (ih hpart c hc).1, (ih hpart c hc).2⟩
    -- A separator puts an empty word in front of the others; any other character joins the first.
    rw [List.splitOnP_cons_eq_if_modifyHead] at h
    split at h
    · rcases List.mem_cons.mp h with rfl | h
      · nofun
      · exact hrest h
    · next hd =>
      obtain ⟨first, parts, hparts⟩ := List.exists_cons_of_ne_nil (List.splitOnP_ne_nil _ s)
      rw [hparts] at hrest h
      rcases List.mem_cons.mp h with rfl | h
      · refine List.forall_mem_cons.mpr ⟨⟨List.mem_cons_self, ?_⟩, hrest List.mem_cons_self⟩
        simpa using hd
      · exact hrest (List.mem_cons_of_mem first h)

theorem isSlugWord_of_mem_slugRuns {s word : List Char} (h : word ∈ slugRuns s) :
    IsSlugWord word := by
  obtain ⟨hsplit, hne⟩ := List.mem_filter.mp h
  exact ⟨by simpa using hne, fun c hc => (mem_of_mem_splitOnP hsplit c hc).2⟩

theorem mem_of_mem_slugRuns {s word : List Char} (h : word ∈ slugRuns s) {c : Char}
    (hc : c ∈ word) : c ∈ s :=
  (mem_of_mem_splitOnP (List.mem_filter.mp h).1 c hc).1

/-! ## Slugs -/

/-- Words with a dash in front of each. -/
def dashed (words : List (List Char)) : List Char := words.flatMap ('-' :: ·)

theorem intercalate_cons (word : List Char) (words : List (List Char)) :
    ['-'].intercalate (word :: words) = word ++ dashed words := by
  induction words generalizing word with
  | nil => rw [List.intercalate_singleton, dashed, List.flatMap_nil, List.append_nil]
  | cons next rest ih =>
    rw [List.intercalate_cons_cons, ih, dashed, dashed, List.flatMap_cons, List.append_assoc]
    rfl

/-- Behind a separator each word has a dash in front. Behind a character of a word stand the
    rest of that word and then the other words. -/
theorem slugWords_started (s : List Char) :
    slugWords true true s = dashed (slugRuns s) ∧
      ∃ word rest, s.splitOnP (fun c => !isSlugChar c) = word :: rest ∧
        slugWords true false s = word ++ dashed (rest.filter fun word => !word.isEmpty) := by
  -- Both at once, since a separator ends a word and a character of a word ends a separator.
  induction s with
  | nil => exact ⟨rfl, [], [], rfl, rfl⟩
  | cons c s ih =>
    obtain ⟨hdue, word, rest, hsplit, hword⟩ := ih
    rw [slugRuns, List.splitOnP_cons_eq_if_modifyHead]
    cases hc : isSlugChar c with
    | true =>
      rw [if_neg (by decide), hsplit]
      refine ⟨?_, c :: word, rest, rfl, ?_⟩
      · simp only [slugWords, hc, hword, dashed]
        rfl
      · simp only [slugWords, hc, hword]
        rfl
    | false =>
      rw [if_pos (by decide)]
      refine ⟨?_, [], _, rfl, ?_⟩
      · simp only [slugWords, hc, hdue]
        rfl
      · simp only [slugWords, hc, hdue]
        rfl

/-- Before the first word a separator counts for nothing. -/
theorem slugWords_fresh (due : Bool) (s : List Char) :
    slugWords false due s = ['-'].intercalate (slugRuns s) := by
  induction s generalizing due with
  | nil => rfl
  | cons c s ih =>
    obtain ⟨-, word, rest, hsplit, hword⟩ := slugWords_started s
    rw [slugRuns, List.splitOnP_cons_eq_if_modifyHead]
    cases hc : isSlugChar c with
    | true =>
      have hruns : ((c :: word) :: rest).filter (fun word => !word.isEmpty) =
          (c :: word) :: rest.filter fun word => !word.isEmpty := List.filter_cons_of_pos rfl
      rw [if_neg (by decide), hsplit, List.modifyHead_cons, hruns, intercalate_cons]
      simp only [slugWords, hc, hword]
      rfl
    | false =>
      simp only [slugWords, hc, ih]
      rfl

/-- A slug is made of the words of the text in lower case, joined by dashes. -/
theorem slugify_eq (s : List Char) : slugify s = ['-'].intercalate (slugRuns (lowercase s)) :=
  slugWords_fresh false (lowercase s)

/-- Words are found again between the dashes that join them. -/
theorem slugRuns_intercalate {words : List (List Char)} (h : ∀ word ∈ words, IsSlugWord word) :
    slugRuns (['-'].intercalate words) = words := by
  induction words with
  | nil => rfl
  | cons word words ih =>
    obtain ⟨hword, hwords⟩ := List.forall_mem_cons.mp h
    have hkeep : ∀ c ∈ word, (!isSlugChar c) = false := fun c hc => by rw [hword.chars c hc]; rfl
    have hkept : ∀ rest : List (List Char), (word :: rest).filter (fun word => !word.isEmpty) =
        word :: rest.filter fun word => !word.isEmpty := fun rest =>
      List.filter_cons_of_pos (by simpa using hword.ne_nil)
    rw [slugRuns]
    cases words with
    | nil =>
      rw [List.intercalate_singleton, List.splitOnP_eq_singleton hkeep, hkept, List.filter_nil]
    | cons next rest =>
      rw [List.intercalate_cons_cons, List.append_assoc, List.singleton_append,
        List.splitOnP_append_cons_of_forall_mem hkeep '-' rfl, hkept, ← slugRuns, ih hwords]

theorem isLower_of_mem_slugify {s : List Char} {c : Char} (h : c ∈ slugify s) : IsLower c := by
  have hdash : IsLower '-' := by decide
  rw [slugify_eq] at h
  rcases mem_of_mem_intercalate h with hbetween | ⟨word, hword, hc⟩
  · rwa [List.mem_singleton.mp hbetween]
  · exact isLower_of_mem_lowercase (mem_of_mem_slugRuns hword hc)

/-- A slug is its own slug. -/
theorem slugify_slugify (s : List Char) : slugify (slugify s) = slugify s := by
  rw [slugify_eq, lowercase_eq_self fun _ => isLower_of_mem_slugify, slugify_eq,
    slugRuns_intercalate fun _ => isSlugWord_of_mem_slugRuns]

end DocSite.Heading

namespace DocSite.Html

/-! ## Attributes that stay as they are -/

theorem printAttribute_of_isInert (key : String) {value : String}
    (h : ∀ c ∈ value.toList, IsInert c) :
    printAttribute key value = " " ++ key ++ "=\"" ++ value ++ "\"" := by
  have hescape := escapeAttribute_append h []
  rw [List.append_nil, escapeAttribute, List.append_nil] at hescape
  rw [printAttribute, hescape, String.ofList_toList]

/-- The tag of a link with a target or a name, and with a class. -/
theorem openTag_link {key value cls : String} (hkey : key ≠ "class")
    (hvalue : ∀ c ∈ value.toList, IsInert c) (hcls : ∀ c ∈ cls.toList, IsInert c) :
    openTag "a" (.ofList [(key, value), ("class", cls)]) =
      "<a " ++ key ++ "=\"" ++ value ++ "\" class=\"" ++ cls ++ "\">" := by
  have hentries : (Attributes.ofList [(key, value), ("class", cls)]).entries =
      [(key, value), ("class", cls)] := by
    simp [Attributes.ofList, Attributes.insert, Attributes.empty, setEntry, hkey]
  rw [openTag, hentries, ← String.toList_inj]
  simp [printEntries, printAttribute_of_isInert _ hvalue, printAttribute_of_isInert _ hcls]

end DocSite.Html

namespace DocSite.HeadingIds

open DocSite.Heading DocSite.Text
open DocSite.Html (openTag_link printAttribute_of_isInert)

/-! ## Identifiers -/

/-- Words that dashes join, of which the first begins with a letter. -/
def IsJoined (id : List Char) : Prop :=
  ∃ word words, IsSlugWord word ∧ (∀ w ∈ words, IsSlugWord w) ∧
    (∃ c ∈ word.head?, isAlphabetic c = true) ∧ id = ['-'].intercalate (word :: words)

/-- The shape of an identifier: it begins with a letter, and consists of letters, numbers,
    `_` and dashes that stand alone and not at the end. -/
structure WellShaped (id : List Char) : Prop where
  head : ∃ c ∈ id.head?, isAlphabetic c = true
  chars : ∀ c ∈ id, isAlphanumeric c = true ∨ c = '_' ∨ c = '-'
  single : ¬ ['-', '-'] <:+: id
  last : id.getLast? ≠ some '-'

theorem isSlugWord_section : IsSlugWord "section".toList :=
  ⟨by decide, List.forall_iff_forall_mem.mp (by decide)⟩

theorem isSlugChar_of_isDigit {c : Char} (h : c.isDigit = true) : isSlugChar c = true := by
  obtain ⟨hlow, hhigh⟩ : 0x30 ≤ c.toNat ∧ c.toNat ≤ 0x39 := Char.isDigit_iff_toNat.mp h
  have hnumeric : isNumeric c = true := by
    rw [isNumeric, numericRanges, inRanges, if_neg (by omega), decide_eq_true hhigh, Bool.true_or]
  rw [isSlugChar, isAlphanumeric, hnumeric, Bool.or_true, Bool.true_or]

theorem isSlugWord_decimal (n : Nat) : IsSlugWord (decimal n) :=
  ⟨decimal_ne_nil n, fun _ hc => isSlugChar_of_isDigit (isDigit_of_mem_decimal hc)⟩

/-- A base is a slug, or the words of a slug behind a prefix. -/
theorem isJoined_base (text : List Char) : IsJoined (HeadingIds.base text) := by
  have hwords : ∀ word ∈ slugRuns (lowercase text), IsSlugWord word := fun _ =>
    isSlugWord_of_mem_slugRuns
  have hsection : ∃ c ∈ "section".toList.head?, isAlphabetic c = true := ⟨'s', rfl, by decide⟩
  have hslug := slugify_eq text
  unfold HeadingIds.base
  split
  · exact ⟨_, [], isSlugWord_section, List.forall_mem_nil _, hsection, rfl⟩
  · next c rest hcons =>
    cases hruns : slugRuns (lowercase text) with
    | nil =>
      rw [hruns, hcons] at hslug
      cases hslug
    | cons word words =>
      rw [hruns] at hwords
      obtain ⟨hword, hwords⟩ := List.forall_mem_cons.mp hwords
      rw [hruns, hcons] at hslug
      -- A slug that begins with a letter is its own base; any other gets one more word in front.
      split
      · next halpha =>
        refine ⟨word, words, hword, hwords, ⟨c, ?_, halpha⟩, hslug⟩
        obtain ⟨d, more, rfl⟩ := List.exists_cons_of_ne_nil hword.ne_nil
        rw [intercalate_cons] at hslug
        exact congrArg some (List.cons.inj hslug).1.symm
      · refine ⟨_, word :: words, isSlugWord_section, List.forall_mem_cons.mpr ⟨hword, hwords⟩,
          hsection, ?_⟩
        rw [List.intercalate_cons_cons, ← hslug, List.append_assoc]
        rfl

/-- A suffix is one more word. -/
theorem IsJoined.candidate {base : List Char} (h : IsJoined base) (n : Nat) :
    IsJoined (candidate base n) := by
  cases n with
  | zero => exact h
  | succ n =>
    obtain ⟨word, words, hword, hwords, hhead, rfl⟩ := h
    refine ⟨word, words ++ [decimal (n + 1)], hword, ?_, hhead, ?_⟩
    · intro w hw
      rcases List.mem_append.mp hw with hw | hw
      · exact hwords w hw
      · rw [List.mem_singleton.mp hw]
        exact isSlugWord_decimal (n + 1)
    · rw [HeadingIds.candidate, intercalate_cons, intercalate_cons, dashed, dashed,
        List.flatMap_append, List.flatMap_singleton, List.append_assoc]

theorem isJoined_generate (ids : HeadingIds) (text : List Char) :
    IsJoined (ids.generate text).1 := by
  obtain ⟨n, -, heq⟩ := generate_eq ids text
  rw [heq]
  exact (isJoined_base text).candidate n

/-! ## The shape of identifiers -/

/-- Joined words have no two dashes in a row, and none at the end. -/
theorem isChain_dashed {word : List Char} (hword : IsSlugWord word) {words : List (List Char)}
    (hwords : ∀ w ∈ words, IsSlugWord w) :
    (word ++ dashed words).IsChain (fun a b => a ≠ '-' ∨ b ≠ '-') ∧
      (word ++ dashed words).getLast? ≠ some '-' := by
  induction words generalizing word with
  | nil =>
    rw [dashed, List.flatMap_nil, List.append_nil]
    refine ⟨?_, fun hlast => hword.ne_dash _ (List.mem_of_getLast? hlast) rfl⟩
    exact (List.pairwise_of_forall_mem_list fun a ha b _ => .inl (hword.ne_dash a ha)).isChain
  | cons next rest ih =>
    obtain ⟨hnext, hrest⟩ := List.forall_mem_cons.mp hwords
    obtain ⟨hchain, hlast⟩ := ih hnext hrest
    obtain ⟨c, more, rfl⟩ := List.exists_cons_of_ne_nil hnext.ne_nil
    have hdashed : dashed ((c :: more) :: rest) = '-' :: c :: (more ++ dashed rest) := by
      rw [dashed, List.flatMap_cons]
      rfl
    have hc : c ≠ '-' := hnext.ne_dash c List.mem_cons_self
    rw [hdashed]
    rw [List.cons_append] at hchain hlast
    constructor
    · -- The dash stands between two characters of words.
      refine List.isChain_append.mpr ⟨?_, List.isChain_cons_cons.mpr ⟨.inr hc, hchain⟩, ?_⟩
      · exact (List.pairwise_of_forall_mem_list fun a ha b _ => .inl (hword.ne_dash a ha)).isChain
      · exact fun a ha b _ => .inl (hword.ne_dash a (List.mem_of_getLast? ha))
    · rw [List.getLast?_append, List.getLast?_cons_cons, List.getLast?_cons, Option.some_or,
        ← List.getLast?_cons]
      exact hlast

theorem IsJoined.wellShaped {id : List Char} (h : IsJoined id) : WellShaped id := by
  obtain ⟨word, words, hword, hwords, ⟨c, hc, halpha⟩, rfl⟩ := h
  rw [intercalate_cons]
  obtain ⟨hchain, hlast⟩ := isChain_dashed hword hwords
  refine ⟨⟨c, ?_, halpha⟩, ?_, ?_, hlast⟩
  · rw [List.head?_append, Option.mem_def.mp hc, Option.some_or]
    rfl
  · intro d hd
    rw [← intercalate_cons] at hd
    rcases mem_of_mem_intercalate hd with hdash | ⟨w, hw, hd⟩
    · exact .inr (.inr (List.mem_singleton.mp hdash))
    · have hkept := (List.forall_mem_cons.mpr ⟨hword, hwords⟩ w hw).chars d hd
      rw [isSlugChar, Bool.or_eq_true, beq_iff_eq] at hkept
      exact hkept.imp_right .inl
  · intro hinfix
    have hpair := hchain.infix hinfix
    simp at hpair

/-! ## Identifiers in pages -/

/-- No character of an identifier has a meaning in markup. -/
theorem WellShaped.isInert {id : List Char} (h : WellShaped id) : ∀ c ∈ id, Html.IsInert c := by
  intro c hc
  exact Html.isInert_of (p := fun c => isAlphanumeric c = true ∨ c = '_' ∨ c = '-')
    (h.chars c hc) (by decide)

/-- The HTML of a heading shows its identifier as it is: in the anchor before the heading, in
    the heading, and in the link from the heading to itself. -/
theorem printAll_headingHtml_some {settings : RenderSettings} {spot : HeadingSpot}
    (hid : spot.attributes.get? "id" = none) {id : String} (hshape : WellShaped id.toList)
    (body : List Html) :
    Html.printAll (headingHtml settings spot (some id) body) =
      (Html.pad spot.indent).print ++ "<a name=\"" ++ id ++ "\" class=\"elem-anchor\"></a>\n" ++
      (Html.pad spot.indent).print ++ "<h" ++
      String.ofList (decimal (settings.outputLevel spot.level)) ++
      Html.printEntries spot.attributes.entries ++ " id=\"" ++ id ++ "\">" ++
      Html.printAll body ++
      (if settings.outputLevel spot.level ≤ settings.maxAnchoredLevel then
        "<a href=\"#" ++ id ++ "\" class=\"anchor-link\"></a>" else "") ++
      "</h" ++ String.ofList (decimal (settings.outputLevel spot.level)) ++ ">\n" := by
  have hplain := hshape.isInert
  have htarget : ∀ c ∈ ("#" ++ id).toList, Html.IsInert c := by
    rw [String.toList_append]
    exact List.forall_mem_cons.mpr ⟨by decide, hplain⟩
  have hanchor : Html.openTag "a" (.ofList [("name", id), ("class", "elem-anchor")]) = _ :=
    openTag_link (by decide) hplain (List.forall_iff_forall_mem.mp (by decide))
  have hlink : Html.openTag "a" (.ofList [("href", "#" ++ id), ("class", "anchor-link")]) = _ :=
    openTag_link (by decide) htarget (List.forall_iff_forall_mem.mp (by decide))
  have hheading : ∀ tag, Html.openTag tag (spot.attributes.insert "id" id) =
      "<" ++ tag ++ (Html.printEntries spot.attributes.entries ++ (" id=\"" ++ id ++ "\"")) ++
        ">" := by
    intro tag
    rw [Html.openTag, Attributes.entries_insert_of_none hid, Html.printEntries_append,
      Html.printEntries, Html.printEntries, printAttribute_of_isInert _ hplain, String.append_empty]
    rfl
  have hnewline : Html.newline.print = "\n" := rfl
  -- The two texts differ only in how they are cut into pieces.
  rw [headingHtml, ← String.toList_inj]
  split <;> simp [Html.block, Html.printAll_append, Html.printAll, Html.print, hanchor, hlink,
    hheading, Html.closeTag, hnewline]

/-! ## The shape of identifiers in every state -/

/-- A slug consists of the words of the text in lower case, joined by dashes, and is its own
    slug. Whatever has been issued before, an identifier is well-shaped, and a heading that
    gets it is printed with it as it is. -/
theorem generate_wellShaped (ids : HeadingIds) (text : List Char) :
    slugify text = ['-'].intercalate (slugRuns (lowercase text)) ∧
      slugify (slugify text) = slugify text ∧
      WellShaped (ids.generate text).1 ∧
      ∀ (settings : RenderSettings) (spot : HeadingSpot) (p : Progress) (body : List Html),
        settings.autoIds = true → spot.attributes.get? "id" = none →
        spot.rawText.toList = text → p.ids = ids →
        Html.printAll (headingHtml settings spot (p.visit settings spot).1 body) =
          (Html.pad spot.indent).print ++ "<a name=\"" ++ String.ofList (ids.generate text).1 ++
          "\" class=\"elem-anchor\"></a>\n" ++
          (Html.pad spot.indent).print ++ "<h" ++
          String.ofList (decimal (settings.outputLevel spot.level)) ++
          Html.printEntries spot.attributes.entries ++ " id=\"" ++
          String.ofList (ids.generate text).1 ++ "\">" ++ Html.printAll body ++
          (if settings.outputLevel spot.level ≤ settings.maxAnchoredLevel then
            "<a href=\"#" ++ String.ofList (ids.generate text).1 ++
              "\" class=\"anchor-link\"></a>" else "") ++
          "</h" ++ String.ofList (decimal (settings.outputLevel spot.level)) ++ ">\n" := by
  have hshape : WellShaped (ids.generate text).1 := (isJoined_generate ids text).wellShaped
  refine ⟨slugify_eq text, slugify_slugify text, hshape, ?_⟩
  rintro settings spot p body hauto hid rfl rfl
  have hvisit : (p.visit settings spot).1 =
      some (String.ofList (p.ids.generate spot.rawText.toList).1) := by
    rw [Progress.visit, Progress.identify, hid, if_pos hauto]
  rw [hvisit]
  exact printAll_headingHtml_some hid (by rwa [String.toList_ofList]) body

theorem generate_wellShaped_repeated :
    let text := "2. A_b ".toList
    let ids := (empty.generate text).2
    let spot : HeadingSpot := ⟨2, String.ofList text, .ofList [("class", "wide")], [], 2⟩
    let p := Progress.start ids
    ({} : RenderSettings).autoIds = true ∧ spot.attributes.get? "id" = none ∧
      spot.rawText.toList = text ∧ p.ids = ids ∧
      WellShaped "section-2-a_b-1".toList ∧
      Html.printAll (headingHtml {} spot (p.visit {} spot).1 [.text "Go"]) =
        "  <a name=\"section-2-a_b-1\" class=\"elem-anchor\"></a>\n" ++
        "  <h2 class=\"wide\" id=\"section-2-a_b-1\">Go" ++
        "<a href=\"#section-2-a_b-1\" class=\"anchor-link\"></a></h2>\n" := by
  intro text ids spot p
  obtain ⟨-, -, hshape, hprint⟩ := generate_wellShaped ids text
  have hid : (ids.generate text).1 = "section-2-a_b-1".toList := by decide +kernel
  rw [hid] at hshape
  refine ⟨rfl, rfl, rfl, rfl, hshape, ?_⟩
  rw [hprint {} spot p [.text "Go"] rfl rfl rfl rfl, hid]
  decide +kernel

end DocSite.HeadingIds
