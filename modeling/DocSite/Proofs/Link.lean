/-
  DocSite.Proofs.Link

  Targets on a page, case by case. Targets outside the site stay as they are and mail
  targets are obfuscated. The path of any other target is put below the base URL if it
  starts at the root, and led to the HTML of the page if it names a Markdown page; what
  stands behind the path stays. The base is put in before the path is looked at, which
  makes no difference: a base ends in a slash, so that the last segment stays the same.
-/
import DocSite.Proofs.Path
import Mathlib.Data.List.Basic
import Mathlib.Data.List.TakeDrop

namespace DocSite.Link

open DocSite.Path DocSite.Html

/-! ## Parts of targets -/

/-- A text without the characters that end the path of a target. -/
def Unmarked (s : List Char) : Prop := '?' ∉ s ∧ '#' ∉ s

/-- A text that is empty or begins with a character that ends the path of a target. -/
def IsSuffix (s : List Char) : Prop := s = [] ∨ s.head? = some '?' ∨ s.head? = some '#'

instance (s : List Char) : Decidable (Unmarked s) := inferInstanceAs (Decidable (_ ∧ _))

instance (s : List Char) : Decidable (IsSuffix s) := inferInstanceAs (Decidable (_ ∨ _))

/-- A base URL that pages can be put below. -/
structure IsBase (base : String) : Prop where
  slash : base.toList.getLast? = some '/'
  unmarked : Unmarked base.toList

theorem Unmarked.append {a b : List Char} (ha : Unmarked a) (hb : Unmarked b) :
    Unmarked (a ++ b) := by
  rw [Unmarked, List.mem_append, List.mem_append, not_or, not_or]
  exact ⟨⟨ha.1, hb.1⟩, ha.2, hb.2⟩

theorem splitSuffix_append {path suffix : List Char} (hpath : Unmarked path)
    (hsuffix : IsSuffix suffix) : splitSuffix (path ++ suffix) = (path, suffix) := by
  have hkeep : ∀ c ∈ path, (c != '?' && c != '#') = true := by
    intro c hc
    rw [Bool.and_eq_true, bne_iff_ne, bne_iff_ne]
    exact ⟨fun heq => hpath.1 (heq ▸ hc), fun heq => hpath.2 (heq ▸ hc)⟩
  have hstop : suffix.takeWhile (fun c => c != '?' && c != '#') = [] ∧
      suffix.dropWhile (fun c => c != '?' && c != '#') = suffix := by
    rcases hsuffix with rfl | hmark | hmark
    · exact ⟨rfl, rfl⟩
    all_goals
      obtain ⟨rest, rfl⟩ := List.head?_eq_some_iff.mp hmark
      exact ⟨List.takeWhile_cons_of_neg (by decide), List.dropWhile_cons_of_neg (by decide)⟩
  rw [splitSuffix, List.span_eq_takeWhile_dropWhile, List.takeWhile_append_of_pos hkeep,
    List.dropWhile_append_of_pos hkeep, hstop.1, hstop.2, List.append_nil]

/-- Every target is a path with a suffix. -/
theorem exists_path_suffix (target : List Char) :
    ∃ path suffix, target = path ++ suffix ∧ Unmarked path ∧ IsSuffix suffix := by
  let inPath : Char → Bool := fun c => c != '?' && c != '#'
  have hpath : ∀ c ∈ target.takeWhile inPath, c ≠ '?' ∧ c ≠ '#' := by
    intro c hc
    simpa [inPath] using List.mem_takeWhile_imp hc
  refine ⟨target.takeWhile inPath, target.dropWhile inPath,
    List.takeWhile_append_dropWhile.symm, ⟨?_, ?_⟩, ?_⟩
  · exact fun hmem => (hpath _ hmem).1 rfl
  · exact fun hmem => (hpath _ hmem).2 rfl
  · have hstop := List.head?_dropWhile_not inPath target
    cases hhead : (target.dropWhile inPath).head? with
    | none => exact .inl (List.head?_eq_none_iff.mp hhead)
    | some c =>
      rw [hhead] at hstop
      by_cases hquery : c = '?'
      · exact .inr (.inl (hquery ▸ hhead))
      · exact .inr (.inr (by simpa [inPath, hquery, hhead] using hstop))

/-! ## Pages -/

/-- A path names a Markdown page if its last segment ends in `.md` and is more than that. -/
def NamesPage (path : List Char) : Prop :=
  ∃ stem, stem ≠ [] ∧ (segments path).getLast? = some (stem ++ ".md".toList)

theorem NamesPage.exists_endsInExtension {path : List Char} (h : NamesPage path) :
    ∃ stem, EndsInExtension path stem "md".toList := by
  obtain ⟨stem, hstem, hlast⟩ := h
  refine ⟨stem, hlast, ?_, hstem, by decide⟩
  intro hparent
  have hlength := congrArg List.length hparent
  have hpos := List.length_pos_iff.mpr hstem
  rw [List.length_append, show ('.' :: "md".toList).length = 3 from rfl] at hlength
  simp only [List.length_cons, List.length_nil] at hlength
  omega

/-- A path names a Markdown page exactly if it ends in `.md` and has that extension. -/
theorem namesPage_append_iff (kept : List Char) :
    NamesPage (kept ++ ".md".toList) ↔ isMarkdownPath (kept ++ ".md".toList) = true := by
  have hend : (kept ++ ".md".toList).getLast? = some 'd' := by
    rw [List.getLast?_append]
    rfl
  constructor
  · intro h
    obtain ⟨stem, hends⟩ := h.exists_endsInExtension
    rw [isMarkdownPath, hends.extension?_eq, hend]
    rfl
  · intro h
    have hext : extension? (kept ++ ".md".toList) = some "md".toList := by
      have hmark := (Bool.and_eq_true_iff.mp h).2
      simpa using hmark
    obtain ⟨x, hx⟩ : ∃ x, (segments (kept ++ ".md".toList)).getLast? = some x :=
      ⟨_, List.getLast?_eq_some_getLast (List.splitOn_ne_nil '/' _)⟩
    -- The last segment ends as the path does, which is not in a dot.
    have hidle : isIdle x = false := by
      obtain ⟨-, before, hbefore⟩ := of_getLast?_segments hx
      have hlast : ('/' :: (kept ++ ".md".toList)).getLast? = some 'd' := by
        rw [List.getLast?_cons, hend]
        rfl
      rw [hbefore, List.getLast?_append, List.getLast?_cons, Option.some_or] at hlast
      rw [Bool.eq_false_iff]
      intro hidle
      have hx' : x = [] ∨ x = ['.'] := by simpa [isIdle] using hidle
      rcases hx' with rfl | rfl <;> exact absurd hlast (by decide)
    obtain ⟨stem, hends⟩ := exists_endsInExtension hx hidle hext
    exact ⟨stem, hends.ne_nil, hends.segment⟩

/-- Something stands before the `.md` of a page. -/
theorem NamesPage.exists_kept {path : List Char} (h : NamesPage path) :
    ∃ kept, kept ≠ [] ∧ path = kept ++ ".md".toList := by
  obtain ⟨stem, hends⟩ := h.exists_endsInExtension
  obtain ⟨-, kept, hpath⟩ := hends.exists_kept
  refine ⟨kept, ?_, hpath⟩
  rintro rfl
  rw [hpath] at h
  exact absurd ((namesPage_append_iff []).mp h) (by decide +kernel)

/-- A page is reached at its HTML, with what stands behind its path. -/
theorem pageHref_of_namesPage {kept suffix : List Char} (hpath : Unmarked (kept ++ ".md".toList))
    (hsuffix : IsSuffix suffix) (hpage : NamesPage (kept ++ ".md".toList)) :
    pageHref (kept ++ ".md".toList ++ suffix) = kept ++ ".html".toList ++ suffix := by
  have hdrop : Text.dropSuffix? ".md".toList (kept ++ ".md".toList) = some kept :=
    List.isSuffixOf?_eq_some_iff_append_eq.mpr rfl
  rw [pageHref, splitSuffix_append hpath hsuffix]
  dsimp only
  rw [hdrop]
  dsimp only
  rw [if_pos ((namesPage_append_iff kept).mp hpage)]

/-- Any other target inside the site stays as it is. -/
theorem pageHref_of_not_namesPage {path suffix : List Char} (hpath : Unmarked path)
    (hsuffix : IsSuffix suffix) (hpage : ¬NamesPage path) :
    pageHref (path ++ suffix) = path ++ suffix := by
  rw [pageHref, splitSuffix_append hpath hsuffix]
  dsimp only
  cases hdrop : Text.dropSuffix? ".md".toList path with
  | none => rfl
  | some kept =>
    obtain rfl := List.isSuffixOf?_eq_some_iff_append_eq.mp hdrop
    dsimp only
    rw [if_neg fun hmark => hpage ((namesPage_append_iff kept).mpr hmark)]

/-! ## The root -/

/-- A path with the root written as the base URL. -/
def rooted (base : List Char) : List Char → List Char
  | '/' :: rest => base ++ rest
  | path => path

theorem rooted_of_ne {c : Char} (h : c ≠ '/') (base rest : List Char) :
    rooted base (c :: rest) = c :: rest := by
  unfold rooted
  split
  · next heq => exact absurd (List.cons.inj heq).1 h
  · rfl

theorem rebase_of_ne {c : Char} (h : c ≠ '/') (base rest : List Char) :
    rebase base (c :: rest) = c :: rest := by
  unfold rebase
  split
  · rfl
  · next heq => exact absurd (List.cons.inj heq).1 h
  · rfl

/-- A target that starts at the root moves below the base, unless a host follows. -/
theorem rebase_root {rest : List Char} (h : rest.head? ≠ some '/') (base : List Char) :
    rebase base ('/' :: rest) = base ++ rest := by
  unfold rebase
  split
  · next heq =>
    obtain rfl := (List.cons.inj heq).2
    exact absurd rfl h
  · next heq =>
    obtain rfl := (List.cons.inj heq).2
    rfl
  · next hno => exact absurd rfl (hno rest)

/-- A target inside the site is rebased by its path. -/
theorem rebase_append {base path suffix : List Char} (hslashes : ¬"//".toList <+: path ++ suffix)
    (hsuffix : IsSuffix suffix) : rebase base (path ++ suffix) = rooted base path ++ suffix := by
  cases path with
  | nil =>
    -- What ends a path is no slash.
    rcases hsuffix with rfl | hmark | hmark
    · rfl
    all_goals
      obtain ⟨rest, rfl⟩ := List.head?_eq_some_iff.mp hmark
      rfl
  | cons c rest =>
    by_cases hroot : c = '/'
    · subst hroot
      rw [List.cons_append, rebase_root, rooted, List.append_assoc]
      intro hhead
      obtain ⟨more, hmore⟩ := List.head?_eq_some_iff.mp hhead
      refine hslashes ⟨more, ?_⟩
      rw [List.cons_append, hmore]
      rfl
    · rw [List.cons_append, rebase_of_ne hroot, rooted_of_ne hroot, List.cons_append]

/-- The last segment of a path stays the same. -/
theorem getLast?_segments_rooted {base : List Char} (hbase : base.getLast? = some '/')
    (path : List Char) : (segments (rooted base path)).getLast? = (segments path).getLast? := by
  unfold rooted
  split
  · next rest =>
    obtain ⟨above, rfl⟩ : ∃ above, base = above ++ ['/'] :=
      ⟨_, (List.dropLast_append_getLast? '/' hbase).symm⟩
    have hsegments : ∀ before, (segments (before ++ '/' :: rest)).getLast?
        = (segments rest).getLast? := by
      intro before
      obtain ⟨x, hx⟩ : ∃ x, (segments rest).getLast? = some x :=
        ⟨_, List.getLast?_eq_some_getLast (List.splitOn_ne_nil '/' _)⟩
      rw [segments_append, List.getLast?_append, hx, Option.some_or]
    rw [List.append_assoc, List.singleton_append, hsegments]
    exact (hsegments []).symm
  · rfl

theorem Unmarked.rooted {base path : List Char} (hbase : Unmarked base) (hpath : Unmarked path) :
    Unmarked (rooted base path) := by
  unfold Link.rooted
  split
  · next rest =>
    have hrest : Unmarked rest :=
      ⟨fun hmem => hpath.1 (List.mem_cons_of_mem _ hmem),
        fun hmem => hpath.2 (List.mem_cons_of_mem _ hmem)⟩
    exact hbase.append hrest
  · exact hpath

/-- A path of a page is rebased by what stands before `.md`. -/
theorem rooted_append {base kept : List Char} (ending : List Char) (hkept : kept ≠ []) :
    rooted base (kept ++ ending) = rooted base kept ++ ending := by
  obtain ⟨c, rest, rfl⟩ := List.exists_cons_of_ne_nil hkept
  by_cases hroot : c = '/'
  · subst hroot
    rw [List.cons_append, rooted, rooted, List.append_assoc]
  · rw [List.cons_append, rooted_of_ne hroot, rooted_of_ne hroot, List.cons_append]

/-! ## Targets -/

theorem isExternal_eq_true_iff {target : List Char} :
    isExternal target = true ↔ ∃ start ∈ externalPrefixes, start.toList <+: target := by
  simp only [isExternal, List.any_eq_true, List.isPrefixOf_iff_prefix]

/-- A target outside the site stays as it is. -/
theorem onPage_external {start target : String} (hstart : start ∈ externalPrefixes)
    (hbegins : start.toList <+: target.toList) (base : String) :
    onPage target base = ⟨target, true, none⟩ := by
  have hexternal := isExternal_eq_true_iff.mpr ⟨start, hstart, hbegins⟩
  obtain ⟨rest, hrest⟩ := hbegins
  -- No beginning of such a target is that of a mail target, or a single slash.
  have hother : Text.dropPrefix? "mailto:".toList target.toList = none ∧
      rebase base.toList target.toList = target.toList := by
    rw [← hrest]
    simp only [externalPrefixes, List.mem_cons, List.not_mem_nil, or_false] at hstart
    rcases hstart with rfl | rfl | rfl | rfl <;> exact ⟨rfl, rfl⟩
  rw [onPage, hother.1, hother.2, hexternal]
  dsimp only
  rw [if_pos rfl, String.ofList_toList]

/-- A mail target is obfuscated. -/
theorem onPage_mail (address base : String) :
    onPage ("mailto:" ++ address) base
      = ⟨String.ofList (mailHref address.toList), false, some address⟩ := by
  have hexternal : isExternal ("mailto:".toList ++ address.toList) = false := rfl
  have hdrop : Text.dropPrefix? "mailto:".toList ("mailto:".toList ++ address.toList)
      = some address.toList := List.isPrefixOf?_eq_some_iff_append_eq.mpr rfl
  rw [onPage, String.toList_append, hexternal, hdrop]
  dsimp only
  rw [String.ofList_toList]

/-- Any other target leads into the site. -/
theorem onPage_inside {target : String}
    (hinside : ∀ start ∈ externalPrefixes, ¬start.toList <+: target.toList)
    (hmail : ¬"mailto:".toList <+: target.toList) (base : String) :
    onPage target base
      = ⟨String.ofList (pageHref (rebase base.toList target.toList)), false, none⟩ := by
  have hexternal : isExternal target.toList = false := by
    rw [Bool.eq_false_iff]
    intro htrue
    obtain ⟨start, hstart, hbegins⟩ := isExternal_eq_true_iff.mp htrue
    exact hinside start hstart hbegins
  have hdrop : Text.dropPrefix? "mailto:".toList target.toList = none := by
    rw [Text.dropPrefix?, Option.eq_none_iff_forall_not_mem]
    intro address haddress
    exact hmail ⟨address, List.isPrefixOf?_eq_some_iff_append_eq.mp haddress⟩
  rw [onPage, hexternal, hdrop]
  rfl

/-- **A target changes only where it must.** A target that begins as one outside the site
    stays as it is, and of a mail target both the scheme and the address are obfuscated.
    Any other target is a path and what stands behind it. The latter stays, and so
    does the path, but for a slash at its start, which becomes the base URL, and, exactly
    if it names a Markdown page, the `.md` at its end, which becomes `.html`. -/
theorem onPage_cases {base : String} (hbase : IsBase base) (target : String) :
    (∀ start ∈ externalPrefixes, start.toList <+: target.toList →
      onPage target base = ⟨target, true, none⟩) ∧
    (∀ address, target = "mailto:" ++ address →
      onPage target base
        = ⟨String.ofList (obfuscate "mailto".toList) ++ ":"
            ++ String.ofList (obfuscate address.toList), false, some address⟩) ∧
    ((∀ start ∈ externalPrefixes, ¬start.toList <+: target.toList) →
      ¬"mailto:".toList <+: target.toList →
      ∃ path suffix, target.toList = path ++ suffix ∧ Unmarked path ∧ IsSuffix suffix ∧
        (NamesPage path → ∃ kept, path = kept ++ ".md".toList ∧
          onPage target base
            = ⟨String.ofList (rooted base.toList kept ++ ".html".toList ++ suffix), false, none⟩) ∧
        (¬NamesPage path →
          onPage target base
            = ⟨String.ofList (rooted base.toList path ++ suffix), false, none⟩)) := by
  refine ⟨fun start hstart hbegins => onPage_external hstart hbegins base, ?_, ?_⟩
  · rintro address rfl
    rw [onPage_mail]
    congr 1
    apply String.toList_inj.mp
    simp [mailHref, String.toList_append]
  · intro hinside hmail
    obtain ⟨path, suffix, htarget, hpath, hsuffix⟩ := exists_path_suffix target.toList
    refine ⟨path, suffix, htarget, hpath, hsuffix, ?_, ?_⟩
    all_goals
      have hslashes := hinside "//" (by decide)
      rw [htarget] at hslashes
      have hrooted := hbase.unmarked.rooted hpath
      -- The base ends in a slash, so that the last segment is that of the path.
      have hlast := getLast?_segments_rooted hbase.slash path
      rw [onPage_inside hinside hmail, htarget, rebase_append hslashes hsuffix]
    · intro hpage
      obtain ⟨kept, hkept, rfl⟩ := hpage.exists_kept
      have hsplit : rooted base.toList (kept ++ ".md".toList)
          = rooted base.toList kept ++ ".md".toList := rooted_append _ hkept
      rw [hsplit] at hrooted hlast
      refine ⟨kept, rfl, ?_⟩
      rw [hsplit, pageHref_of_namesPage hrooted hsuffix]
      rwa [NamesPage, hlast]
    · intro hpage
      rw [pageHref_of_not_namesPage hrooted hsuffix]
      rwa [NamesPage, hlast]

/-- A link to a page keeps its query and its fragment, whatever stands in them. -/
theorem onPage_cases_section :
    IsBase "/docs/" ∧
      (∀ start ∈ externalPrefixes, ¬start.toList <+: "/guide/setup.md?v=1.2#a/b.md".toList) ∧
      onPage "/guide/setup.md?v=1.2#a/b.md" "/docs/"
        = ⟨"/docs/guide/setup.html?v=1.2#a/b.md", false, none⟩ := by
  have hbase : IsBase "/docs/" := ⟨by decide, by decide⟩
  have hinside : ∀ start ∈ externalPrefixes,
      ¬start.toList <+: "/guide/setup.md?v=1.2#a/b.md".toList := by decide
  refine ⟨hbase, hinside, ?_⟩
  obtain ⟨path, suffix, htarget, hpath, hsuffix, hpage, -⟩ :=
    (onPage_cases hbase "/guide/setup.md?v=1.2#a/b.md").2.2 hinside (by decide)
  have hsplit := splitSuffix_append hpath hsuffix
  rw [← htarget, show splitSuffix "/guide/setup.md?v=1.2#a/b.md".toList
    = ("/guide/setup".toList ++ ".md".toList, "?v=1.2#a/b.md".toList) by decide +kernel] at hsplit
  obtain ⟨rfl, rfl⟩ := Prod.mk.inj hsplit
  obtain ⟨kept, hkept, hhref⟩ := hpage ⟨"setup".toList, by decide, by decide +kernel⟩
  rw [hhref, ← List.append_cancel_right hkept]
  decide +kernel

end DocSite.Link
