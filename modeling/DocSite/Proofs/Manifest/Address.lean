/-
  DocSite.Proofs.Manifest.Address

  Where a Markdown page lives, for the pages that link to it and for the manifest.
  A link on a page is cut at its query or fragment before the extension of its path
  is replaced. The manifest cuts off what follows the last dot of the last segment
  of the whole target, query and fragment included: the two agree exactly as long
  as there is no dot and no slash behind the path.
-/
import DocSite.Proofs.Link
import DocSite.Proofs.Manifest.Entries

namespace DocSite

open DocSite.Path

namespace Link

/-- The path of a Markdown page below the root, and the query or fragment behind it. -/
structure IsPage (path suffix : String) : Prop where
  relative : path.toList.head? ≠ some '/'
  unmarked : Unmarked path.toList
  name : ∃ stem, stem ≠ [] ∧ (segments path.toList).getLast? = some (stem ++ ".md".toList)
  suffix : IsSuffix suffix.toList

/-- A path below the root ends in a stem, behind its last slash. -/
structure EndsIn (root before stem : List Char) : Prop where
  eq : '/' :: root = before ++ '/' :: stem
  ne_nil : stem ≠ []
  slash : '/' ∉ stem

/-- A Markdown page has a path without `.md`, which ends in a stem. -/
theorem IsPage.exists_root {path suffix : String} (h : IsPage path suffix) :
    ∃ root before stem, path = String.ofList root ++ ".md" ∧ EndsIn root before stem := by
  obtain ⟨stem, hstem, hlast⟩ := h.name
  obtain ⟨hslash, before, hpath⟩ := of_getLast?_segments hlast
  have hnone : '/' ∉ stem := fun hmem => hslash (List.mem_append_left _ hmem)
  obtain ⟨root, hroot⟩ : ∃ root, '/' :: root = before ++ '/' :: stem := by
    cases before with
    | nil => exact ⟨stem, rfl⟩
    | cons c rest =>
      rw [(List.cons.inj hpath).1]
      exact ⟨_, rfl⟩
  refine ⟨root, before, stem, ?_, hroot, hstem, hnone⟩
  apply String.toList_inj.mp
  rw [String.toList_append, String.toList_ofList]
  have hwhole : '/' :: path.toList = '/' :: root ++ ".md".toList := by
    rw [hpath, hroot, List.append_assoc, List.cons_append]
  exact (List.cons.inj hwhole).2

/-! ## The page a link leads to -/

/-- The extension of a Markdown page is replaced, whatever stands behind its path. -/
theorem pageHref_append {before stem suffix : List Char} (hstem : stem ≠ []) (hslash : '/' ∉ stem)
    (hpath : Unmarked (before ++ '/' :: (stem ++ ".md".toList))) (hsuffix : IsSuffix suffix) :
    pageHref (before ++ '/' :: (stem ++ ".md".toList) ++ suffix)
      = before ++ '/' :: (stem ++ ".html".toList) ++ suffix := by
  have hname : '/' ∉ stem ++ ".md".toList := by
    rw [List.mem_append, not_or]
    exact ⟨hslash, by decide⟩
  have hpage : NamesPage (before ++ '/' :: (stem ++ ".md".toList)) := by
    refine ⟨stem, hstem, ?_⟩
    rw [segments_append, segments_eq_singleton hname, List.getLast?_concat]
  have hsplit : ∀ ending, before ++ '/' :: (stem ++ ending) = before ++ '/' :: stem ++ ending := by
    intro ending
    rw [List.append_assoc, List.cons_append]
  rw [hsplit] at hpath hpage ⊢
  rw [pageHref_of_namesPage hpath hsuffix hpage, hsplit]

/-- A target below the root stays inside the site and moves below the base. -/
theorem onPage_rooted {path base : String} (hpath : path.toList ≠ [])
    (hhead : path.toList.head? ≠ some '/') :
    onPage ("/" ++ path) base
      = ⟨String.ofList (pageHref (base.toList ++ path.toList)), false, none⟩ := by
  have htarget : ("/" ++ path).toList = '/' :: path.toList := String.toList_append
  obtain ⟨c, rest, hc⟩ := List.exists_cons_of_ne_nil hpath
  have hslash : '/' ≠ c := by
    rintro rfl
    exact hhead (by rw [hc]; rfl)
  have hinside : ∀ start ∈ externalPrefixes, ¬start.toList <+: ("/" ++ path).toList := by
    rw [htarget, hc]
    simp [externalPrefixes, hslash]
  have hmail : ¬"mailto:".toList <+: ("/" ++ path).toList := by
    rw [htarget]
    simp
  rw [onPage_inside hinside hmail, htarget, rebase_root hhead]

/-- A link to a Markdown page leads to its HTML below the base, with the query or
    fragment behind it. -/
theorem IsPage.onPage_eq {base path suffix : String} {root before stem : List Char}
    (hbase : IsBase base) (h : IsPage path suffix) (hpath : path = String.ofList root ++ ".md")
    (hroot : EndsIn root before stem) :
    onPage ("/" ++ path ++ suffix) base
      = ⟨base ++ String.ofList root ++ ".html" ++ suffix, false, none⟩ := by
  -- The slash that ends the base is the one before the path below it.
  obtain ⟨above, habove⟩ : ∃ above, base.toList = above ++ ['/'] :=
    ⟨_, (List.dropLast_append_getLast? '/' hbase.slash).symm⟩
  have hlist : path.toList = root ++ ".md".toList := by
    rw [hpath, String.toList_append, String.toList_ofList]
  have hbelow : ∀ ending, base.toList ++ (root ++ ending)
      = (above ++ before) ++ '/' :: (stem ++ ending) := by
    intro ending
    have hjoin : base.toList ++ (root ++ ending) = above ++ ('/' :: root ++ ending) := by
      rw [habove, List.append_assoc]
      rfl
    rw [hjoin, hroot.eq, List.append_assoc, List.append_assoc, List.cons_append]
  have hunmarked : Unmarked ((above ++ before) ++ '/' :: (stem ++ ".md".toList)) := by
    rw [← hbelow, ← hlist]
    exact hbase.unmarked.append h.unmarked
  have hwhole : (path ++ suffix).toList = root ++ ".md".toList ++ suffix.toList := by
    rw [String.toList_append, hlist]
  have hhref : pageHref (base.toList ++ (path ++ suffix).toList)
      = base.toList ++ (root ++ ".html".toList) ++ suffix.toList := by
    rw [hwhole, ← List.append_assoc base.toList, hbelow,
      pageHref_append hroot.ne_nil hroot.slash hunmarked h.suffix, hbelow]
  have hhead : (path ++ suffix).toList.head? ≠ some '/' := by
    intro hhead
    refine h.relative ?_
    rw [hwhole] at hhead
    rw [hlist]
    cases root with
    | nil => nomatch hhead
    | cons c rest => exact hhead
  rw [String.append_assoc, onPage_rooted (by rw [hwhole]; simp) hhead, hhref]
  congr 1
  apply String.toList_inj.mp
  simp only [String.toList_ofList, String.toList_append, List.append_assoc]

/-! ## The page of an entry -/

/-- An extension ends what follows any dot of a name. -/
theorem suffix_of_append_dot_eq {a e x y : List Char} (h : a ++ '.' :: e = x ++ '.' :: y)
    (hdot : '.' ∉ e) : e <:+ y := by
  have hlong : '.' :: e <:+ x ++ '.' :: y := ⟨a, h⟩
  rcases List.suffix_or_suffix_of_suffix hlong ⟨x, rfl⟩ with hle | hge
  · rcases List.suffix_cons_iff.mp hle with heq | hsuffix
    · obtain ⟨-, rfl⟩ := List.cons.inj heq
      exact List.suffix_refl e
    · exact (List.suffix_cons '.' e).trans hsuffix
  · rcases List.suffix_cons_iff.mp hge with heq | hsuffix
    · obtain ⟨-, rfl⟩ := List.cons.inj heq
      exact List.suffix_refl y
    · exact absurd (hsuffix.subset List.mem_cons_self) hdot

/-- A dot or a slash behind the path makes the extension of the target shorter than
    what stands behind the stem. -/
theorem byteLength_extension?_lt {before stem suffix e : List Char} (hslash : '/' ∉ stem)
    (hbehind : '.' ∈ suffix ∨ '/' ∈ suffix)
    (hext : extension? (before ++ '/' :: (stem ++ ".md".toList ++ suffix)) = some e) :
    byteLength e + 1 < byteLength (".md".toList ++ suffix) := by
  obtain ⟨a, hname, -, hdot⟩ := extension?_eq_some_iff.mp hext
  have hdotSize : '.'.utf8Size = 1 := rfl
  have hslashSize : '/'.utf8Size = 1 := rfl
  have hmd : byteLength ".md".toList = 1 + byteLength "md".toList := rfl
  have hfirst : ∀ s, '/' ∉ s → '/' ∉ stem ++ ".md".toList ++ s := by
    intro s hs
    rw [List.mem_append, List.mem_append, not_or, not_or]
    exact ⟨⟨hslash, by decide⟩, hs⟩
  have hidle : ∀ s, isIdle (stem ++ ".md".toList ++ s) = false := by
    intro s
    refine isIdle_of_length ?_
    rw [List.length_append, List.length_append, show ".md".toList.length = 3 from rfl]
    omega
  -- A slash makes later segments, one of which may be the name; else it is a dot that
  -- moves the extension.
  by_cases hpath : '/' ∈ suffix
  · obtain ⟨s, rest, rfl, hs⟩ := List.eq_append_cons_of_mem hpath
    have hsegments : segments (stem ++ ".md".toList ++ (s ++ '/' :: rest))
        = (stem ++ ".md".toList ++ s) :: segments rest := by
      rw [← List.append_assoc, segments_append, segments_eq_singleton (hfirst s hs)]
      rfl
    rw [fileName?_append before (by rw [hsegments]; exact List.mem_cons_self) (hidle s)] at hname
    have hmem := mem_segments_of_fileName? hname
    rw [hsegments] at hmem
    rw [byteLength_append, byteLength_append, byteLength_cons]
    rcases List.mem_cons.mp hmem with hown | hrest
    · -- The name holds the page: its extension begins there.
      have hsuffix := suffix_of_append_dot_eq (x := stem) (y := "md".toList ++ s)
        (hown.trans (List.append_assoc _ _ _)) hdot
      have hle := byteLength_le_of_infix hsuffix.isInfix
      rw [byteLength_append] at hle
      omega
    · -- The name is a later segment, and stands behind the slash as a whole.
      have hle := byteLength_le_of_infix (infix_of_mem_segments hrest)
      rw [byteLength_append, byteLength_cons] at hle
      omega
  · obtain ⟨s, rest, rfl, hrest⟩ := Text.exists_last (hbehind.resolve_right hpath)
    rw [fileName?_segment before (hfirst _ hpath) (hidle _)] at hname
    split at hname
    · nomatch hname
    · -- There is one segment, and its extension begins behind the last dot.
      have hsuffix := suffix_of_append_dot_eq (x := stem ++ ".md".toList ++ s) (y := rest)
        ((Option.some.inj hname).symm.trans (List.append_assoc _ _ _).symm) hdot
      have hle := byteLength_le_of_infix hsuffix.isInfix
      rw [byteLength_append, byteLength_append, byteLength_cons]
      omega

/-- The id of a Markdown page is its path without `.md` exactly as long as no dot and no
    slash stands behind the path. -/
theorem pageId?_eq_some_iff {root before stem suffix : List Char} (h : EndsIn root before stem) :
    pageId? ('/' :: (root ++ ".md".toList ++ suffix)) = some root ↔
      '.' ∉ suffix ∧ '/' ∉ suffix := by
  have htarget : '/' :: (root ++ ".md".toList ++ suffix)
      = before ++ '/' :: (stem ++ ".md".toList ++ suffix) := by
    rw [List.append_assoc, ← List.cons_append, h.eq, List.append_assoc, List.append_assoc,
      List.cons_append]
  constructor
  · intro hid
    obtain ⟨kept, hkept, hdropped⟩ := Option.map_eq_some_iff.mp hid
    have hne : root ≠ [] := by
      rintro rfl
      have hlength := congrArg List.length h.eq
      have hpos := List.length_pos_iff.mpr h.ne_nil
      rw [List.length_append, List.length_cons, List.length_cons, List.length_nil] at hlength
      omega
    rcases of_stripExtension?_eq_some hkept with hwhole | ⟨e, cut, hext, hcut, hbytes⟩
    · -- Nothing is cut off: the id is longer than the path.
      rw [hwhole] at hdropped
      have hlength : (root ++ ".md".toList ++ suffix).length = root.length :=
        congrArg List.length hdropped
      rw [List.length_append, List.length_append, show ".md".toList.length = 3 from rfl] at hlength
      omega
    · -- What is cut off is what stands behind the stem, so that the extension has as
      -- many bytes as that without its first dot.
      cases kept with
      | nil => exact absurd hdropped.symm hne
      | cons c rest =>
        obtain ⟨rfl, hrest⟩ := List.cons.inj hcut
        obtain rfl : rest = root := hdropped
        have hbehind : ".md".toList ++ suffix = cut := by
          rw [List.append_assoc] at hrest
          exact List.append_cancel_left hrest
        rw [htarget] at hext
        rw [← hbehind] at hbytes
        rw [← not_or]
        intro hmark
        have hlt := byteLength_extension?_lt h.slash hmark hext
        omega
  · rintro ⟨hdot, hpath⟩
    have hext : extension? (before ++ '/' :: (stem ++ '.' :: ("md".toList ++ suffix)))
        = some ("md".toList ++ suffix) := by
      refine extension?_append before h.ne_nil (by simp) ?_ ?_
      · rw [List.mem_append, not_or]
        exact ⟨h.slash, by simpa using hpath⟩
      · simpa using hdot
    have hstrip : stripExtension? (before ++ '/' :: (stem ++ ".md".toList ++ suffix))
        = some ('/' :: root) := by
      have hwhole : before ++ '/' :: (stem ++ '.' :: ("md".toList ++ suffix))
          = ('/' :: root) ++ '.' :: ("md".toList ++ suffix) := by
        rw [h.eq, List.append_assoc, List.cons_append]
      have hsplit : before ++ '/' :: (stem ++ ".md".toList ++ suffix)
          = before ++ '/' :: (stem ++ '.' :: ("md".toList ++ suffix)) := by
        rw [List.append_assoc]
        rfl
      rw [hwhole] at hext
      rw [hsplit, hwhole]
      exact stripExtension?_append (by simpa using hpath) hext
    rw [pageId?, htarget, hstrip]
    rfl

/-! ## Both pages -/

/-- **A page of the site, linked to and listed.** Every link to a Markdown page below
    the root leads to the page's HTML below the base URL. The URL that the manifest
    lists for the same target is that page exactly if no dot and no slash stands
    in the query or fragment behind the path. -/
theorem onPage_eq_listed_iff {base path suffix : String} (hbase : IsBase base)
    (hpage : IsPage path suffix) :
    ∃ stem : String, path = stem ++ ".md" ∧
      onPage ("/" ++ path ++ suffix) base
        = ⟨base ++ stem ++ ".html" ++ suffix, false, none⟩ ∧
      ∀ children link, leadOf? children = some link → link.kind = .link →
        link.target = "/" ++ path ++ suffix →
        ((∃ entry url, entryOf children = .ok entry ∧ entry.url = some url ∧
            (onPage link.target base).href = base ++ url ++ suffix) ↔
          '.' ∉ suffix.toList ∧ '/' ∉ suffix.toList) := by
  obtain ⟨root, before, stem, hpath, hroot⟩ := hpage.exists_root
  have hhref := hpage.onPage_eq hbase hpath hroot
  refine ⟨String.ofList root, hpath, hhref, fun children link hlead hkind htarget => ?_⟩
  have hlist : link.target.toList = '/' :: (root ++ ".md".toList ++ suffix.toList) := by
    rw [htarget, hpath]
    simp only [String.toList_append, String.toList_ofList]
    rfl
  -- What stands behind the path decides whether the id is the path of the page.
  rw [← pageId?_eq_some_iff hroot, ← hlist, htarget, hhref, ← htarget]
  constructor
  · rintro ⟨entry, url, hentry, hurl, hsame⟩
    obtain ⟨lead, hlead', hleads⟩ := (entryOf_eq_ok_iff _ _).mp hentry
    obtain rfl := Option.some.inj (hlead.symm.trans hlead')
    cases hleads with
    | placeholder htext =>
      rw [hkind] at htext
      nomatch htext
    | @page id _ hid =>
      obtain rfl := Option.some.inj hurl
      have hchars := congrArg String.toList hsame
      simp only [String.toList_append, String.toList_ofList, List.append_assoc] at hchars
      rw [List.append_cancel_right (List.append_cancel_left hchars)]
      exact hid
  · intro hid
    refine ⟨_, _, (entryOf_eq_ok_iff _ _).mpr ⟨link, hlead, .page hkind hid⟩, rfl, ?_⟩
    simp only [String.append_assoc]

/-- A link to a section of a page and its entry in the manifest lead to one page. -/
theorem onPage_eq_listed_section :
    (IsBase "/docs/" ∧ IsPage "guide/setup.md" "#first-steps") ∧
      ∃ entry url,
        entryOf (Node.linkItem "/guide/setup.md#first-steps" "Setup").children = .ok entry ∧
        entry.url = some url ∧
        (onPage "/guide/setup.md#first-steps" "/docs/").href = "/docs/" ++ url ++ "#first-steps" := by
  have hbase : IsBase "/docs/" := ⟨by decide, by decide⟩
  have hpage : IsPage "guide/setup.md" "#first-steps" :=
    ⟨by decide, by decide, ⟨"setup".toList, by decide, by decide +kernel⟩, by decide⟩
  refine ⟨⟨hbase, hpage⟩, ?_⟩
  obtain ⟨stem, -, -, hiff⟩ := onPage_eq_listed_iff hbase hpage
  exact (hiff _ (.linkTo "/guide/setup.md#first-steps" [.ofText "Setup"]) rfl rfl rfl).mpr
    ⟨by decide, by decide⟩

/-- The manifest takes the dot in a fragment for the one before the extension. -/
theorem onPage_ne_listed_version :
    (IsBase "/" ∧ IsPage "intro.md" "#v1.2") ∧
      (entryOf (Node.linkItem "/intro.md#v1.2" "Intro").children).toOption.bind (·.url)
        = some "intro.md#v1.html" ∧
      (onPage "/intro.md#v1.2" "/").href = "/intro.html#v1.2" ∧
      (onPage "/intro.md#v1.2" "/").href ≠ "/" ++ "intro.md#v1.html" ++ "#v1.2" := by
  have hpage : IsPage "intro.md" "#v1.2" :=
    ⟨by decide, by decide, ⟨"intro".toList, by decide, by decide +kernel⟩, by decide⟩
  have hhref : (onPage "/intro.md#v1.2" "/").href = "/intro.html#v1.2" := by decide +kernel
  refine ⟨⟨⟨by decide, by decide⟩, hpage⟩, by decide +kernel, hhref, ?_⟩
  rw [hhref]
  decide

end Link

end DocSite
