/-
  DocSite.Proofs.Manifest.Host

  The hosts of entries that lead outside the site. The manifest cuts the extension off
  the whole target, as if it were a path of files, and the host is one of the segments
  of that path: it is cut exactly if the last dot of the last name stands in it, and
  not enough stands behind it that could be cut off instead.
-/
import DocSite.Proofs.Manifest.Address

namespace DocSite

open DocSite.Path

namespace Link

/-! ## What is cut off -/

/-- The extension that a target loses. One that ends in a slash loses none. -/
def lostExtension? (target : List Char) : Option (List Char) :=
  if target.getLast? = some '/' then none else extension? target

theorem stripExtension?_of_lostExtension?_eq_none {target : List Char}
    (h : lostExtension? target = none) : stripExtension? target = some target := by
  unfold lostExtension? at h
  unfold stripExtension?
  split at h
  · next hslash => rw [if_pos (by rw [hslash]; rfl)]
  · next hslash => rw [if_neg (by simpa using hslash), h]

/-- As many bytes are cut off as the extension and its dot have. -/
theorem exists_cut_of_lostExtension? {target e kept : List Char}
    (h : lostExtension? target = some e) (hkept : stripExtension? target = some kept) :
    ∃ cut, target = kept ++ cut ∧ byteLength cut = byteLength e + 1 := by
  unfold lostExtension? at h
  split at h
  · nomatch h
  · next hslash =>
    rw [stripExtension?, if_neg (by simpa using hslash), h] at hkept
    obtain ⟨left, hleft, rfl⟩ := Option.map_eq_some_iff.mp hkept
    obtain ⟨cut, hcut, hbytes⟩ := of_dropBytes?_eq_some hleft
    refine ⟨cut.reverse, ?_, by rw [byteLength_reverse, hbytes]⟩
    rw [← List.reverse_append, ← hcut, List.reverse_reverse]

theorem byteLength_eq_zero {s : List Char} (h : byteLength s = 0) : s = [] := by
  cases s with
  | nil => rfl
  | cons c rest =>
    have hpos := c.utf8Size_pos
    rw [byteLength_cons] at h
    omega

/-- What is cut off the end leaves the front of a text alone as long as it has no more
    bytes than what stands behind that front. -/
theorem prefix_iff_of_append_eq {front behind kept cut : List Char}
    (h : front ++ behind = kept ++ cut) :
    front <+: kept ↔ byteLength cut ≤ byteLength behind := by
  rcases List.append_eq_append_iff.mp h with ⟨more, rfl, rfl⟩ | ⟨lost, rfl, rfl⟩
  · rw [byteLength_append]
    exact iff_of_true (List.prefix_append _ _) (Nat.le_add_left _ _)
  · rw [byteLength_append]
    constructor
    · intro hfront
      have hlength := hfront.length_le
      rw [List.length_append] at hlength
      rw [List.eq_nil_of_length_eq_zero (by omega : lost.length = 0), byteLength_nil]
      omega
    · intro hbytes
      have hlost : lost = [] := byteLength_eq_zero (by omega)
      exact ⟨[], by simp [hlost]⟩

/-- The front of a target is kept exactly if the extension that is lost, with its dot,
    is no longer than what stands behind that front. -/
theorem prefix_stripExtension?_iff {front behind kept : List Char}
    (h : stripExtension? (front ++ behind) = some kept) :
    front <+: kept ↔
      ∀ e, lostExtension? (front ++ behind) = some e → byteLength e < byteLength behind := by
  cases hlost : lostExtension? (front ++ behind) with
  | none =>
    rw [stripExtension?_of_lostExtension?_eq_none hlost] at h
    rw [← Option.some.inj h]
    exact iff_of_true (List.prefix_append _ _) nofun
  | some e =>
    obtain ⟨cut, hcut, hbytes⟩ := exists_cut_of_lostExtension? hlost h
    rw [prefix_iff_of_append_eq hcut, hbytes]
    constructor
    · rintro hle _ ⟨⟩
      exact hle
    · exact fun hall => hall e rfl

/-! ## Hosts -/

/-- The end of a target that names nothing: slashes with at most a dot between them. -/
def IsIdleEnd (s : List Char) : Prop :=
  s = [] ∨ ∃ more, s = '/' :: more ∧ ∀ segment ∈ segments more, isIdle segment = true

/-- A host with a dot behind its first character is exposed if no dot follows in the same
    segment, and no segment that names anything: what is cut off as an extension begins
    in the host. An idle end may take its place if it is long enough, or ends in a
    slash. -/
inductive ExposesHost : List Char → List Char → Prop
  | intro {stem ext query idle : List Char} :
      stem ≠ [] → '.' ∉ ext → '.' ∉ query → '/' ∉ query →
      stem ++ '.' :: ext ++ query ≠ ['.', '.'] →
      IsIdleEnd idle → idle.getLast? ≠ some '/' → byteLength idle ≤ byteLength ext →
      ExposesHost (stem ++ '.' :: ext) (query ++ idle)

/-- A target is cut at the first slash behind its host. -/
theorem exists_query (rest : List Char) : ∃ query below, rest = query ++ below ∧ '/' ∉ query ∧
    (below = [] ∨ ∃ more, below = '/' :: more) := by
  by_cases hslash : '/' ∈ rest
  · obtain ⟨query, more, rfl, hquery⟩ := List.eq_append_cons_of_mem hslash
    exact ⟨query, _, rfl, hquery, .inr ⟨more, rfl⟩⟩
  · exact ⟨rest, [], (List.append_nil rest).symm, hslash, .inl rfl⟩

/-- An idle end does not change the name of a path. -/
theorem fileName?_append_idleEnd (path : List Char) {idle : List Char} (h : IsIdleEnd idle) :
    fileName? (path ++ idle) = fileName? path := by
  rcases h with rfl | ⟨more, rfl, hidle⟩
  · rw [List.append_nil]
  · have hnone : (segments more).filter (fun segment => !isIdle segment) = [] := by
      rw [List.filter_eq_nil_iff]
      intro segment hsegment
      rw [hidle segment hsegment]
      decide
    rw [fileName?, fileName?, segments_append, List.filter_append, hnone, List.append_nil]

/-- Behind the segment with the host stands an idle end, or the extension is shorter than
    what stands there. -/
theorem isIdleEnd_or_lt {below e : List Char} (hbelow : below = [] ∨ ∃ more, below = '/' :: more)
    (path : List Char) (hext : extension? (path ++ below) = some e) :
    IsIdleEnd below ∨ byteLength e < byteLength below := by
  rcases hbelow with rfl | ⟨more, rfl⟩
  · exact .inl (.inl rfl)
  · by_cases hall : ∀ segment ∈ segments more, isIdle segment = true
    · exact .inl (.inr ⟨more, rfl, hall⟩)
    · simp only [not_forall, Bool.not_eq_true] at hall
      obtain ⟨segment, hsegment, hidle⟩ := hall
      obtain ⟨a, hname, -, -⟩ := extension?_eq_some_iff.mp hext
      rw [fileName?_append path hsegment hidle] at hname
      -- The name is a segment behind the slash, and longer than its extension.
      have hle := byteLength_le_of_infix (infix_of_mem_segments (mem_segments_of_fileName? hname))
      have hdot : '.'.utf8Size = 1 := rfl
      rw [byteLength_append, byteLength_cons] at hle
      refine .inr ?_
      rw [byteLength_cons]
      omega

/-- A name without slashes does not end in one, and neither does anything behind it. -/
theorem getLast?_ne_slash {name : List Char} (hne : name ≠ []) (hslash : '/' ∉ name)
    (before : List Char) {idle : List Char} (hidle : idle.getLast? ≠ some '/') :
    (before ++ '/' :: name ++ idle).getLast? ≠ some '/' := by
  obtain ⟨c, hc⟩ : ∃ c, name.getLast? = some c := ⟨_, List.getLast?_eq_some_getLast hne⟩
  have hname : c ≠ '/' := fun heq => hslash (heq ▸ List.mem_of_getLast? hc)
  rw [List.getLast?_append, List.getLast?_append, List.getLast?_cons, hc]
  cases hlast : idle.getLast? with
  | none => simpa using hname
  | some d => rwa [hlast] at hidle

/-- The extension of a path is that of its last segment, if what stands in front of the
    segment has none. -/
theorem of_extension?_segment {before name e : List Char} (hslash : '/' ∉ name)
    (hbefore : extension? before = none) (hext : extension? (before ++ '/' :: name) = some e) :
    ∃ stem, name = stem ++ '.' :: e ∧ stem ≠ [] ∧ '.' ∉ e ∧ name ≠ ['.', '.'] := by
  obtain ⟨stem, hfile, hstem, hdot⟩ := extension?_eq_some_iff.mp hext
  cases hidle : isIdle name with
  | true =>
    have hend : IsIdleEnd ('/' :: name) := by
      refine .inr ⟨_, rfl, fun segment hmem => ?_⟩
      rw [segments_eq_singleton hslash, List.mem_singleton] at hmem
      rw [hmem, hidle]
    rw [fileName?_append_idleEnd _ hend] at hfile
    rw [extension?_eq_some_iff.mpr ⟨stem, hfile, hstem, hdot⟩] at hbefore
    nomatch hbefore
  | false =>
    rw [fileName?_segment before hslash hidle] at hfile
    split at hfile
    · nomatch hfile
    · next hparent => exact ⟨stem, Option.some.inj hfile, hstem, hdot, hparent⟩

section Hosts

variable {host rest : List Char}

/-- An exposed host loses its end to an extension that is too long for what stands
    behind the host. -/
theorem ExposesHost.exists_lostExtension? (h : ExposesHost host rest) (hslash : '/' ∉ host)
    (before : List Char) : ∃ e, lostExtension? (before ++ '/' :: (host ++ rest)) = some e ∧
      byteLength rest ≤ byteLength e := by
  obtain @⟨stem, ext, query, idle, hstem, hext, hdot, hquery, hparent, hidle, hlast, hle⟩ := h
  have hname : '/' ∉ stem ++ '.' :: ext ++ query := by
    rw [List.mem_append, not_or]
    exact ⟨hslash, hquery⟩
  have hne : stem ++ '.' :: ext ++ query ≠ [] := by simp
  have hlength : 2 ≤ (stem ++ '.' :: ext ++ query).length := by
    have := List.length_pos_iff.mpr hstem
    rw [List.length_append, List.length_append, List.length_cons]
    omega
  have hwhole : before ++ '/' :: (stem ++ '.' :: ext ++ (query ++ idle))
      = before ++ '/' :: (stem ++ '.' :: ext ++ query) ++ idle := by
    simp only [List.append_assoc, List.cons_append]
  -- Up to the idle end, the host and what is joined to it are the last segment.
  have hfile : fileName? (before ++ '/' :: (stem ++ '.' :: ext ++ query) ++ idle)
      = some (stem ++ '.' :: (ext ++ query)) := by
    rw [fileName?_append_idleEnd _ hidle, fileName?_segment before hname (isIdle_of_length hlength),
      if_neg hparent, List.append_assoc, List.cons_append]
  have hend : '.' ∉ ext ++ query := by
    rw [List.mem_append, not_or]
    exact ⟨hext, hdot⟩
  refine ⟨ext ++ query, ?_, ?_⟩
  · rw [hwhole, lostExtension?, if_neg (getLast?_ne_slash hne hname before hlast)]
    exact extension?_eq_some_iff.mpr ⟨stem, hfile, hstem, hend⟩
  · rw [byteLength_append, byteLength_append]
    omega

/-- A host that loses its end to such an extension is exposed, if nothing in front of the
    host has an extension. -/
theorem exposesHost_of_lostExtension? {before e : List Char} (hslash : '/' ∉ host)
    (hbefore : extension? before = none)
    (hlost : lostExtension? (before ++ '/' :: (host ++ rest)) = some e)
    (hle : byteLength rest ≤ byteLength e) : ExposesHost host rest := by
  obtain ⟨query, below, rfl, hquery, hbelow⟩ := exists_query rest
  have hname : '/' ∉ host ++ query := by
    rw [List.mem_append, not_or]
    exact ⟨hslash, hquery⟩
  have hwhole : before ++ '/' :: (host ++ (query ++ below))
      = before ++ '/' :: (host ++ query) ++ below := by
    simp only [List.append_assoc, List.cons_append]
  rw [hwhole] at hlost
  rw [byteLength_append] at hle
  unfold lostExtension? at hlost
  split at hlost
  · nomatch hlost
  next hend =>
  have hlast : below.getLast? ≠ some '/' := by
    intro hlast
    rw [List.getLast?_append, hlast, Option.some_or] at hend
    exact hend rfl
  have hidle : IsIdleEnd below := by
    rcases isIdleEnd_or_lt hbelow _ hlost with hidle | hlt
    · exact hidle
    · omega
  have hext : extension? (before ++ '/' :: (host ++ query)) = some e := by
    rw [← hlost, extension?, extension?, fileName?_append_idleEnd _ hidle]
  obtain ⟨stem, hsegment, hstem, hdot, hparent⟩ := of_extension?_segment hname hbefore hext
  -- The last dot stands in the host: behind it, the extension would be too short.
  have hdotSize : '.'.utf8Size = 1 := rfl
  rcases List.append_eq_append_iff.mp hsegment with ⟨more, rfl, rfl⟩ | ⟨more, rfl, hmore⟩
  · rw [byteLength_append, byteLength_cons] at hle
    omega
  · cases more with
    | nil =>
      rw [List.nil_append] at hmore
      rw [← hmore, byteLength_cons] at hle
      omega
    | cons c ext =>
      obtain ⟨rfl, he⟩ := List.cons.inj hmore
      have he : e = ext ++ query := he
      rw [he, List.mem_append, not_or] at hdot
      rw [he, byteLength_append] at hle
      exact .intro hstem hdot.1 hdot.2 hquery hparent hidle hlast (by omega)

/-- The host of a target is kept exactly if it is not exposed. -/
theorem prefix_stripExtension?_iff_not_exposesHost {before kept : List Char} (hslash : '/' ∉ host)
    (hbefore : extension? before = none)
    (h : stripExtension? (before ++ '/' :: (host ++ rest)) = some kept) :
    before ++ '/' :: host <+: kept ↔ ¬ExposesHost host rest := by
  have hsplit : before ++ '/' :: (host ++ rest) = before ++ '/' :: host ++ rest := by
    rw [List.append_assoc, List.cons_append]
  rw [hsplit] at h
  rw [prefix_stripExtension?_iff h, ← hsplit]
  constructor
  · intro hall hexposed
    obtain ⟨e, hlost, hle⟩ := hexposed.exists_lostExtension? hslash before
    have hlt := hall e hlost
    omega
  · intro hsafe e hlost
    by_contra hle
    exact hsafe (exposesHost_of_lostExtension? hslash hbefore hlost (by omega))

end Hosts

/-! ## Entries that lead outside -/

/-- A target outside the site: the beginning that tells so, the host, and what follows. -/
structure IsOutside (start host rest : String) : Prop where
  start : start ∈ externalPrefixes
  ne_nil : host.toList ≠ []
  slash : '/' ∉ host.toList
  unmarked : Unmarked host.toList
  rest : rest.toList.head? = some '/' ∨ IsSuffix rest.toList

/-- The beginning of a target and its host as the manifest lists them: of two slashes in
    front of a host one is left. -/
def listedOrigin (start host : String) : String :=
  if start = "//" then "/" ++ host else start ++ host

/-- What begins a target outside the site ends in a slash, and has no extension. -/
theorem exists_before {start : String} (h : start ∈ externalPrefixes) :
    ∃ before, start.toList = before ++ ['/'] ∧ extension? before = none := by
  simp only [externalPrefixes, List.mem_cons, List.not_mem_nil, or_false] at h
  rcases h with rfl | rfl | rfl | rfl
  · exact ⟨"http:/".toList, by decide, by decide +kernel⟩
  · exact ⟨"https:/".toList, by decide, by decide +kernel⟩
  · exact ⟨"ftp:/".toList, by decide, by decide +kernel⟩
  · exact ⟨"/".toList, by decide, by decide +kernel⟩

/-- A target without its extension is a front of the target. -/
theorem prefix_of_stripExtension? {target kept : List Char}
    (h : stripExtension? target = some kept) : kept <+: target := by
  rcases of_stripExtension?_eq_some h with rfl | ⟨e, cut, -, rfl, -⟩
  · exact List.prefix_rfl
  · exact List.prefix_append kept cut

theorem dropSlash_of_ne {c : Char} (h : c ≠ '/') (rest : List Char) :
    (Text.dropPrefix? ['/'] (c :: rest)).getD (c :: rest) = c :: rest := by
  have hne : ('/' == c) = false := beq_eq_false_iff_ne.mpr h.symm
  rw [Text.dropPrefix?, List.isPrefixOf?, hne]
  rfl

/-- The page id begins with the listed origin exactly if the target without its extension
    begins with the beginning of the target and its host. -/
theorem dropSlash_eq_append_iff {start host : String} {kept rest tail : List Char}
    (hstart : start ∈ externalPrefixes) (hkept : kept <+: (start ++ host).toList ++ rest) :
    (Text.dropPrefix? ['/'] kept).getD kept = (listedOrigin start host).toList ++ tail ↔
      kept = (start ++ host).toList ++ tail := by
  rw [String.toList_append] at hkept ⊢
  -- Only the beginning `//` has a slash to lose.
  by_cases hslashes : start = "//"
  · have horigin : (listedOrigin start host).toList = '/' :: host.toList := by
      rw [listedOrigin, if_pos hslashes, String.toList_append]
      rfl
    have hstart' : start.toList = ['/', '/'] := congrArg String.toList hslashes
    rw [hstart'] at hkept ⊢
    rw [horigin]
    cases kept with
    | nil => exact iff_of_false (List.cons_ne_nil _ _).symm (List.cons_ne_nil _ _).symm
    | cons c more =>
      obtain ⟨rfl, -⟩ := List.cons_prefix_cons.mp hkept
      simp [Text.dropPrefix?, List.isPrefixOf?]
  · obtain ⟨c, letters, hletters, hc⟩ : ∃ c letters, start.toList = c :: letters ∧ c ≠ '/' := by
      simp only [externalPrefixes, List.mem_cons, List.not_mem_nil, or_false] at hstart
      rcases hstart with rfl | rfl | rfl | rfl
      · exact ⟨'h', "ttp://".toList, rfl, by decide⟩
      · exact ⟨'h', "ttps://".toList, rfl, by decide⟩
      · exact ⟨'f', "tp://".toList, rfl, by decide⟩
      · exact absurd rfl hslashes
    rw [listedOrigin, if_neg hslashes, String.toList_append]
    cases kept with
    | nil => rfl
    | cons d more =>
      rw [hletters] at hkept
      obtain ⟨rfl, -⟩ := List.cons_prefix_cons.mp hkept
      rw [dropSlash_of_ne hc]

/-- **The hosts of entries are kept unless they are exposed.** An entry with a link to a
    target outside the site keeps the beginning of the target and its host, up to a slash
    at the start, and a part of what follows, exactly if the host is not exposed. There
    is such an entry whenever the target does not end in a segment `.` after a slash. -/
theorem listed_origin_iff {start host rest : String} (h : IsOutside start host rest)
    (children : List Node) (link : Node) (hlead : leadOf? children = some link)
    (hkind : link.kind = .link) (htarget : link.target = start ++ host ++ rest) :
    (¬['/', '.'] <:+ link.target.toList → ∃ entry, entryOf children = .ok entry) ∧
    ∀ entry, entryOf children = .ok entry →
      ((∃ tail, entry.id = some (listedOrigin start host ++ tail) ∧
          tail.toList <+: rest.toList) ↔
        ¬ExposesHost host.toList rest.toList) := by
  have hlist : link.target.toList = (start ++ host).toList ++ rest.toList := by
    rw [htarget, String.toList_append]
  constructor
  · intro hend
    obtain ⟨kept, hkept⟩ := Option.isSome_iff_exists.mp (stripExtension?_isSome hend)
    have hid : pageId? link.target.toList = some ((Text.dropPrefix? ['/'] kept).getD kept) := by
      rw [pageId?, hkept]
      rfl
    exact ⟨_, (entryOf_eq_ok_iff _ _).mpr ⟨link, hlead, .page hkind hid⟩⟩
  · intro entry hentry
    obtain ⟨lead, hlead', hleads⟩ := (entryOf_eq_ok_iff _ _).mp hentry
    obtain rfl := Option.some.inj (hlead.symm.trans hlead')
    cases hleads with
    | placeholder htext =>
      rw [hkind] at htext
      cases htext
    | @page id _ hid =>
      rw [hlist] at hid
      obtain ⟨kept, hkept, rfl⟩ := Option.map_eq_some_iff.mp hid
      have hbegins := prefix_of_stripExtension? hkept
      obtain ⟨before, hbefore, hnone⟩ := exists_before h.start
      have horigin : (start ++ host).toList = before ++ '/' :: host.toList := by
        rw [String.toList_append, hbefore, List.append_assoc]
        rfl
      -- Whether the host is kept is settled before the slash at the front is dropped.
      have hkeeps : (start ++ host).toList <+: kept ↔ ¬ExposesHost host.toList rest.toList := by
        rw [horigin, List.append_assoc, List.cons_append] at hkept
        rw [horigin, prefix_stripExtension?_iff_not_exposesHost h.slash hnone hkept]
      rw [← hkeeps]
      constructor
      · rintro ⟨tail, htail, -⟩
        have hchars := congrArg String.toList (Option.some.inj htail)
        rw [String.toList_ofList, String.toList_append,
          dropSlash_eq_append_iff h.start hbegins] at hchars
        exact ⟨_, hchars.symm⟩
      · rintro ⟨tail, rfl⟩
        have hchars := (dropSlash_eq_append_iff h.start hbegins).mpr rfl
        refine ⟨String.ofList tail, ?_, ?_⟩
        · rw [hchars, String.ofList_append, String.ofList_toList]
        · rw [String.toList_ofList]
          exact (List.prefix_append_right_inj _).mp hbegins

/-- A target with a path behind the host has an entry that keeps the host. -/
theorem listed_origin_path :
    IsOutside "https://" "docs.example.com" "/guide/v1.2/start.html#a.b" ∧
      ∃ tail, (entryOf (Node.linkItem "https://docs.example.com/guide/v1.2/start.html#a.b"
          "Guide").children).toOption.bind (·.id)
        = some (listedOrigin "https://" "docs.example.com" ++ tail) := by
  have houtside : IsOutside "https://" "docs.example.com" "/guide/v1.2/start.html#a.b" :=
    ⟨by decide, by decide, by decide, by decide, .inl (by decide)⟩
  have hsafe : ¬ExposesHost "docs.example.com".toList "/guide/v1.2/start.html#a.b".toList := by
    intro hexposed
    obtain ⟨e, hlost, hle⟩ := hexposed.exists_lostExtension? (by decide) "https:/".toList
    have hshort : lostExtension?
        ("https:/".toList ++ '/' :: ("docs.example.com".toList
          ++ "/guide/v1.2/start.html#a.b".toList)) = some "b".toList := by
      decide +kernel
    obtain rfl := Option.some.inj (hlost.symm.trans hshort)
    exact absurd hle (by decide)
  refine ⟨houtside, ?_⟩
  obtain ⟨hentry, hkept⟩ := listed_origin_iff houtside
    (Node.linkItem "https://docs.example.com/guide/v1.2/start.html#a.b" "Guide").children
    (.linkTo "https://docs.example.com/guide/v1.2/start.html#a.b" [.ofText "Guide"]) rfl rfl rfl
  obtain ⟨entry, hentry⟩ := hentry (by decide)
  obtain ⟨tail, htail, -⟩ := (hkept entry hentry).mpr hsafe
  exact ⟨tail, by rw [hentry]; exact htail⟩

/-- The manifest takes the end of a host for an extension. -/
theorem listed_origin_cut :
    IsOutside "https://" "example.com" "" ∧
      (entryOf (Node.linkItem "https://example.com" "X").children).toOption.bind (·.id)
        = some "https://example" ∧
      ¬∃ tail, "https://example" = listedOrigin "https://" "example.com" ++ tail := by
  refine ⟨⟨by decide, by decide, by decide, by decide, .inr (by decide)⟩, by decide +kernel, ?_⟩
  rintro ⟨tail, h⟩
  have hlength := congrArg String.length h
  rw [String.length_append, show (listedOrigin "https://" "example.com").length = 19 by decide,
    show "https://example".length = 15 by decide] at hlength
  omega

end Link

end DocSite
