/-
  DocSite.Proofs.Path

  Segments of paths, the extension of the last one, and targets without it. What a
  target without its extension is, `WithoutExtension` says of its last segment. The
  extension is cut off by its length in bytes, from the end of the whole target, and
  found by a path's components, which pass over `.`: `stripExtension?_append` is the
  case in which these bytes are the extension, and `stripExtension?_eq_iff` tells
  exactly where the two views of a target agree. A path is longer than its parent, so
  that parents come to an end.
-/
import DocSite.Link
import DocSite.Proofs.Text.Split
import Mathlib.Data.List.DropRight

namespace DocSite

/-! ## Bytes -/

namespace Link

@[simp] theorem byteLength_nil : byteLength [] = 0 := rfl

@[simp] theorem byteLength_cons (c : Char) (s : List Char) :
    byteLength (c :: s) = c.utf8Size + byteLength s := rfl

@[simp] theorem byteLength_append (a b : List Char) :
    byteLength (a ++ b) = byteLength a + byteLength b := by
  induction a with
  | nil => exact (Nat.zero_add _).symm
  | cons c rest ih => rw [List.cons_append, byteLength, byteLength, ih, Nat.add_assoc]

@[simp] theorem byteLength_reverse (s : List Char) : byteLength s.reverse = byteLength s := by
  induction s with
  | nil => rfl
  | cons c rest ih =>
    rw [List.reverse_cons, byteLength_append, ih, byteLength_cons, byteLength_cons,
      byteLength_nil, Nat.add_comm, Nat.add_zero]

/-- A part of a text has no more bytes than the text. -/
theorem byteLength_le_of_infix {a s : List Char} (h : a <:+: s) : byteLength a ≤ byteLength s := by
  obtain ⟨before, after, rfl⟩ := h
  rw [byteLength_append, byteLength_append]
  omega

/-- Whole characters are dropped. -/
theorem dropBytes?_append (a b : List Char) : dropBytes? (byteLength a) (a ++ b) = some b := by
  induction a with
  | nil => rw [byteLength_nil, List.nil_append, dropBytes?]
  | cons c rest ih =>
    obtain ⟨size, hsize⟩ : ∃ size, c.utf8Size = size + 1 :=
      Nat.exists_eq_succ_of_ne_zero (Nat.ne_of_gt c.utf8Size_pos)
    have hbytes : byteLength (c :: rest) = size + byteLength rest + 1 := by
      rw [byteLength_cons, hsize]
      omega
    rw [hbytes, List.cons_append, dropBytes?, if_pos (by omega), hsize]
    rw [show size + byteLength rest + 1 - (size + 1) = byteLength rest by omega, ih]

/-- What is dropped has the given number of bytes. -/
theorem of_dropBytes?_eq_some {n : Nat} {s b : List Char} (h : dropBytes? n s = some b) :
    ∃ a, s = a ++ b ∧ byteLength a = n := by
  induction s generalizing n with
  | nil =>
    cases n with
    | zero => exact ⟨[], Option.some.inj h, rfl⟩
    | succ n => nomatch h
  | cons c rest ih =>
    cases n with
    | zero => exact ⟨[], Option.some.inj h, rfl⟩
    | succ n =>
      rw [dropBytes?] at h
      split at h
      · next hsize =>
        obtain ⟨a, rfl, ha⟩ := ih h
        refine ⟨c :: a, rfl, ?_⟩
        rw [byteLength_cons, ha]
        omega
      · nomatch h

end Link

/-! ## Segments -/

namespace Path

theorem segments_append (a b : List Char) :
    segments (a ++ '/' :: b) = segments a ++ segments b :=
  List.splitOn_append_cons_self a b

theorem segments_eq_singleton {s : List Char} (h : '/' ∉ s) : segments s = [s] :=
  List.splitOn_eq_singleton h

theorem mem_segments_self {s : List Char} (h : '/' ∉ s) : s ∈ segments s := by
  rw [segments_eq_singleton h]
  exact List.mem_singleton_self s

/-- A segment is a part of the path. -/
theorem infix_of_mem_segments {x s : List Char} (h : x ∈ segments s) : x <:+: s := by
  -- On the length: what is behind the first slash is shorter, but no tail of the path.
  induction hlength : s.length using Nat.strongRecOn generalizing s with
  | _ length ih =>
    subst hlength
    by_cases hslash : '/' ∈ s
    · obtain ⟨a, b, rfl, ha⟩ := List.eq_append_cons_of_mem hslash
      rw [segments_append, segments_eq_singleton ha] at h
      rcases List.mem_cons.mp h with rfl | hb
      · exact (List.prefix_append x _).isInfix
      · have hlt : b.length < (a ++ '/' :: b).length := by
          rw [List.length_append, List.length_cons]
          omega
        have hsuffix : b <:+ a ++ '/' :: b := ⟨a ++ ['/'], by rw [List.append_assoc]; rfl⟩
        exact (ih b.length hlt hb rfl).trans hsuffix.isInfix
    · rw [segments_eq_singleton hslash, List.mem_singleton] at h
      exact h ▸ List.infix_refl x

/-- The last segment stands after the last slash, if a slash is put before the path. -/
theorem of_getLast?_segments {s x : List Char} (h : (segments s).getLast? = some x) :
    '/' ∉ x ∧ ∃ before, '/' :: s = before ++ '/' :: x := by
  obtain ⟨before, last, hs, hlast⟩ := Text.exists_last (List.mem_cons_self (a := '/') (l := s))
  have hsegments : [] :: segments s = segments before ++ [last] := by
    rw [← segments_eq_singleton hlast, ← segments_append, ← hs]
    exact (segments_append [] s).symm
  have hx : ([] :: segments s).getLast? = some x := by
    rw [List.getLast?_cons, h]
    rfl
  rw [hsegments, List.getLast?_append, List.getLast?_singleton, Option.some_or] at hx
  obtain rfl := Option.some.inj hx
  exact ⟨hlast, before, hs⟩

/-! ## Names -/

/-- The name of a path is that of its end, if the end has a segment that is not idle. -/
theorem fileName?_append (a : List Char) {b x : List Char} (hx : x ∈ segments b)
    (hidle : isIdle x = false) : fileName? (a ++ '/' :: b) = fileName? b := by
  have hmem : x ∈ (segments b).filter fun segment => !isIdle segment :=
    List.mem_filter.mpr ⟨hx, by rw [hidle]; rfl⟩
  rw [fileName?, fileName?, segments_append, List.filter_append, List.getLast?_append]
  cases hlast : ((segments b).filter fun segment => !isIdle segment).getLast? with
  | none =>
    rw [List.getLast?_eq_none_iff.mp hlast] at hmem
    exact absurd hmem List.not_mem_nil
  | some last => rfl

theorem isIdle_of_length {s : List Char} (h : 2 ≤ s.length) : isIdle s = false := by
  match s, h with
  | c :: d :: rest, _ => simp [isIdle]

/-- The name of a path of one segment. -/
theorem fileName?_of_not_idle {s : List Char} (hslash : '/' ∉ s) (hidle : isIdle s = false) :
    fileName? s = if s = ['.', '.'] then none else some s := by
  rw [fileName?, segments_eq_singleton hslash, List.filter_cons_of_pos (by rw [hidle]; rfl),
    List.filter_nil, List.getLast?_singleton]
  by_cases h : s = ['.', '.']
  · rw [if_pos h, h]
    rfl
  · rw [if_neg h, Option.filter_some, if_pos (by simpa using h)]

/-- The name of a path whose last segment is not idle. -/
theorem fileName?_segment (before : List Char) {s : List Char} (hslash : '/' ∉ s)
    (hidle : isIdle s = false) :
    fileName? (before ++ '/' :: s) = if s = ['.', '.'] then none else some s := by
  rw [fileName?_append before (mem_segments_self hslash) hidle, fileName?_of_not_idle hslash hidle]

/-! ## Extensions -/

theorem splitLastDot_append (a : List Char) {e : List Char} (h : '.' ∉ e) :
    splitLastDot (a ++ '.' :: e) = some (a, e) := by
  have hreverse : (a ++ '.' :: e).reverse = e.reverse ++ '.' :: a.reverse := by
    rw [List.reverse_append, List.reverse_cons, List.append_assoc]
    rfl
  rw [splitLastDot, hreverse, Text.splitOnce_append (by rwa [List.mem_reverse]), Option.map_some,
    List.reverse_reverse, List.reverse_reverse]

/-- A name is put together from the two sides of its last dot. -/
theorem of_splitLastDot_eq_some {name a e : List Char} (h : splitLastDot name = some (a, e)) :
    name = a ++ '.' :: e ∧ '.' ∉ e := by
  by_cases hdot : '.' ∈ name
  · obtain ⟨b, ext, rfl, hext⟩ := Text.exists_last hdot
    rw [splitLastDot_append b hext] at h
    obtain ⟨rfl, rfl⟩ := Prod.mk.inj (Option.some.inj h)
    exact ⟨rfl, hext⟩
  · rw [splitLastDot, Text.splitOnce_eq_none (by rwa [List.mem_reverse])] at h
    nomatch h

/-- An extension is what follows the last dot of the name, if something stands before
    that dot. -/
theorem extension?_eq_some_iff {s e : List Char} :
    extension? s = some e ↔ ∃ a, fileName? s = some (a ++ '.' :: e) ∧ a ≠ [] ∧ '.' ∉ e := by
  constructor
  · intro h
    obtain ⟨name, hname, h⟩ := Option.bind_eq_some_iff.mp h
    obtain ⟨⟨a, ext⟩, hsplit, hext⟩ := Option.bind_eq_some_iff.mp h
    obtain ⟨rfl, hdot⟩ := of_splitLastDot_eq_some hsplit
    split at hext
    · nomatch hext
    · next ha =>
      obtain rfl := Option.some.inj hext
      exact ⟨a, hname, by simpa using ha, hdot⟩
  · rintro ⟨a, hname, ha, hdot⟩
    rw [extension?, hname, Option.bind_some, splitLastDot_append a hdot, Option.bind_some,
      if_neg (by simpa using ha)]

/-- The name of a path is one of its segments. -/
theorem mem_segments_of_fileName? {s name : List Char} (h : fileName? s = some name) :
    name ∈ segments s := by
  obtain ⟨hlast, -⟩ := Option.filter_eq_some_iff.mp h
  exact (List.mem_filter.mp (List.mem_of_getLast? hlast)).1

/-- The extension of a last segment that is more than its extension. -/
theorem extension?_append (before : List Char) {a e : List Char} (ha : a ≠ []) (he : e ≠ [])
    (hslash : '/' ∉ a ++ '.' :: e) (hdot : '.' ∉ e) :
    extension? (before ++ '/' :: (a ++ '.' :: e)) = some e := by
  have hlength : 3 ≤ (a ++ '.' :: e).length := by
    have := List.length_pos_iff.mpr ha
    have := List.length_pos_iff.mpr he
    rw [List.length_append, List.length_cons]
    omega
  have hidle := isIdle_of_length (Nat.le_of_succ_le hlength)
  have hname : fileName? (before ++ '/' :: (a ++ '.' :: e)) = some (a ++ '.' :: e) := by
    rw [fileName?_segment before hslash hidle, if_neg]
    intro hdots
    rw [hdots] at hlength
    exact absurd hlength (by decide)
  exact extension?_eq_some_iff.mpr ⟨a, hname, ha, hdot⟩

/-- A last segment that is not idle is the name, unless it leads up. -/
theorem fileName?_of_getLast? {s x : List Char} (hx : (segments s).getLast? = some x)
    (hidle : isIdle x = false) : fileName? s = if x = ['.', '.'] then none else some x := by
  obtain ⟨hslash, before, hbefore⟩ := of_getLast?_segments hx
  rw [← fileName?_append [] (List.mem_of_getLast? hx) hidle, List.nil_append, hbefore]
  exact fileName?_segment before hslash hidle

/-- The last segment of a path, which is what follows its last slash, is a stem and an
    extension: it has a dot, and something before the last one. The segment `..` has no
    extension. -/
structure EndsInExtension (path stem ext : List Char) : Prop where
  segment : (segments path).getLast? = some (stem ++ '.' :: ext)
  not_parent : stem ++ '.' :: ext ≠ ['.', '.']
  ne_nil : stem ≠ []
  dot : '.' ∉ ext

namespace EndsInExtension

variable {path stem ext : List Char}

theorem isIdle_eq_false (h : EndsInExtension path stem ext) :
    isIdle (stem ++ '.' :: ext) = false := by
  apply isIdle_of_length
  have := List.length_pos_iff.mpr h.ne_nil
  rw [List.length_append, List.length_cons]
  omega

theorem extension?_eq (h : EndsInExtension path stem ext) : extension? path = some ext := by
  have hname := fileName?_of_getLast? h.segment h.isIdle_eq_false
  rw [if_neg h.not_parent] at hname
  exact extension?_eq_some_iff.mpr ⟨stem, hname, h.ne_nil, h.dot⟩

theorem not_of_isIdle {x : List Char} (hx : (segments path).getLast? = some x)
    (hidle : isIdle x = true) : ¬ EndsInExtension path stem ext := by
  intro h
  rw [Option.some.inj (hx.symm.trans h.segment), h.isIdle_eq_false] at hidle
  nomatch hidle

/-- The extension of the last segment ends the whole path. -/
theorem exists_kept (h : EndsInExtension path stem ext) :
    '/' ∉ ext ∧ ∃ kept, path = kept ++ '.' :: ext := by
  obtain ⟨hslash, before, hbefore⟩ := of_getLast?_segments h.segment
  refine ⟨fun hmem => hslash (by simp [hmem]), ?_⟩
  cases before with
  | nil => exact ⟨stem, (List.cons.inj hbefore).2⟩
  | cons c rest =>
    refine ⟨rest ++ '/' :: stem, ?_⟩
    rw [List.append_assoc]
    exact (List.cons.inj hbefore).2

end EndsInExtension

/-- Behind a last segment that is not idle stands the extension of the path. -/
theorem exists_endsInExtension {path x e : List Char} (hx : (segments path).getLast? = some x)
    (hidle : isIdle x = false) (hext : extension? path = some e) :
    ∃ stem, EndsInExtension path stem e := by
  obtain ⟨stem, hname, hne, hdot⟩ := extension?_eq_some_iff.mp hext
  rw [fileName?_of_getLast? hx hidle] at hname
  split at hname
  · nomatch hname
  · next hparent =>
    obtain rfl := Option.some.inj hname
    exact ⟨stem, hx, hparent, hne, hdot⟩

/-! ## Parents -/

theorem ofSegments_segments (s : List Char) : ofSegments (segments s) = s :=
  List.intercalate_splitOn '/'

theorem ofSegments_append {a b : List (List Char)} (ha : a ≠ []) (hb : b ≠ []) :
    ofSegments (a ++ b) = ofSegments a ++ '/' :: ofSegments b := by
  induction a with
  | nil => exact absurd rfl ha
  | cons x a ih =>
    rcases a with _ | ⟨y, a⟩
    · obtain ⟨y, b, rfl⟩ := List.exists_cons_of_ne_nil hb
      simp only [ofSegments, List.intercalate_cons_cons, List.intercalate_singleton,
        List.append_assoc, List.cons_append, List.nil_append]
    · have hrest := ih (List.cons_ne_nil y a)
      simp only [ofSegments, List.cons_append, List.intercalate_cons_cons, List.append_assoc,
        List.nil_append] at hrest ⊢
      rw [hrest]

/-- Segments that others begin with are not longer. -/
theorem length_ofSegments_le {a b : List (List Char)} (h : a <+: b) :
    (ofSegments a).length ≤ (ofSegments b).length := by
  obtain ⟨rest, rfl⟩ := h
  by_cases ha : a = []
  · subst ha
    exact Nat.zero_le _
  · by_cases hrest : rest = []
    · rw [hrest, List.append_nil]
    · rw [ofSegments_append ha hrest, List.length_append]
      exact Nat.le_add_right _ _

theorem length_ofSegments_lt {a : List (List Char)} {x : List Char} (hx : x ≠ []) :
    (ofSegments a).length < (ofSegments (a ++ [x])).length := by
  have hpos := List.length_pos_of_ne_nil hx
  by_cases ha : a = []
  · subst ha
    simpa [ofSegments] using hpos
  · rw [ofSegments_append ha (List.cons_ne_nil _ _), List.length_append, List.length_cons]
    omega

theorem prefix_dropIdleEnd (l : List (List Char)) : dropIdleEnd l <+: l :=
  List.rdropWhile_prefix isIdle l

theorem prefix_dropIdleEndRelative (l : List (List Char)) : dropIdleEndRelative l <+: l := by
  unfold dropIdleEndRelative
  split
  · exact (List.prefix_cons_inj _).mpr (prefix_dropIdleEnd _)
  · exact prefix_dropIdleEnd l

theorem getLast_dropIdleEnd_ne_nil {l : List (List Char)} (h : dropIdleEnd l ≠ []) :
    (dropIdleEnd l).getLast h ≠ [] := by
  have hlast := List.rdropWhile_last_not isIdle l h
  intro hnil
  exact hlast (by rw [isIdle]; exact Bool.or_eq_true_iff.mpr (.inl (beq_iff_eq.mpr hnil)))

theorem getLast_dropIdleEndRelative_ne_nil {l : List (List Char)}
    (h : dropIdleEndRelative l ≠ []) : (dropIdleEndRelative l).getLast h ≠ [] := by
  unfold dropIdleEndRelative at h ⊢
  split
  · next rest =>
    by_cases hrest : dropIdleEnd rest = []
    · simp [hrest]
    · rw [List.getLast_cons hrest]
      exact getLast_dropIdleEnd_ne_nil hrest
  · exact getLast_dropIdleEnd_ne_nil _

/-- What is left without the last of some segments is shorter than these are together with
    what follows them. -/
theorem length_ofSegments_dropLast_lt {names kept all : List (List Char)} (hne : names ≠ [])
    (hlast : names.getLast hne ≠ []) (hkept : kept <+: names.dropLast) (hall : names <+: all) :
    (ofSegments kept).length < (ofSegments all).length :=
  calc (ofSegments kept).length
    _ ≤ (ofSegments names.dropLast).length := length_ofSegments_le hkept
    _ < (ofSegments (names.dropLast ++ [names.getLast hne])).length := length_ofSegments_lt hlast
    _ = (ofSegments names).length := by rw [List.dropLast_append_getLast hne]
    _ ≤ (ofSegments all).length := length_ofSegments_le hall

/-- The parent of a path is shorter. -/
theorem length_lt_of_parent? {s parent : List Char} (h : parent? s = some parent) :
    parent.length < s.length := by
  unfold parent? at h
  split at h
  · next habsolute =>
    obtain ⟨rest, rfl⟩ : ∃ rest, s = '/' :: rest := by
      cases s with
      | nil => nomatch habsolute
      | cons c rest => exact ⟨rest, by simpa [isAbsolute] using habsolute⟩
    have hsegments : (segments ('/' :: rest)).tail = segments rest := by
      rw [← List.nil_append ('/' :: rest), segments_append]
      rfl
    rw [hsegments] at h
    dsimp only at h
    split at h
    · nomatch h
    · next hne =>
      obtain rfl := Option.some.inj h
      have hlt := length_ofSegments_dropLast_lt (by simpa using hne)
        (getLast_dropIdleEnd_ne_nil _) (prefix_dropIdleEnd _) (prefix_dropIdleEnd (segments rest))
      rw [ofSegments_segments] at hlt
      simpa using hlt
  · dsimp only at h
    split at h
    · nomatch h
    · next hne =>
      obtain rfl := Option.some.inj h
      have hlt := length_ofSegments_dropLast_lt (by simpa using hne)
        (getLast_dropIdleEndRelative_ne_nil _) (prefix_dropIdleEndRelative _)
        (prefix_dropIdleEndRelative (segments s))
      rwa [ofSegments_segments] at hlt

end Path

/-! ## Targets without their extension -/

namespace Link

open DocSite.Path

/-- An extension at the end of a target is cut off. -/
theorem stripExtension?_append {a e : List Char} (hslash : '/' ∉ e)
    (hext : extension? (a ++ '.' :: e) = some e) : stripExtension? (a ++ '.' :: e) = some a := by
  have hlast : ((a ++ '.' :: e).getLast? == some '/') = false := by
    rw [beq_eq_false_iff_ne, List.getLast?_append, List.getLast?_cons, Option.some_or]
    intro hlast
    cases he : e.getLast? with
    | none =>
      rw [he] at hlast
      exact absurd (Option.some.inj hlast) (by decide)
    | some c =>
      rw [he] at hlast
      exact hslash (Option.some.inj hlast ▸ List.mem_of_getLast? he)
  have hbytes : byteLength e + 1 = byteLength (e.reverse ++ ['.']) := by
    rw [byteLength_append, byteLength_reverse]
    rfl
  have hreverse : (a ++ '.' :: e).reverse = (e.reverse ++ ['.']) ++ a.reverse := by
    rw [List.reverse_append, List.reverse_cons]
  rw [stripExtension?, if_neg (by rw [hlast]; exact Bool.false_ne_true), hext]
  dsimp only
  rw [hbytes, hreverse, dropBytes?_append, Option.map_some, List.reverse_reverse]

/-- A target without its extension is the target, or what is left when as many bytes
    as the extension and its dot have are cut off. -/
theorem of_stripExtension?_eq_some {target stem : List Char}
    (h : stripExtension? target = some stem) :
    stem = target ∨ ∃ e cut, extension? target = some e ∧ target = stem ++ cut ∧
      byteLength cut = byteLength e + 1 := by
  unfold stripExtension? at h
  split at h
  · exact .inl (Option.some.inj h).symm
  · split at h
    · exact .inl (Option.some.inj h).symm
    · next e hext =>
      obtain ⟨kept, hkept, rfl⟩ := Option.map_eq_some_iff.mp h
      obtain ⟨cut, hcut, hbytes⟩ := of_dropBytes?_eq_some hkept
      refine .inr ⟨e, cut.reverse, hext, ?_, by rw [byteLength_reverse, hbytes]⟩
      rw [← List.reverse_append, ← hcut, List.reverse_reverse]

/-- What is left of a target without the extension of its last segment. -/
inductive WithoutExtension (target : List Char) : List Char → Prop
  | cut {stem ext kept : List Char} :
      EndsInExtension target stem ext → target = kept ++ '.' :: ext →
      WithoutExtension target kept
  | whole : (∀ stem ext, ¬ EndsInExtension target stem ext) → WithoutExtension target target

/-- There is one target without the extension. -/
theorem WithoutExtension.unique {target a b : List Char} (ha : WithoutExtension target a)
    (hb : WithoutExtension target b) : a = b := by
  cases ha with
  | whole hnone =>
    cases hb with
    | whole => rfl
    | cut hends => exact absurd hends (hnone _ _)
  | cut hends htarget =>
    cases hb with
    | whole hnone => exact absurd hends (hnone _ _)
    | cut hends' htarget' =>
      obtain rfl := Option.some.inj (hends.extension?_eq.symm.trans hends'.extension?_eq)
      exact List.append_cancel_right (htarget.symm.trans htarget')

/-- The right text is left unless the target ends in a segment `.` after a slash. -/
theorem exists_withoutExtension {target : List Char} (h : ¬ ['/', '.'] <:+ target) :
    ∃ kept, stripExtension? target = some kept ∧ WithoutExtension target kept := by
  obtain ⟨x, hx⟩ : ∃ x, (segments target).getLast? = some x :=
    ⟨_, List.getLast?_eq_some_getLast (List.splitOn_ne_nil '/' target)⟩
  obtain ⟨hslash, before, hbefore⟩ := of_getLast?_segments hx
  cases hidle : isIdle x with
  | false =>
    cases hext : extension? target with
    | none =>
      refine ⟨target, ?_, .whole fun stem ext hends => ?_⟩
      · rw [stripExtension?, hext]
        split <;> rfl
      · exact absurd hends.extension?_eq (by rw [hext]; nofun)
    | some e =>
      obtain ⟨stem, hends⟩ := exists_endsInExtension hx hidle hext
      obtain ⟨hnone, kept, rfl⟩ := hends.exists_kept
      exact ⟨kept, stripExtension?_append hnone hext, .cut hends rfl⟩
  | true =>
    -- After an idle last segment the target ends in a slash, or in what is excluded.
    have hx' : x = [] ∨ x = ['.'] := by simpa [isIdle] using hidle
    refine ⟨target, ?_, .whole fun _ _ => EndsInExtension.not_of_isIdle hx hidle⟩
    cases before with
    | nil =>
      rw [(List.cons.inj hbefore).2]
      rcases hx' with rfl | rfl <;> rfl
    | cons c rest =>
      have htarget : target = rest ++ '/' :: x := (List.cons.inj hbefore).2
      rcases hx' with rfl | rfl
      · rw [stripExtension?, htarget, if_pos (by rw [List.getLast?_concat]; rfl)]
      · exact absurd ⟨rest, htarget.symm⟩ h

/-- The extension can be cut off unless the target ends in a segment `.` after a slash. -/
theorem stripExtension?_isSome {target : List Char} (h : ¬ ['/', '.'] <:+ target) :
    (stripExtension? target).isSome := by
  obtain ⟨kept, hkept, -⟩ := exists_withoutExtension h
  exact Option.isSome_of_mem hkept

/-- An extension that stands before a last segment `.` is cut off nevertheless. -/
theorem stripExtension?_ne_of_idleEnd {target e : List Char} (h : ['/', '.'] <:+ target)
    (hext : extension? target = some e) : stripExtension? target ≠ some target := by
  obtain ⟨before, rfl⟩ := h
  intro hstrip
  have hlast : ((before ++ ['/', '.']).getLast? == some '/') = false := by
    rw [List.getLast?_append]
    rfl
  rw [stripExtension?, if_neg (by rw [hlast]; exact Bool.false_ne_true), hext] at hstrip
  obtain ⟨kept, hkept, hreverse⟩ := Option.map_eq_some_iff.mp hstrip
  obtain ⟨cut, hcut, hbytes⟩ := of_dropBytes?_eq_some hkept
  rw [← hreverse, List.reverse_reverse] at hcut
  -- Nothing is left to be cut off, but a dot and an extension have bytes.
  rw [List.self_eq_append_left.mp hcut] at hbytes
  nomatch hbytes

/-- **Targets without their extension.** For every target there is one text that is the
    target without the extension of its last segment. Cutting gives this text exactly
    if the target does not end in a segment `.` behind a path with an extension. -/
theorem stripExtension?_eq_iff (target : List Char) :
    ∃ kept, WithoutExtension target kept ∧ (∀ other, WithoutExtension target other → other = kept) ∧
      (stripExtension? target = some kept ↔
        ¬ (['/', '.'] <:+ target ∧ (extension? target).isSome)) := by
  by_cases hend : ['/', '.'] <:+ target
  · have hlast : (segments target).getLast? = some ['.'] := by
      obtain ⟨before, rfl⟩ := hend
      rw [segments_append before ['.'], segments_eq_singleton (s := ['.']) (by decide),
        List.getLast?_concat]
    have hwhole : WithoutExtension target target :=
      .whole fun _ _ => EndsInExtension.not_of_isIdle hlast rfl
    refine ⟨target, hwhole, fun other hother => hother.unique hwhole, ?_⟩
    cases hext : extension? target with
    | none =>
      refine iff_of_true ?_ fun h => nomatch h.2
      rw [stripExtension?, hext]
      split <;> rfl
    | some e => exact iff_of_false (stripExtension?_ne_of_idleEnd hend hext) fun h => h ⟨hend, rfl⟩
  · obtain ⟨kept, hkept, hwithout⟩ := exists_withoutExtension hend
    exact ⟨kept, hwithout, fun other hother => hother.unique hwithout,
      iff_of_true hkept fun h => hend h.1⟩

/-- The target `x.é/.` has the last segment `.` and no extension to lose, but two bytes
    more than the extension of `x.é` are cut off its end, which is inside a character. From
    `a.b/.` the segment `.` is lost. -/
theorem stripExtension?_idle_end :
    WithoutExtension "x.é/.".toList "x.é/.".toList ∧
      stripExtension? "x.é/.".toList = none ∧
      WithoutExtension "a.b/.".toList "a.b/.".toList ∧
      stripExtension? "a.b/.".toList = some "a.b".toList := by
  have hwhole : ∀ target : List Char, (segments target).getLast? = some ['.'] →
      WithoutExtension target target := fun _ hlast =>
    .whole fun _ _ => EndsInExtension.not_of_isIdle hlast rfl
  exact ⟨hwhole _ (by decide +kernel), by decide +kernel, hwhole _ (by decide +kernel),
    by decide +kernel⟩

end Link

end DocSite
