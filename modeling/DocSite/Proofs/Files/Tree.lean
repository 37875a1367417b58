/-
  DocSite.Proofs.Files.Tree

  What creating directories and writing a file change in a tree. `GrowsBy` tells of two
  trees that the second has more directories, and which paths lead to these. Where a path
  leads it still leads in a tree with more directories, so that growth can be put
  together. `Written` tells what a file that is written leaves behind. Of a world nothing
  but its files is changed in this way.
-/
import DocSite.Files.World
import DocSite.Proofs.Path

namespace DocSite

/-- The paths above a path: its parent, and those above its parent. -/
inductive Path.Ancestor : List Char → List Char → Prop
  | parent {path above : List Char} (h : parent? path = some above) : Ancestor path above
  | further {path parent above : List Char} (h : parent? path = some parent)
      (habove : Ancestor parent above) : Ancestor path above

namespace FileTree

variable {t t' t₁ : FileTree} {directory : Place} {permits : Place → Bool} {path : List Char}
  {place other : Place} {entry : FileEntry}

/-! ## Entries -/

theorem lookup_filter_of_ne {entries : List (Place × FileEntry)} (h : other ≠ place) :
    (entries.filter fun e => e.1 != place).lookup other = entries.lookup other := by
  induction entries with
  | nil => rfl
  | cons e rest ih =>
    by_cases he : e.1 = place
    · have hother : (other == e.1) = false := beq_eq_false_iff_ne.mpr (he ▸ h)
      rw [List.filter_cons_of_neg (by simpa using he), ih, List.lookup_cons, hother]
    · rw [List.filter_cons_of_pos (by simpa using he), List.lookup_cons, List.lookup_cons, ih]

theorem entry?_put_self (h : place ≠ []) :
    FileTree.entry? (t.put place entry) place = some entry := by
  rw [ entry?, if_neg (by simpa using h), put, List.lookup_cons_self]

theorem entry?_put_of_ne (h : other ≠ place) :
    FileTree.entry? (t.put place entry) other = t.entry? other := by
  have hother : (other == place) = false := beq_eq_false_iff_ne.mpr h
  rw [ entry?, entry?, put, List.lookup_cons, hother]
  rw [lookup_filter_of_ne h]

theorem isDirectory_iff : t.isDirectory place = true ↔ t.entry? place = some .directory := by
  rw [isDirectory, beq_iff_eq]

theorem ne_nil_of_isDirectory_eq_false (h : t.isDirectory place = false) : place ≠ [] := by
  rintro rfl
  nomatch h

/-! ## Where paths lead -/

/-- All that is a directory in a tree is one in another tree. -/
def DirectoriesIn (t t' : FileTree) : Prop :=
  ∀ ⦃place⦄, t.entry? place = some .directory → t'.entry? place = some .directory

/-- What is put where no directory stands hides none. -/
theorem directoriesIn_put (h : t.isDirectory place = false) (entry : FileEntry) :
    DirectoriesIn t (t.put place entry) := by
  intro other hother
  have hne : other ≠ place := by
    rintro rfl
    rw [isDirectory_iff.mpr hother] at h
    nomatch h
  rw [entry?_put_of_ne hne, hother]

theorem follow_mono (h : DirectoriesIn t t') {segments : List (List Char)}
    (hfollow : t.follow place segments = .ok other) : t'.follow place segments = .ok other := by
  -- The tree is only asked whether the places on the way are directories.
  induction segments generalizing place with
  | nil => exact hfollow
  | cons segment rest ih =>
    rw [follow] at hfollow ⊢
    split at hfollow
    · nomatch hfollow
    · nomatch hfollow
    · next hdirectory =>
      rw [h hdirectory]
      exact ih hfollow

theorem follow_append (t : FileTree) (place : Place) (a b : List (List Char)) :
    t.follow place (a ++ b) = t.follow place a >>= fun place => t.follow place b := by
  induction a generalizing place with
  | nil => rfl
  | cons segment rest ih =>
    rw [List.cons_append, follow, follow]
    split
    · rfl
    · rfl
    · exact ih _

/-- A path leads somewhere if it has segments that can be followed, and no character that
    the system does not take. -/
theorem locate_eq_ok_iff : t.locate directory path = .ok place ↔ path ≠ [] ∧ '\x00' ∉ path ∧
    t.follow (if Path.isAbsolute path then [] else directory) (Path.segments path)
      = .ok place := by
  rw [locate]
  simp only [List.isEmpty_iff, List.contains_iff_mem]
  by_cases hempty : path = []
  · rw [if_pos hempty]
    exact ⟨nofun, fun h => absurd hempty h.1⟩
  · rw [if_neg hempty]
    by_cases hzero : '\x00' ∈ path
    · rw [if_pos hzero]
      exact ⟨nofun, fun h => absurd hzero h.2.1⟩
    · rw [if_neg hzero]
      exact ⟨fun h => ⟨hempty, hzero, h⟩, fun h => h.2.2⟩

/-- A path leads to the same place in a tree with more directories. -/
theorem locate_mono (h : DirectoriesIn t t') (hlocate : t.locate directory path = .ok place) :
    t'.locate directory path = .ok place := by
  obtain ⟨hempty, hzero, hfollow⟩ := locate_eq_ok_iff.mp hlocate
  exact locate_eq_ok_iff.mpr ⟨hempty, hzero, follow_mono h hfollow⟩

/-! ## Slashes at the end -/

theorem exists_eq_dropSlashes (path : List Char) :
    ∃ k, path = dropSlashes path ++ List.replicate k '/' := by
  refine ⟨(path.reverse.takeWhile (· == '/')).length, ?_⟩
  have hslashes : path.reverse.takeWhile (· == '/') =
      List.replicate (path.reverse.takeWhile (· == '/')).length '/' :=
    List.eq_replicate_iff.mpr ⟨rfl, fun c hc => by simpa using List.mem_takeWhile_imp hc⟩
  have hpath := congrArg List.reverse
    (List.takeWhile_append_dropWhile (p := (· == '/')) (l := path.reverse))
  rw [List.reverse_append, List.reverse_reverse, hslashes, List.reverse_replicate] at hpath
  exact hpath.symm

theorem segments_append_replicate (s : List Char) (k : Nat) :
    Path.segments (s ++ List.replicate k '/') = Path.segments s ++ List.replicate k [] := by
  induction k generalizing s with
  | zero => rw [List.replicate_zero, List.append_nil, List.replicate_zero, List.append_nil]
  | succ k ih =>
    have hslashes : Path.segments (List.replicate k '/') = [] :: List.replicate k [] := ih []
    rw [List.replicate_succ, Path.segments_append, hslashes, ← List.replicate_succ]

theorem follow_replicate_nil (h : t.entry? place = some .directory) (k : Nat) :
    t.follow place (List.replicate k []) = .ok place := by
  induction k with
  | zero => rfl
  | succ k ih =>
    rw [List.replicate_succ, follow, h]
    exact ih

/-- A path to a directory may end in slashes. -/
theorem locate_of_dropSlashes (h : t.locate directory (dropSlashes path) = .ok place)
    (hdirectory : t.entry? place = some .directory) : t.locate directory path = .ok place := by
  obtain ⟨k, hk⟩ := exists_eq_dropSlashes path
  obtain ⟨hempty, hzero, hfollow⟩ := locate_eq_ok_iff.mp h
  generalize dropSlashes path = front at hk hempty hzero hfollow
  subst hk
  obtain ⟨c, rest, rfl⟩ := List.exists_cons_of_ne_nil hempty
  refine locate_eq_ok_iff.mpr ⟨List.cons_ne_nil _ _, ?_, ?_⟩
  · intro hmem
    rcases List.mem_append.mp hmem with hfront | hslash
    · exact hzero hfront
    · nomatch List.eq_of_mem_replicate hslash
  · -- The slashes do not change where the path starts.
    change t.follow (if Path.isAbsolute (c :: rest) then [] else directory) _ = _
    rw [segments_append_replicate, follow_append, hfollow]
    exact follow_replicate_nil hdirectory k

/-! ## Directories that are created -/

/-- The second tree has directories where nothing stands in the first. To each of them
    one of the given paths leads from a directory. -/
def GrowsBy (directory : Place) (t t' : FileTree) (paths : List Char → Prop) : Prop :=
  ∀ place, t'.entry? place = t.entry? place ∨
    ( t.entry? place = none ∧ t'.entry? place = some .directory ∧
      ∃ path, paths path ∧ t'.locate directory path = .ok place)

namespace GrowsBy

variable {paths more : List Char → Prop}

theorem refl (t : FileTree) (paths : List Char → Prop) : GrowsBy directory t t paths :=
  fun _ => .inl rfl

theorem directoriesIn (h : GrowsBy directory t t' paths) : DirectoriesIn t t' := by
  intro place hplace
  rcases h place with heq | ⟨hnone, -⟩
  · rw [heq, hplace]
  · rw [hnone] at hplace
    nomatch hplace

theorem mono (h : GrowsBy directory t t' paths) (hmore : ∀ path, paths path → more path) :
    GrowsBy directory t t' more := by
  intro place
  rcases h place with heq | ⟨hnone, hsome, path, hpath, hlocate⟩
  · exact .inl heq
  · exact .inr ⟨hnone, hsome, path, hmore path hpath, hlocate⟩

theorem trans (h : GrowsBy directory t t₁ paths) (h₁ : GrowsBy directory t₁ t' paths) :
    GrowsBy directory t t' paths := by
  intro place
  rcases h place with heq | ⟨hnone, hsome, path, hpath, hlocate⟩
  · rw [← heq]
    exact h₁ place
  · exact .inr ⟨hnone, h₁.directoriesIn hsome, path, hpath, locate_mono h₁.directoriesIn hlocate⟩

end GrowsBy

/-- A directory is created where a path leads to nothing, and nowhere else. -/
theorem eq_put_of_createDirectory (h : t.createDirectory directory permits path = .ok t') :
    ∃ place, t.locate directory (dropSlashes path) = .ok place ∧ t.entry? place = none ∧
      t' = t.put place .directory := by
  rw [createDirectory] at h
  split at h
  · nomatch h
  · next place hplace =>
    split at h
    · nomatch h
    · next hfree =>
      refine ⟨place, hplace, ?_, (Except.ok.inj h).symm⟩
      cases hentry : t.entry? place with
      | none => rfl
      | some entry => simp [hentry] at hfree

theorem growsBy_createDirectory (h : t.createDirectory directory permits path = .ok t') :
    GrowsBy directory t t' (· = path) := by
  obtain ⟨place, hplace, hnone, rfl⟩ := eq_put_of_createDirectory h
  have hdirectory : t.isDirectory place = false := by
    rw [isDirectory, hnone]
    rfl
  have hself : FileTree.entry? (t.put place .directory) place = some .directory :=
    entry?_put_self (ne_nil_of_isDirectory_eq_false hdirectory)
  intro other
  by_cases heq : other = place
  · subst heq
    refine .inr ⟨hnone, hself, path, rfl, ?_⟩
    exact locate_of_dropSlashes (locate_mono (directoriesIn_put hdirectory _) hplace) hself
  · exact .inl (entry?_put_of_ne heq)

/-- Creating a directory with those above it creates directories to which the path or one
    above it leads, also where it fails. -/
theorem growsBy_createAll (fuel : Nat) (path : List Char) (t : FileTree) :
    GrowsBy directory t (createAll directory permits fuel path t).2
      (fun other => other = path ∨ Path.Ancestor path other) := by
  -- On the fuel. The path is tried before and after those above it, which are created by the
  -- recursive call.
  induction fuel generalizing path t with
  | zero => exact .refl t _
  | succ fuel ih =>
    have hcreated : ∀ {t t' : FileTree}, t.createDirectory directory permits path = .ok t' →
        GrowsBy directory t t' (fun other => other = path ∨ Path.Ancestor path other) :=
      fun h => (growsBy_createDirectory h).mono fun _ => .inl
    rw [createAll]
    split
    · exact .refl t _
    · next parent hparent =>
      have habove := (ih parent t).mono fun other (hother : other = parent ∨ _) => by
        show other = path ∨ Path.Ancestor path other
        rcases hother with rfl | hother
        · exact .inr (.parent hparent)
        · exact .inr (.further hparent hother)
      split
      · next h => exact hcreated h
      · exact .refl t _
      · split
        · next h =>
          rwa [h] at habove
        · next h =>
          rw [h] at habove
          split
          · next h₁ => exact habove.trans (hcreated h₁)
          · exact habove

/-- The fuel never runs out: more of it than the path has characters makes no difference,
    since every path is longer than its parent. -/
theorem createAll_eq_of_lt {fuel more : Nat} (h : path.length < fuel) (hmore : path.length < more) :
    createAll directory permits fuel path t = createAll directory permits more path t := by
  induction fuel generalizing more path t with
  | zero => nomatch h
  | succ fuel ih =>
    obtain ⟨more, rfl⟩ : ∃ n, more = n + 1 := ⟨more - 1, by omega⟩
    rw [createAll, createAll]
    cases hparent : Path.parent? path with
    | none => rfl
    | some parent =>
      have hlt := Path.length_lt_of_parent? hparent
      have habove : createAll directory permits fuel parent t =
          createAll directory permits more parent t := ih (by omega) (by omega)
      dsimp only
      rw [habove]

/-! ## Files that are written -/

/-- A file is written and nothing else is changed, but for missing directories above the
    file, which are created. -/
structure Written (directory : Place) (t t' : FileTree) (path : List Char) (text : String) :
    Prop where
  file : t'.find? directory path = some (.file (some text))
  others : ∀ place, t'.entry? place = t.entry? place ∨ t'.locate directory path = .ok place ∨
    ( t.entry? place = none ∧ t'.entry? place = some .directory ∧
      ∃ above, Path.Ancestor path above ∧ t'.locate directory above = .ok place)

theorem written_of_growsBy {text : String} (hgrows : GrowsBy directory t t₁ (Path.Ancestor path))
    (h : t₁.writeFile directory permits path text = (true, t')) :
    Written directory t t' path text := by
  rw [writeFile] at h
  split at h
  · nomatch h
  · next place hplace =>
    split at h
    · nomatch h
    · next hrefused =>
      obtain ⟨-, rfl⟩ := Prod.mk.inj h
      have hdirectory : t₁.isDirectory place = false := by
        cases hd : t₁.isDirectory place with
        | true => simp [hd] at hrefused
        | false => rfl
      have hself : FileTree.entry? (t₁.put place (.file (some text))) place =
          some (.file (some text)) :=
        entry?_put_self (ne_nil_of_isDirectory_eq_false hdirectory)
      have hmono := directoriesIn_put hdirectory (.file (some text))
      have hlocate := locate_mono hmono hplace
      refine ⟨by rw [find?, hlocate]; exact hself, fun other => ?_⟩
      -- Directories that were created before stay, and the same paths lead to them.
      by_cases heq : other = place
      · exact .inr (.inl (heq ▸ hlocate))
      · rw [entry?_put_of_ne heq]
        rcases hgrows other with hsame | ⟨hnone, hsome, above, habove, hleads⟩
        · exact .inl hsame
        · exact .inr (.inr ⟨hnone, hsome, above, habove, locate_mono hmono hleads⟩)

end FileTree

/-! ## Worlds -/

namespace World

variable {w w' w₁ : World} {path text : String} {paths : List Char → Prop}

/-- Two worlds differ in nothing but their files. -/
def OnlyFiles (w w' : World) : Prop := w' = { w with files := w'.files }

theorem OnlyFiles.refl (w : World) : w.OnlyFiles w := rfl

theorem OnlyFiles.withFiles (h : w.OnlyFiles w₁) (change : Bool × FileTree) :
    w.OnlyFiles (w₁.withFiles change).2 := by
  rw [OnlyFiles] at h
  rw [h]
  rfl

/-- Missing directories are created, to each of which one of the given paths leads. -/
structure GrowsBy (w w' : World) (paths : List Char → Prop) : Prop where
  onlyFiles : w.OnlyFiles w'
  directories : FileTree.GrowsBy w.directory w.files w'.files paths

theorem GrowsBy.refl (w : World) (paths : List Char → Prop) : w.GrowsBy w paths :=
  ⟨.refl w, .refl w.files paths⟩

theorem growsBy_createAll (w : World) (path : String) :
    w.GrowsBy (w.createAll path).2 (fun other => other = path.toList ∨
      Path.Ancestor path.toList other) :=
  ⟨.withFiles (.refl w) _, FileTree.growsBy_createAll (path.length + 1) path.toList w.files⟩

/-- A file is written and nothing else is changed, but for missing directories above the
    file, which are created. -/
structure Wrote (w w' : World) (path text : String) : Prop where
  onlyFiles : w.OnlyFiles w'
  written : FileTree.Written w.directory w.files w'.files path.toList text

theorem wrote_of_growsBy (hgrows : w.GrowsBy w₁ (Path.Ancestor path.toList))
    (h : (w₁.writeFile path text).1 = true) : w.Wrote (w₁.writeFile path text).2 path text := by
  have hdirectory : w₁.directory = w.directory := by rw [hgrows.onlyFiles]
  have hwrite : w₁.files.writeFile w.directory w₁.permits path.toList text =
      (true, (w₁.writeFile path text).2.files) := by
    rw [← hdirectory]
    exact Prod.ext h rfl
  exact ⟨hgrows.onlyFiles.withFiles _, FileTree.written_of_growsBy hgrows.directories hwrite⟩

end World

end DocSite
