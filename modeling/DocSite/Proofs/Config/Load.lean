/-
  DocSite.Proofs.Config.Load

  Loading of a configuration. It only reads files, and merges those that are named in
  order. What the files set tells the value of each key of the result: a key has the last
  value that does not count as the default, so that no file sets a key back.
-/
import DocSite.Config.Load
import DocSite.Proofs.Config.Settings
import DocSite.Proofs.Files.Run

namespace DocSite

variable {w w' : World}

namespace World

/-- The configuration in a file. -/
def config (w : World) (path : String) : Except ConfigError Config :=
  match w.text? path with
  | some text => Config.ofText path text
  | none => .error (.unreadable path)

/-- What a file sets a key to, if it sets it. -/
def setting? (w : World) (key : ConfigKey) (path : String) : Option key.ValueType :=
  (w.text? path).bind (key.setting? path)

theorem get_of_config {path : String} {c : Config} (h : w.config path = .ok c)
    (key : ConfigKey) : c.get key = (w.setting? key path).getD key.default := by
  rw [config] at h
  split at h
  · next text htext =>
    rw [setting?, htext, Option.bind_some]
    exact Config.get_of_ofText h key
  · nomatch h

end World

namespace Config

/-! ## Files -/

theorem ends_ofFile_iff {path : String} {r : Except ConfigError Config} :
    Ends (ofFile path) w r w' ↔ r = w.config path ∧ w' = w := by
  rw [ofFile, ends_lift_bind_iff (run_readText? path w), World.config]
  cases w.text? path with
  | some text => exact ends_liftExcept_iff
  | none => exact ends_throw_iff

theorem readsOnly_ofFile (path : String) : ReadsOnly (ofFile (m := StateM World) path) :=
  fun _ _ _ h => (ends_ofFile_iff.mp h).2

theorem readsOnly_mergeFiles (paths : List String) (c : Config) :
    ReadsOnly (mergeFiles (m := StateM World) c paths) := by
  induction paths generalizing c with
  | nil => exact .pure c
  | cons path paths ih => exact .bind (readsOnly_ofFile path) fun later => ih (c.merge later)

theorem readsOnly_ofFiles (paths : List String) :
    ReadsOnly (ofFiles (m := StateM World) paths) := by
  cases paths with
  | nil => exact .pure _
  | cons path paths =>
    exact .bind (readsOnly_ofFile path) fun first => readsOnly_mergeFiles paths first

/-- Loading a configuration leaves the files as they are. -/
theorem readsOnly_load (files overrides : List String) :
    ReadsOnly (load (m := StateM World) files overrides) := by
  refine .bind (readsOnly_ofFiles files) fun c => ?_
  split
  · exact .throw _
  · next c _ => exact .bind (.liftExcept c.validate) fun _ => .pure c

/-! ## Merged files -/

/-- Files that all parse are merged. -/
theorem exists_ends_mergeFiles {paths : List String}
    (h : ∀ path ∈ paths, ∃ c, Ends (ofFile path) w (.ok c) w) (first : Config) :
    ∃ c : Config, Ends (mergeFiles first paths) w (.ok c) w ∧ ∀ key : ConfigKey,
      c.get key = (key.lastChange? (paths.filterMap (w.setting? key))).getD (first.get key) := by
  -- On the files that are left, for every configuration merged so far.
  induction paths generalizing first with
  | nil => exact ⟨first, ends_pure_iff.mpr ⟨rfl, rfl⟩, fun key => rfl⟩
  | cons path paths ih =>
    obtain ⟨hpath, hpaths⟩ := List.forall_mem_cons.mp h
    obtain ⟨later, hlater⟩ := hpath
    obtain ⟨c, hc, hkeys⟩ := ih hpaths (first.merge later)
    refine ⟨c, ?_, fun key => ?_⟩
    · rwa [mergeFiles, ends_bind_of_ok hlater]
    · have hget := World.get_of_config (ends_ofFile_iff.mp hlater).1.symm key
      rw [hkeys, get_merge, hget]
      -- A key that the file does not set has the default in it, and so is not replaced.
      cases hset : w.setting? key path with
      | none =>
        rw [List.filterMap_cons_none hset, Option.getD_none, if_pos key.isDefault_default]
      | some value =>
        rw [List.filterMap_cons_some hset, Option.getD_some, ConfigKey.getD_lastChange?_cons]

/-- Without overrides the configuration of files is checked only. -/
theorem ends_load_nil {files : List String} {c : Config} (h : Ends (ofFiles files) w (.ok c) w) :
    Ends (load files []) w (c.validate.map fun _ => c) w := by
  rw [load, ends_bind_of_ok h]
  change Ends (liftM c.validate >>= fun _ => pure c) w _ w
  cases hvalid : c.validate with
  | error e =>
    exact (ends_bind_of_error (ends_liftExcept_iff.mpr ⟨rfl, rfl⟩)).mpr ⟨rfl, rfl⟩
  | ok _ =>
    rw [ends_bind_of_ok (ends_liftExcept_iff.mpr ⟨rfl, rfl⟩)]
    exact ends_pure_iff.mpr ⟨rfl, rfl⟩

/-- Files that all parse are merged into one configuration, which is checked. In it each
    key has the last value that a file sets it to and that does not count as the default.
    Where there is none, it has the value in the first file, or the default. -/
theorem load_get_eq_lastChange {files : List String} (hne : files ≠ [])
    (hparse : ∀ path ∈ files, ∃ c, Ends (ofFile path) w (.ok c) w) :
    ∃ c : Config, Ends (load files []) w (c.validate.map fun _ => c) w ∧ ∀ key : ConfigKey,
      c.get key = (key.lastChange? (files.filterMap (w.setting? key))).getD
        ((w.setting? key (files.head hne)).getD key.default) ∧
      (key.lastChange? (files.filterMap (w.setting? key)) = none →
        key.isDefault (c.get key) = true) := by
  obtain ⟨path, paths, rfl⟩ := List.exists_cons_of_ne_nil hne
  obtain ⟨⟨first, hfirst⟩, hpaths⟩ := List.forall_mem_cons.mp hparse
  obtain ⟨c, hc, hkeys⟩ := exists_ends_mergeFiles hpaths first
  have hfiles : Ends (ofFiles (path :: paths)) w (.ok c) w := by
    rwa [ofFiles, ends_bind_of_ok hfirst]
  refine ⟨c, ends_load_nil hfiles, fun key => ?_⟩
  rw [List.head_cons]
  have hvalue : c.get key = (key.lastChange? ((path :: paths).filterMap (w.setting? key))).getD
      ((w.setting? key path).getD key.default) := by
    rw [hkeys, World.get_of_config (ends_ofFile_iff.mp hfirst).1.symm key]
    -- What the first file sets may be prepended: whether it counts or not, the value is the same.
    cases hset : w.setting? key path with
    | none => rw [List.filterMap_cons_none hset, Option.getD_none]
    | some value =>
      rw [List.filterMap_cons_some hset, Option.getD_some, ConfigKey.getD_lastChange?_cons,
        ite_self]
  refine ⟨hvalue, fun hnone => ?_⟩
  rw [hvalue, hnone, Option.getD_none]
  cases hset : w.setting? key path with
  | none => exact key.isDefault_default
  | some value =>
    rw [List.filterMap_cons_some hset] at hnone
    exact ConfigKey.isDefault_of_lastChange?_eq_none hnone List.mem_cons_self

theorem ends_ofFile_of_toOption {path : String} {c : Config}
    (h : (w.config path).toOption = some c) : Ends (ofFile path) w (.ok c) w := by
  refine ends_ofFile_iff.mpr ⟨?_, rfl⟩
  cases hc : w.config path with
  | ok a =>
    rw [hc] at h
    exact congrArg Except.ok (Option.some.inj h).symm
  | error e =>
    rw [hc] at h
    nomatch h

/-- Two configuration files with the given texts. -/
def inTwoFiles (first second : String) : World where
  files := ⟨[(["a.json".toList], .file (some first)), (["b.json".toList], .file (some second))]⟩

/-- The second file changes the base again. -/
def changedTwice : World := inTwoFiles
  "\x7b\"base_url\": \"/site/\", \"source_dir\": \"pages\"\x7d"
  "\x7b\"base_url\": \"/docs/\"\x7d"

/-- The second file sets the base to what it is by default. -/
def changedBack : World := inTwoFiles
  "\x7b\"base_url\": \"/docs/\"\x7d" "\x7b\"base_url\": \"/\"\x7d"

theorem load_changedTwice :
    ∃ c : Config,
      Ends (load ["a.json", "b.json"] []) changedTwice (c.validate.map fun _ => c)
        changedTwice ∧
      c.get .baseUrl = "/docs/" ∧ c.get .sourceDir = "pages" ∧ c.get .outputDir = "_site" := by
  have hfirst : Ends (ofFile "a.json") changedTwice
      (.ok { baseUrl := "/site/", sourceDir := "pages" }) changedTwice :=
    ends_ofFile_of_toOption (by decide +kernel)
  have hsecond : Ends (ofFile "b.json") changedTwice (.ok { baseUrl := "/docs/" })
      changedTwice := ends_ofFile_of_toOption (by decide +kernel)
  have hparse : ∀ path ∈ ["a.json", "b.json"],
      ∃ c, Ends (ofFile path) changedTwice (.ok c) changedTwice := by
    simp only [List.forall_mem_cons]
    exact ⟨⟨_, hfirst⟩, ⟨_, hsecond⟩, fun _ h => absurd h List.not_mem_nil⟩
  obtain ⟨c, hc, hkeys⟩ := load_get_eq_lastChange (by decide) hparse
  refine ⟨c, hc, (hkeys .baseUrl).1.trans ?_, (hkeys .sourceDir).1.trans ?_,
    (hkeys .outputDir).1.trans ?_⟩
  all_goals decide +kernel

/-- A later file does not set a key back to its default. -/
theorem load_changedBack :
    changedBack.setting? .baseUrl "b.json" = some "/" ∧
      ∃ c : Config, Ends (load ["a.json", "b.json"] []) changedBack (.ok c) changedBack ∧
        c.get .baseUrl = "/docs/" := by
  have hfirst : Ends (ofFile "a.json") changedBack (.ok { baseUrl := "/docs/" }) changedBack :=
    ends_ofFile_of_toOption (by decide +kernel)
  have hsecond : Ends (ofFile "b.json") changedBack (.ok {}) changedBack :=
    ends_ofFile_of_toOption (by decide +kernel)
  have hmerge : ({ baseUrl := "/docs/" } : Config).merge {} = { baseUrl := "/docs/" } := by
    decide +kernel
  have hfiles : Ends (ofFiles ["a.json", "b.json"]) changedBack (.ok { baseUrl := "/docs/" })
      changedBack := by
    rw [ofFiles, ends_bind_of_ok hfirst, mergeFiles, ends_bind_of_ok hsecond]
    exact ends_pure_iff.mpr ⟨congrArg Except.ok hmerge.symm, rfl⟩
  exact ⟨by decide +kernel, { baseUrl := "/docs/" }, ends_load_nil hfiles, rfl⟩

end Config

end DocSite
