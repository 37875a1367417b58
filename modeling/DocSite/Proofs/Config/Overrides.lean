/-
  DocSite.Proofs.Config.Overrides

  Overrides as assignments. What an override sets its key to is read off its text alone,
  and to apply it is to change the value of that key and of no other. A list of overrides
  therefore leaves each key with the value of its last override, and stops in front of the
  first text that is no override.
-/
import DocSite.Config.Override
import DocSite.Proofs.Config.Keys
import DocSite.Proofs.Text.Split

namespace DocSite

open Text

/-! ## Assignments -/

namespace Config

/-- A configuration with a value for a key. -/
def set (c : Config) : (key : ConfigKey) → key.ValueType → Config
  | .sourceDir => fun (value : String) => { c with sourceDir := value }
  | .outputDir => fun (value : String) => { c with outputDir := value }
  | .baseUrl => fun (value : String) => { c with baseUrl := value }
  | .tocInput => fun (value : String) => { c with tocInput := value }
  | .tocOutput => fun (value : String) => { c with tocOutput := value }
  | .autoIds => fun (value : Bool) => { c with markdown.autoIds := value }
  | .headerOffset => fun (value : Int) => { c with markdown.headerOffset := value }
  | .tocLevels => fun (value : List Nat) => { c with markdown.tocLevels := value }
  | .highlightEnable => fun (value : Bool) => { c with markdown.highlight.enable := value }
  | .highlightTheme => fun (value : Option String) => { c with markdown.highlight.theme := value }

@[simp] theorem get_set_self (c : Config) (key : ConfigKey) (value : key.ValueType) :
    (c.set key value).get key = value := by
  cases key <;> rfl

theorem get_set_of_ne (c : Config) {key other : ConfigKey} (h : other ≠ key)
    (value : key.ValueType) : (c.set key value).get other = c.get other := by
  cases key <;> cases other <;> first | rfl | exact absurd rfl h

end Config

/-! ## Texts of overrides -/

/-- A heading level in a list. -/
def levelOfText? (piece : List Char) : Option Nat := (numberOf? levelBounds piece).map Int.toNat

namespace ConfigKey

/-- The value of a key that a text stands for. -/
def readText? (key : ConfigKey) (s : List Char) : Option key.ValueType :=
  match key with
  | .sourceDir | .outputDir | .baseUrl | .tocInput | .tocOutput => some (String.ofList s)
  | .autoIds | .highlightEnable => booleanOf? s
  | .headerOffset => numberOf? offsetBounds s
  | .tocLevels => (listPieces s).mapM levelOfText?
  | .highlightTheme => some (if s.isEmpty then none else some (String.ofList s))

/-- What is wrong with a text that stands for no value of a key. In a list it is the first piece
    that is no number. -/
def fault (key : ConfigKey) (s : List Char) : ConfigError :=
  match key with
  | .autoIds | .highlightEnable => .badBoolean key.name (String.ofList s)
  | .tocLevels =>
    let piece? := (listPieces s).find? fun piece => (levelOfText? piece).isNone
    .badNumber key.name (String.ofList (piece?.getD []))
  | _ => .badNumber key.name (String.ofList s)

/-- What a text sets a key to, if it is a valid override of the key: the name of the key stands
    before the first equals sign, and the text of a value behind it. -/
def assigned? (key : ConfigKey) (text : String) : Option key.ValueType :=
  (splitOnce '=' text.toList).bind fun p =>
    if String.ofList (trim p.1) = key.name then key.readText? (trim p.2) else none

/-- Whether a text is a valid override of a key. -/
def isSetBy (key : ConfigKey) (text : String) : Bool := (key.assigned? text).isSome

/-- The last override of a key among texts. -/
def lastOverride? (key : ConfigKey) (texts : List String) : Option String :=
  (texts.filter key.isSetBy).getLast?

end ConfigKey

/-- A text is a valid override of one of the keys. -/
def IsOverride (text : String) : Prop := ∃ key : ConfigKey, key.isSetBy text = true

theorem ConfigKey.mem_all (key : ConfigKey) : key ∈ all := by cases key <;> decide

instance (text : String) : Decidable (IsOverride text) :=
  decidable_of_iff (∃ key ∈ ConfigKey.all, key.isSetBy text = true)
    (exists_congr fun key => and_iff_right key.mem_all)

namespace ConfigKey

variable {key other : ConfigKey} {text : String}

theorem ofName?_name (key : ConfigKey) : ofName? key.name = some key := by
  cases key <;> decide

theorem name_injective : Function.Injective name := fun key other h =>
  Option.some.inj ((ofName?_name key).symm.trans (h ▸ ofName?_name other))

theorem name_of_ofName? {s : String} (h : ofName? s = some key) : key.name = s := by
  simpa using List.find?_some h

/-- A valid override of a key is cut into the name of the key and the text of a value. -/
theorem assigned?_eq_some_iff {value : key.ValueType} :
    key.assigned? text = some value ↔
      ∃ before after, splitOnce '=' text.toList = some (before, after) ∧
        String.ofList (trim before) = key.name ∧ key.readText? (trim after) = some value := by
  rw [assigned?, Option.bind_eq_some_iff]
  constructor
  · rintro ⟨⟨before, after⟩, hsplit, h⟩
    dsimp only at h
    split at h
    · next hname => exact ⟨before, after, hsplit, hname, h⟩
    · nomatch h
  · rintro ⟨before, after, hsplit, hname, h⟩
    exact ⟨(before, after), hsplit, by rw [if_pos hname, h]⟩

theorem isSetBy_iff : key.isSetBy text = true ↔ ∃ value, key.assigned? text = some value :=
  Option.isSome_iff_exists

/-- An override is one of a single key. -/
theorem isSetBy_eq_false (h : other ≠ key) (hkey : key.isSetBy text = true) :
    other.isSetBy text = false := by
  obtain ⟨value, hvalue⟩ := isSetBy_iff.mp hkey
  obtain ⟨before, after, hsplit, hname, -⟩ := assigned?_eq_some_iff.mp hvalue
  rw [Bool.eq_false_iff]
  intro hother
  obtain ⟨value', hvalue'⟩ := isSetBy_iff.mp hother
  obtain ⟨before', after', hsplit', hname', -⟩ := assigned?_eq_some_iff.mp hvalue'
  -- A text is cut in one way, so that it has one name in front.
  obtain ⟨rfl, rfl⟩ := Prod.mk.inj (Option.some.inj (hsplit.symm.trans hsplit'))
  exact h (name_injective (hname'.symm.trans hname))

theorem lastOverride?_cons_self (h : key.isSetBy text = true) (rest : List String) :
    key.lastOverride? (text :: rest) = some ((key.lastOverride? rest).getD text) := by
  rw [lastOverride?, List.filter_cons_of_pos h, List.getLast?_cons, lastOverride?]

theorem lastOverride?_cons_of_ne (h : key.isSetBy text = false) (rest : List String) :
    key.lastOverride? (text :: rest) = key.lastOverride? rest := by
  rw [lastOverride?, List.filter_cons_of_neg (by simp [h]), lastOverride?]

theorem isSetBy_of_lastOverride? {texts : List String} (h : key.lastOverride? texts = some text) :
    key.isSetBy text = true :=
  (List.mem_filter.mp (List.mem_of_getLast? h)).2

end ConfigKey

/-! ## One override -/

theorem levelsOf_eq (key : ConfigKey) (pieces : List (List Char)) :
    levelsOf key pieces = (pieces.mapM levelOfText?).elim
      (.error (.badNumber key.name
        (String.ofList ((pieces.find? fun piece => (levelOfText? piece).isNone).getD []))))
      .ok := by
  induction pieces with
  | nil => rfl
  | cons piece rest ih =>
    rw [levelsOf, List.mapM_cons, List.find?_cons, levelOfText?]
    cases numberOf? levelBounds piece with
    | none => rfl
    | some n =>
      rw [ih]
      dsimp only [Option.map_some, Option.isNone_some]
      cases rest.mapM levelOfText? <;> rfl

namespace Config

/-- A value is stored where the text stands for one. -/
theorem assign_eq (c : Config) (key : ConfigKey) (s : List Char) :
    c.assign key s = (key.readText? s).elim (.error (key.fault s)) fun value =>
      .ok (c.set key value) := by
  cases key with
  | sourceDir | outputDir | baseUrl | tocInput | tocOutput | highlightTheme => rfl
  | autoIds | highlightEnable =>
    rw [assign, setBoolean, ConfigKey.readText?]
    cases booleanOf? s <;> rfl
  | headerOffset =>
    rw [assign, ConfigKey.readText?]
    cases numberOf? offsetBounds s <;> rfl
  | tocLevels =>
    rw [assign, levelsOf_eq, ConfigKey.readText?]
    cases (listPieces s).mapM levelOfText? <;> rfl

variable {key : ConfigKey} {text : String}

/-- A text that names a key sets it, or is refused for the text of its value. -/
theorem applyOverride_of_name {p : List Char × List Char}
    (hsplit : splitOnce '=' text.toList = some p)
    (hname : ConfigKey.ofName? (String.ofList (trim p.1)) = some key) (c : Config) :
    c.applyOverride text = (key.readText? (trim p.2)).elim (.error (key.fault (trim p.2)))
      fun value => .ok (c.set key value) := by
  rw [applyOverride, hsplit]
  dsimp only
  rw [hname]
  exact assign_eq c key (trim p.2)

/-- A valid override sets its key. -/
theorem applyOverride_of_assigned {value : key.ValueType} (h : key.assigned? text = some value)
    (c : Config) : c.applyOverride text = .ok (c.set key value) := by
  obtain ⟨before, after, hsplit, hname, hread⟩ := ConfigKey.assigned?_eq_some_iff.mp h
  have hkey : ConfigKey.ofName? (String.ofList (trim before)) = some key := by
    rw [hname, ConfigKey.ofName?_name]
  rw [applyOverride_of_name hsplit hkey, hread]
  rfl

/-- A text that is no override is refused with the same error by every configuration. -/
theorem exists_applyOverride_error (h : ¬ IsOverride text) :
    ∃ e, ∀ c : Config, c.applyOverride text = .error e := by
  cases hsplit : splitOnce '=' text.toList with
  | none => exact ⟨.badOverride text, fun c => by rw [applyOverride, hsplit]⟩
  | some p =>
    cases hname : ConfigKey.ofName? (String.ofList (trim p.1)) with
    | none =>
      refine ⟨.unknownKey (String.ofList (trim p.1)), fun c => ?_⟩
      rw [applyOverride, hsplit]
      dsimp only
      rw [hname]
    | some key =>
      -- The name is right, so that it is the value that cannot be read.
      have hread : key.readText? (trim p.2) = none := by
        rw [Option.eq_none_iff_forall_not_mem]
        intro value hvalue
        exact h ⟨key, ConfigKey.isSetBy_iff.mpr ⟨value, ConfigKey.assigned?_eq_some_iff.mpr
          ⟨p.1, p.2, hsplit, (ConfigKey.name_of_ofName? hname).symm, hvalue⟩⟩⟩
      refine ⟨key.fault (trim p.2), fun c => ?_⟩
      rw [applyOverride_of_name hsplit hname, hread]
      rfl

/-! ## Runs -/

theorem applyOverrides_cons {value : key.ValueType} (h : key.assigned? text = some value)
    (c : Config) (rest : List String) :
    c.applyOverrides (text :: rest) = (c.set key value).applyOverrides rest := by
  rw [applyOverrides, applyOverride_of_assigned h]

theorem applyOverrides_cons_of_error {e : ConfigError} {c : Config}
    (h : c.applyOverride text = .error e) (rest : List String) :
    c.applyOverrides (text :: rest) = (some e, c) := by
  rw [applyOverrides, h]

/-- The overrides in front are applied, whatever follows them. -/
theorem applyOverrides_append {before : List String} (h : ∀ text ∈ before, IsOverride text)
    (c : Config) (rest : List String) :
    c.applyOverrides (before ++ rest) = (c.applyOverrides before).2.applyOverrides rest := by
  induction before generalizing c with
  | nil => rfl
  | cons text before ih =>
    obtain ⟨⟨key, htext⟩, hbefore⟩ := List.forall_mem_cons.mp h
    obtain ⟨value, hvalue⟩ := ConfigKey.isSetBy_iff.mp htext
    rw [List.cons_append, applyOverrides_cons hvalue, applyOverrides_cons hvalue, ih hbefore]

/-- A run succeeds if each of the texts is an override. -/
theorem applyOverrides_eq_none_iff (c : Config) (texts : List String) :
    (c.applyOverrides texts).1 = none ↔ ∀ text ∈ texts, IsOverride text := by
  induction texts generalizing c with
  | nil => exact ⟨fun _ => by nofun, fun _ => rfl⟩
  | cons text rest ih =>
    rw [List.forall_mem_cons]
    by_cases htext : IsOverride text
    · obtain ⟨key, hkey⟩ := htext
      obtain ⟨value, hvalue⟩ := ConfigKey.isSetBy_iff.mp hkey
      rw [applyOverrides_cons hvalue, ih]
      exact (and_iff_right ⟨key, hkey⟩).symm
    · obtain ⟨e, he⟩ := exists_applyOverride_error htext
      rw [applyOverrides_cons_of_error (he c)]
      exact ⟨nofun, fun h => absurd h.1 htext⟩

/-- A run leaves each key with the value of its last override. -/
theorem get_applyOverrides {texts : List String} (h : ∀ text ∈ texts, IsOverride text)
    (c : Config) (key : ConfigKey) :
    (c.applyOverrides texts).2.get key =
      ((key.lastOverride? texts).bind key.assigned?).getD (c.get key) := by
  induction texts generalizing c with
  | nil => rfl
  | cons text rest ih =>
    obtain ⟨⟨first, hfirst⟩, hrest⟩ := List.forall_mem_cons.mp h
    obtain ⟨value, hvalue⟩ := ConfigKey.isSetBy_iff.mp hfirst
    rw [applyOverrides_cons hvalue, ih hrest]
    rcases eq_or_ne key first with rfl | hne
    · rw [ConfigKey.lastOverride?_cons_self hfirst, get_set_self]
      -- Where no later one is an override of the key, it keeps the value of this one.
      cases hlast : key.lastOverride? rest with
      | none => rw [Option.getD_none, Option.bind_some, hvalue, Option.bind_none]; rfl
      | some last =>
        obtain ⟨value', hvalue'⟩ :=
          ConfigKey.isSetBy_iff.mp (ConfigKey.isSetBy_of_lastOverride? hlast)
        rw [Option.getD_some, Option.bind_some, hvalue', Option.getD_some, Option.getD_some]
    · rw [ConfigKey.lastOverride?_cons_of_ne (ConfigKey.isSetBy_eq_false hne hfirst),
        get_set_of_ne c hne]

/-- The last override of each key tells the result of a run. -/
theorem applyOverrides_congr {texts other : List String} (h : ∀ text ∈ texts, IsOverride text)
    (hother : ∀ text ∈ other, IsOverride text)
    (hlast : ∀ key : ConfigKey, key.lastOverride? other = key.lastOverride? texts) (c : Config) :
    c.applyOverrides other = c.applyOverrides texts := by
  refine Prod.ext ?_ (ext_get fun key => ?_)
  · rw [(applyOverrides_eq_none_iff c other).mpr hother,
      (applyOverrides_eq_none_iff c texts).mpr h]
  · rw [get_applyOverrides hother, get_applyOverrides h, hlast]

/-- Overrides assign, and the last one of a key wins. What a text is an override of is told by
    the text alone. A run succeeds exactly if all its texts are overrides, and else stops in
    front of the first that is none, which changes nothing in any configuration. If it succeeds
    each key has the value of its last override, or its own where there is none; so overrides
    that are not the last of their key may be left out, and overrides of different keys may
    change places. -/
theorem applyOverrides_last_wins (c : Config) (texts : List String) :
    ((c.applyOverrides texts).1 = none ↔ ∀ text ∈ texts, IsOverride text) ∧
    (∀ before text after, texts = before ++ text :: after → (∀ t ∈ before, IsOverride t) →
      ¬ IsOverride text → ∃ e, (∀ d : Config, d.applyOverrides [text] = (some e, d)) ∧
        c.applyOverrides texts = (some e, (c.applyOverrides before).2)) ∧
    ((∀ text ∈ texts, IsOverride text) →
      (∀ key : ConfigKey, (c.applyOverrides texts).2.get key =
        ((key.lastOverride? texts).bind key.assigned?).getD (c.get key)) ∧
      (∀ kept : List String, kept.Sublist texts →
        (∀ key : ConfigKey, key.lastOverride? kept = key.lastOverride? texts) →
        c.applyOverrides kept = c.applyOverrides texts) ∧
      ∀ other : List String, other.Perm texts →
        (∀ key : ConfigKey, other.filter key.isSetBy = texts.filter key.isSetBy) →
        c.applyOverrides other = c.applyOverrides texts) := by
  refine ⟨applyOverrides_eq_none_iff c texts, ?_, fun h => ⟨get_applyOverrides h c, ?_, ?_⟩⟩
  · rintro before text after rfl hbefore htext
    obtain ⟨e, he⟩ := exists_applyOverride_error htext
    refine ⟨e, fun d => applyOverrides_cons_of_error (he d) [], ?_⟩
    rw [applyOverrides_append hbefore, applyOverrides_cons_of_error (he _)]
  · -- In both cases the last override of every key stays what it was.
    intro kept hkept hlast
    exact applyOverrides_congr h (fun text htext => h text (hkept.subset htext)) hlast c
  · intro other hperm hfilter
    refine applyOverrides_congr h (fun text htext => h text (hperm.subset htext)) (fun key => ?_) c
    rw [ConfigKey.lastOverride?, hfilter, ConfigKey.lastOverride?]

/-- The base is set twice, with white space around it, and levels are set in between. -/
def baseTwice : List String := ["base_url=/a/", "markdown.toc_levels=2, 3", " base_url = /b/ "]

/-- The second base counts, with or without the first, and wherever the levels are set. A list of
    levels that begins well is refused in front of it. -/
theorem applyOverrides_last_wins_baseTwice :
    (∀ text ∈ baseTwice, IsOverride text) ∧
      (({} : Config).applyOverrides baseTwice).2.get .baseUrl = "/b/" ∧
      ({} : Config).applyOverrides baseTwice.tail = ({} : Config).applyOverrides baseTwice ∧
      ({} : Config).applyOverrides ["base_url=/a/", " base_url = /b/ ", "markdown.toc_levels=2, 3"]
        = ({} : Config).applyOverrides baseTwice ∧
      ¬ IsOverride "markdown.toc_levels=1,x" ∧
      ∃ e, ({} : Config).applyOverrides
          ["base_url=/a/", "markdown.toc_levels=1,x", "base_url=/b/"] =
        (some e, { baseUrl := "/a/" }) := by
  have hall : ∀ text ∈ baseTwice, IsOverride text := by decide +kernel
  have hfault : ¬ IsOverride "markdown.toc_levels=1,x" := by decide +kernel
  obtain ⟨hvalue, hdrop, hperm⟩ := (applyOverrides_last_wins {} baseTwice).2.2 hall
  have hkept := hdrop baseTwice.tail (List.tail_sublist _) fun key => by
    cases key <;> decide +kernel
  have hmoved := hperm ["base_url=/a/", " base_url = /b/ ", "markdown.toc_levels=2, 3"]
    (by decide +kernel) fun key => by cases key <;> decide +kernel
  obtain ⟨e, -, hstop⟩ := (applyOverrides_last_wins {}
    ["base_url=/a/", "markdown.toc_levels=1,x", "base_url=/b/"]).2.1 ["base_url=/a/"] _ _ rfl
    (by decide +kernel) hfault
  have hfront : (({} : Config).applyOverrides ["base_url=/a/"]).2 = { baseUrl := "/a/" } := by
    decide +kernel
  rw [hfront] at hstop
  exact ⟨hall, (hvalue .baseUrl).trans (by decide +kernel), hkept, hmoved, hfault, e, hstop⟩

end Config

end DocSite
