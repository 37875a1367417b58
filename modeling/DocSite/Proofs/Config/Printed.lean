/-
  DocSite.Proofs.Config.Printed

  Configurations written as overrides. The written value of a key is read as that value, one
  key at a time. As an override sets its own key only, the overrides of all keys leave nothing
  of the configuration that they are applied to, whatever their order.
-/
import DocSite.Proofs.Config.Overrides
import DocSite.Proofs.Text.Blank
import DocSite.Proofs.Text.Decimal
import DocSite.Proofs.Text.Lowercase

namespace DocSite

open Text

/-! ## Written values -/

/-- A number in decimal, with a minus sign if it is negative. -/
def signedDecimal (n : Int) : List Char :=
  if n < 0 then '-' :: decimal n.natAbs else decimal n.natAbs

/-- A text without white space at its ends. -/
structure IsTrimmed (s : String) : Prop where
  head : ∀ c ∈ s.toList.head?, isBlank c = false
  last : ∀ c ∈ s.toList.getLast?, isBlank c = false

namespace ConfigKey

/-- The text of a value of a key. Levels stand between commas, and no theme is no text. -/
def valueText (key : ConfigKey) (value : key.ValueType) : List Char :=
  match key, value with
  | .sourceDir, (s : String) | .outputDir, (s : String) | .baseUrl, (s : String)
  | .tocInput, (s : String) | .tocOutput, (s : String) => s.toList
  | .autoIds, (b : Bool) | .highlightEnable, (b : Bool) =>
    if b then "true".toList else "false".toList
  | .headerOffset, (n : Int) => signedDecimal n
  | .tocLevels, (levels : List Nat) => [','].intercalate (levels.map decimal)
  | .highlightTheme, (theme : Option String) => (theme.getD "").toList

/-- The override that sets a key to a value. -/
def print (key : ConfigKey) (value : key.ValueType) : String :=
  key.name ++ "=" ++ String.ofList (key.valueText value)

/-- A value that can be written: texts without white space at their ends, numbers in their
    bounds, and no theme without a name. -/
def Writable (key : ConfigKey) (value : key.ValueType) : Prop :=
  match key, value with
  | .sourceDir, (s : String) | .outputDir, (s : String) | .baseUrl, (s : String)
  | .tocInput, (s : String) | .tocOutput, (s : String) => IsTrimmed s
  | .autoIds, (_ : Bool) | .highlightEnable, (_ : Bool) => True
  | .headerOffset, (n : Int) => -128 ≤ n ∧ n ≤ 127
  | .tocLevels, (levels : List Nat) => ∀ level ∈ levels, level ≤ 255
  | .highlightTheme, (theme : Option String) => ∀ s, theme = some s → s ≠ "" ∧ IsTrimmed s

end ConfigKey

/-! ## Values read back -/

theorem isTrimmed_iff {s : String} : IsTrimmed s ↔ trim s.toList = s.toList := by
  rw [trim_eq_iff]
  constructor
  · intro h
    exact ⟨⟨[], [], by rw [List.nil_append, List.append_nil], by nofun, by nofun⟩, h.head, h.last⟩
  · intro h
    exact ⟨h.head, h.last⟩

/-- A run of digits is read as a number, if that is in its bounds. -/
theorem numberOf?_digits (bounds : Int × Int) {digits : List Char} (hne : digits ≠ [])
    (hdigits : ∀ c ∈ digits, c.isDigit) (hlow : bounds.1 ≤ digitsValue digits)
    (hhigh : digitsValue digits ≤ bounds.2) :
    numberOf? bounds digits = some (digitsValue digits) := by
  have hread := readDecimal?_eq_some hne hdigits
  have hbounds : (some (digitsValue digits : Int)).filter
      (fun n => bounds.1 ≤ n && n ≤ bounds.2) = some (digitsValue digits : Int) := by
    simp [hlow, hhigh]
  obtain ⟨d, rest, rfl⟩ := List.exists_cons_of_ne_nil hne
  have hd : d.isDigit := hdigits d List.mem_cons_self
  unfold numberOf?
  -- A digit is no sign, so that neither case with a sign arises.
  split
  · next hplus =>
    rw [(List.cons.inj hplus).1] at hd
    exact absurd hd (by decide)
  · next hminus =>
    rw [(List.cons.inj hminus).1] at hd
    exact absurd hd (by decide)
  · rw [hread]
    exact hbounds

theorem numberOf?_decimal (bounds : Int × Int) (n : Nat) (hlow : bounds.1 ≤ n)
    (hhigh : n ≤ bounds.2) : numberOf? bounds (decimal n) = some (n : Int) := by
  have hread := numberOf?_digits bounds (decimal_ne_nil n) (fun _ => isDigit_of_mem_decimal)
  rw [digitsValue_decimal] at hread
  exact hread hlow hhigh

theorem numberOf?_signedDecimal {n : Int} (hlow : -128 ≤ n) (hhigh : n ≤ 127) :
    numberOf? offsetBounds (signedDecimal n) = some n := by
  unfold signedDecimal
  split
  · next hneg =>
    have hvalue : -(n.natAbs : Int) = n := by omega
    generalize n.natAbs = m at hvalue ⊢
    rw [numberOf?, readDecimal?_decimal]
    simp [offsetBounds, hvalue, hlow, hhigh]
  · next hpos =>
    have hvalue : (n.natAbs : Int) = n := by omega
    have hread := numberOf?_decimal offsetBounds n.natAbs
    rw [hvalue] at hread
    exact hread hlow hhigh

/-- The pieces of a list are the numerals that it is written with. -/
theorem listPieces_numerals (levels : List Nat) :
    listPieces ([','].intercalate (levels.map decimal)) = levels.map decimal := by
  have htrim : (levels.map decimal).map trim = levels.map decimal := by
    rw [List.map_map]
    refine List.map_congr_left fun level _ => trim_eq_self fun c hc => ?_
    exact isBlank_eq_false_of_isDigit (isDigit_of_mem_decimal hc)
  have hkept : (levels.map decimal).filter (fun piece => !piece.isEmpty) = levels.map decimal := by
    refine List.filter_eq_self.mpr fun piece hpiece => ?_
    obtain ⟨level, -, rfl⟩ := List.mem_map.mp hpiece
    simpa using decimal_ne_nil level
  rcases eq_or_ne levels [] with rfl | hne
  · rfl
  · rw [listPieces, splitOn_numerals hne, htrim, hkept]

theorem mapM_levelOfText?_decimal {levels : List Nat} (h : ∀ level ∈ levels, level ≤ 255) :
    (levels.map decimal).mapM levelOfText? = some levels := by
  induction levels with
  | nil => rfl
  | cons level rest ih =>
    obtain ⟨hlevel, hrest⟩ := List.forall_mem_cons.mp h
    have hread : levelOfText? (decimal level) = some level := by
      rw [levelOfText?, numberOf?_decimal _ level (Int.natCast_nonneg level) (by
        show (level : Int) ≤ 255
        omega)]
      rfl
    rw [List.map_cons, List.mapM_cons, hread, ih hrest]
    rfl

theorem booleanOf?_text (b : Bool) :
    booleanOf? (if b then "true".toList else "false".toList) = some b := by
  have hlower : ∀ c ∈ "true".toList ++ "false".toList, IsLower c :=
    List.forall_iff_forall_mem.mp (by decide)
  obtain ⟨htrue, hfalse⟩ := List.forall_mem_append.mp hlower
  cases b with
  | true =>
    rw [if_pos rfl, booleanOf?, lowercase_eq_self htrue]
    rfl
  | false =>
    rw [if_neg Bool.false_ne_true, booleanOf?, lowercase_eq_self hfalse]
    rfl

theorem isBlank_of_mem_signedDecimal {n : Int} {c : Char} (h : c ∈ signedDecimal n) :
    isBlank c = false := by
  have hdigit : ∀ {m : Nat} {c : Char}, c ∈ decimal m → isBlank c = false := fun hc =>
    isBlank_eq_false_of_isDigit (isDigit_of_mem_decimal hc)
  unfold signedDecimal at h
  split at h
  · rcases List.mem_cons.mp h with rfl | hc
    · decide
    · exact hdigit hc
  · exact hdigit h

namespace ConfigKey

variable {key : ConfigKey} {value : key.ValueType}

/-- Nothing is trimmed off the text of a value. -/
theorem trim_valueText (h : key.Writable value) :
    trim (key.valueText value) = key.valueText value := by
  cases key with
  | sourceDir | outputDir | baseUrl | tocInput | tocOutput => exact isTrimmed_iff.mp h
  | autoIds | highlightEnable => cases value <;> decide
  | headerOffset => exact trim_eq_self fun _ => isBlank_of_mem_signedDecimal
  | tocLevels => exact trim_eq_self fun _ => isBlank_of_mem_numerals
  | highlightTheme =>
    cases value with
    | none => rfl
    | some theme => exact isTrimmed_iff.mp (h theme rfl).2

/-- The text of a value is read as that value. -/
theorem readText?_valueText (h : key.Writable value) :
    key.readText? (key.valueText value) = some value := by
  cases key with
  | sourceDir | outputDir | baseUrl | tocInput | tocOutput =>
    exact congrArg some (String.ofList_toList)
  | autoIds | highlightEnable => exact booleanOf?_text value
  | headerOffset => exact numberOf?_signedDecimal h.1 h.2
  | tocLevels =>
    show (listPieces ([','].intercalate (List.map decimal value))).mapM levelOfText? = some value
    rw [listPieces_numerals, mapM_levelOfText?_decimal h]
  | highlightTheme =>
    cases value with
    | none => rfl
    | some theme =>
      have hne : theme.toList ≠ [] := fun hnil =>
        (h theme rfl).1 (String.toList_inj.mp (hnil.trans rfl))
      show some (if theme.toList.isEmpty then none else some (String.ofList theme.toList)) = _
      rw [List.isEmpty_eq_false_iff.mpr hne, String.ofList_toList]
      rfl

/-- The override that sets a key to a value does so. -/
theorem assigned?_print (h : key.Writable value) :
    key.assigned? (key.print value) = some value := by
  have hplain : ∀ c ∈ key.name.toList, c ≠ '=' ∧ isBlank c = false := by
    cases key <;> exact List.forall_iff_forall_mem.mp (by decide)
  have hmark : '=' ∉ key.name.toList := fun hmem => (hplain _ hmem).1 rfl
  have hname : String.ofList (trim key.name.toList) = key.name := by
    rw [trim_eq_self fun c hc => (hplain c hc).2, String.ofList_toList]
  have hchars : (key.print value).toList = key.name.toList ++ '=' :: key.valueText value := by
    have hvalue : (String.ofList (key.valueText value)).toList = key.valueText value :=
      String.toList_ofList
    rw [print, String.toList_append, String.toList_append, hvalue, List.append_assoc]
    rfl
  refine assigned?_eq_some_iff.mpr ⟨key.name.toList, key.valueText value, ?_, hname, ?_⟩
  · rw [hchars]
    exact splitOnce_append hmark _
  · rw [trim_valueText h, readText?_valueText h]

end ConfigKey

/-! ## Written configurations -/

namespace Config

/-- The overrides that set each key to its value in a configuration. -/
def overrides (c : Config) : List String := ConfigKey.all.map fun key => key.print (c.get key)

/-- A configuration whose values can be written. -/
def Writable (c : Config) : Prop := ∀ key : ConfigKey, key.Writable (c.get key)

variable {c : Config}

theorem isSetBy_print (h : c.Writable) (key other : ConfigKey) :
    other.isSetBy (key.print (c.get key)) = decide (key = other) := by
  have hkey : key.isSetBy (key.print (c.get key)) = true :=
    ConfigKey.isSetBy_iff.mpr ⟨_, ConfigKey.assigned?_print (h key)⟩
  rcases eq_or_ne key other with rfl | hne
  · rw [hkey, decide_eq_true rfl]
  · rw [ConfigKey.isSetBy_eq_false hne.symm hkey, decide_eq_false hne]

/-- Among the overrides of a configuration in any order there is one of each key. -/
theorem lastOverride?_of_perm (h : c.Writable) {texts : List String}
    (hperm : texts.Perm c.overrides) (key : ConfigKey) :
    key.lastOverride? texts = some (key.print (c.get key)) := by
  have hone : c.overrides.filter key.isSetBy = [key.print (c.get key)] := by
    have hall : ConfigKey.all.filter (fun other => decide (other = key)) = [key] := by
      cases key <;> rfl
    have hset : ConfigKey.all.filter (key.isSetBy ∘ fun other => other.print (c.get other)) =
        ConfigKey.all.filter fun other => decide (other = key) :=
      List.filter_congr fun other _ => isSetBy_print h other key
    rw [overrides, List.filter_map, hset, hall, List.map_singleton]
  -- What is set of the key is a list of one, and so in the same order whatever that of all is.
  have hfiltered := hperm.filter key.isSetBy
  rw [hone] at hfiltered
  rw [ConfigKey.lastOverride?, List.perm_singleton.mp hfiltered]
  rfl

/-- A configuration whose values can be written is the result of its overrides, in any order
    and for any configuration that they are applied to. -/
theorem applyOverrides_overrides (h : c.Writable) {texts : List String}
    (hperm : texts.Perm c.overrides) (start : Config) :
    start.applyOverrides texts = (none, c) := by
  have hall : ∀ text ∈ texts, IsOverride text := by
    intro text htext
    obtain ⟨key, -, rfl⟩ := List.mem_map.mp (hperm.mem_iff.mp htext)
    exact ⟨key, ConfigKey.isSetBy_iff.mpr ⟨_, ConfigKey.assigned?_print (h key)⟩⟩
  refine Prod.ext ((applyOverrides_eq_none_iff start texts).mpr hall) (ext_get fun key => ?_)
  rw [get_applyOverrides hall, lastOverride?_of_perm h hperm, Option.bind_some,
    ConfigKey.assigned?_print (h key), Option.getD_some]

/-- A theme that was set is cleared, and marks in a value stand for themselves. -/
theorem applyOverrides_overrides_marks :
    let c : Config :=
      { sourceDir := "a=b", outputDir := "", baseUrl := "/x,y=/",
        markdown := { autoIds := false, headerOffset := -128, tocLevels := [255, 0] } }
    let start : Config := { markdown := { highlight := { theme := some "Nord" } } }
    let texts := ["markdown.highlight.theme=", "markdown.highlight.enable=true",
      "markdown.toc_levels=255,0", "markdown.header_offset=-128", "markdown.auto_ids=false",
      "toc_output=HelpTOC.json", "toc_input=_SUMMARY.md", "base_url=/x,y=/", "output_dir=",
      "source_dir=a=b"]
    c.Writable ∧ texts.Perm c.overrides ∧ start.applyOverrides texts = (none, c) := by
  intro c start texts
  have hc : c.Writable := by
    intro key
    cases key with
    | sourceDir | outputDir | baseUrl | tocInput | tocOutput =>
      exact isTrimmed_iff.mpr (by decide)
    | autoIds | highlightEnable => trivial
    | headerOffset => exact ⟨by decide, by decide⟩
    | tocLevels => exact List.forall_mem_cons.mpr ⟨by decide, by decide⟩
    | highlightTheme => exact nofun
  have hperm : texts.Perm c.overrides := by
    have hreverse : texts.reverse = c.overrides := by decide +kernel
    exact hreverse ▸ (List.reverse_perm texts).symm
  exact ⟨hc, hperm, applyOverrides_overrides hc hperm start⟩

end Config

end DocSite
