/-
  DocSite.Proofs.Config.Keys

  Configurations as values of their keys. A merge is told key by key, and so is a chain
  of merges: what counts is the last value that is not the default.
-/
import DocSite.Config.Merge
import DocSite.Config.Override

namespace DocSite

/-! ## The values of keys -/

namespace ConfigKey

/-- What the values of a key are. -/
abbrev ValueType : ConfigKey → Type
  | .sourceDir | .outputDir | .baseUrl | .tocInput | .tocOutput => String
  | .autoIds | .highlightEnable => Bool
  | .headerOffset => Int
  | .tocLevels => List Nat
  | .highlightTheme => Option String

/-- Whether two values of a key count as one: paths with the same components do, other
    values only where they are equal. -/
def same : (key : ConfigKey) → key.ValueType → key.ValueType → Bool
  | .sourceDir | .outputDir | .tocInput | .tocOutput =>
    fun (a b : String) => Path.same a.toList b.toList
  | .baseUrl => fun (a b : String) => a == b
  | .autoIds | .highlightEnable => fun (a b : Bool) => a == b
  | .headerOffset => fun (a b : Int) => a == b
  | .tocLevels => fun (a b : List Nat) => a == b
  | .highlightTheme => fun (a b : Option String) => a == b

theorem same_self (key : ConfigKey) (value : key.ValueType) : key.same value value = true := by
  cases key <;> exact BEq.refl _

end ConfigKey

/-- The value of a key. -/
def Config.get (c : Config) : (key : ConfigKey) → key.ValueType
  | .sourceDir => c.sourceDir
  | .outputDir => c.outputDir
  | .baseUrl => c.baseUrl
  | .tocInput => c.tocInput
  | .tocOutput => c.tocOutput
  | .autoIds => c.markdown.autoIds
  | .headerOffset => c.markdown.headerOffset
  | .tocLevels => c.markdown.tocLevels
  | .highlightEnable => c.markdown.highlight.enable
  | .highlightTheme => c.markdown.highlight.theme

/-- A configuration is told by the values of its keys. -/
theorem Config.ext_get {a b : Config} (h : ∀ key, a.get key = b.get key) : a = b := by
  obtain ⟨_, _, _, _, _, ⟨_, _, _, ⟨_, _⟩⟩⟩ := a
  obtain ⟨_, _, _, _, _, ⟨_, _, _, ⟨_, _⟩⟩⟩ := b
  simp only [Config.mk.injEq, MarkdownConfig.mk.injEq, HighlightOptions.mk.injEq]
  exact ⟨h .sourceDir, h .outputDir, h .baseUrl, h .tocInput, h .tocOutput, h .autoIds,
    h .headerOffset, h .tocLevels, h .highlightEnable, h .highlightTheme⟩

namespace ConfigKey

/-- The value of a key that nothing sets. -/
def default (key : ConfigKey) : key.ValueType := ({} : Config).get key

/-- Whether a value counts as the default. -/
def isDefault (key : ConfigKey) (value : key.ValueType) : Bool := key.same value key.default

@[simp] theorem isDefault_default (key : ConfigKey) : key.isDefault key.default = true :=
  key.same_self key.default

end ConfigKey

/-! ## Merges -/

theorem laterValue_eq {α : Type} [DecidableEq α] [BEq α] [LawfulBEq α]
    (default earlier later : α) :
    laterValue default earlier later = if later == default then earlier else later := by
  simp only [laterValue, beq_iff_eq]

/-- A merge takes the later value of a key, unless that counts as the default. -/
theorem Config.get_merge (a b : Config) (key : ConfigKey) :
    (a.merge b).get key = if key.isDefault (b.get key) then a.get key else b.get key := by
  cases key with
  | sourceDir | outputDir | tocInput | tocOutput => rfl
  | baseUrl => exact laterValue_eq _ a.baseUrl b.baseUrl
  | autoIds => exact laterValue_eq _ a.markdown.autoIds b.markdown.autoIds
  | headerOffset => exact laterValue_eq _ a.markdown.headerOffset b.markdown.headerOffset
  | tocLevels => exact laterValue_eq _ a.markdown.tocLevels b.markdown.tocLevels
  | highlightEnable =>
    exact laterValue_eq _ a.markdown.highlight.enable b.markdown.highlight.enable
  -- A theme is replaced where the later one is set, and the default is that none is.
  | highlightTheme =>
    change (b.markdown.highlight.theme <|> a.markdown.highlight.theme) =
      if b.markdown.highlight.theme == none then a.markdown.highlight.theme
      else b.markdown.highlight.theme
    cases b.markdown.highlight.theme <;> rfl

namespace ConfigKey

/-- The last of the values that does not count as the default. -/
def lastChange? (key : ConfigKey) (values : List key.ValueType) : Option key.ValueType :=
  (values.filter fun value => !key.isDefault value).getLast?

variable {key : ConfigKey}

/-- An earlier value counts where none of the later ones does. -/
theorem getD_lastChange?_cons (value : key.ValueType) (values : List key.ValueType)
    (earlier : key.ValueType) :
    (key.lastChange? (value :: values)).getD earlier =
      (key.lastChange? values).getD (if key.isDefault value then earlier else value) := by
  cases hvalue : key.isDefault value with
  | true =>
    rw [lastChange?, List.filter_cons_of_neg (by simp [hvalue])]
    rfl
  | false =>
    rw [lastChange?, List.filter_cons_of_pos (by simp [hvalue]), List.getLast?_cons]
    rfl

theorem isDefault_of_lastChange?_eq_none {values : List key.ValueType} {value : key.ValueType}
    (h : key.lastChange? values = none) (hmem : value ∈ values) : key.isDefault value = true := by
  rw [lastChange?, List.getLast?_eq_none_iff, List.filter_eq_nil_iff] at h
  simpa using h value hmem

end ConfigKey

end DocSite
