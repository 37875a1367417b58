/-
  DocSite.Proofs.Manifest.RoundTrip

  A manifest that has been written is read back. An entry is written as those of its
  fields that are set. What an entry's record gives for a field is therefore the field,
  or nothing where it is not set, which is what the field's default stands for.
-/
import DocSite.Manifest.Json
import DocSite.Proofs.Json.RoundTrip

namespace DocSite

/-! ## Records of fields that may be missing -/

namespace Value

/-- The members of a record for the fields that are set. -/
def present (fields : List (String × Option Value)) : List (String × Value) :=
  fields.filterMap fun field => field.2.map (field.1, ·)

theorem present_cons (name : String) (value? : Option Value)
    (rest : List (String × Option Value)) :
    present ((name, value?) :: rest) = (value?.map (name, ·)).toList ++ present rest := by
  cases value? <;> rfl

/-- The members are named as the fields are, in their order. -/
theorem map_fst_present_sublist (fields : List (String × Option Value)) :
    ((present fields).map Prod.fst).Sublist (fields.map Prod.fst) := by
  induction fields with
  | nil => exact List.Sublist.slnil
  | cons field rest ih =>
    obtain ⟨name, value?⟩ := field
    rw [present_cons]
    cases value? with
    | none => exact ih.cons name
    | some value => exact ih.cons_cons name

/-- A record with members for some of the fields gives these members. -/
theorem fields?_present {fields : List (String × Option Value)} (exact : Bool)
    (h : (fields.map Prod.fst).Nodup) :
    (Value.record (present fields)).fields? exact (fields.map Prod.fst)
      = some (present fields) := by
  have hsublist := map_fst_present_sublist fields
  have hknown : (present fields).filter (fun m => (fields.map Prod.fst).contains m.1)
      = present fields := by
    rw [List.filter_eq_self]
    intro member hmember
    rw [List.contains_iff_mem]
    exact hsublist.subset (List.mem_map_of_mem hmember)
  rw [Value.fields?, hknown]
  exact if_pos (h.sublist hsublist)

/-- A field is looked up as it was set. -/
theorem lookup_present {fields : List (String × Option Value)} (h : (fields.map Prod.fst).Nodup)
    (name : String) : (present fields).lookup name = (fields.lookup name).join := by
  induction fields with
  | nil => rfl
  | cons field rest ih =>
    obtain ⟨own, value?⟩ := field
    obtain ⟨hown, hrest⟩ := List.nodup_cons.mp h
    rw [present_cons, List.lookup_cons (k := own)]
    cases hname : name == own with
    | false =>
      cases value? with
      | none => exact ih hrest
      | some value =>
        rw [Option.map_some, Option.toList_some, List.singleton_append, List.lookup_cons, hname]
        exact ih hrest
    | true =>
      cases value? with
      | none =>
        -- The field is not set, and no other field has its name.
        rw [Option.map_none, Option.toList_none, List.nil_append]
        refine List.lookup_eq_none_iff.mpr fun member hmember => ?_
        rw [bne_iff_ne]
        rintro rfl
        have hmem := (map_fst_present_sublist rest).subset (List.mem_map_of_mem hmember)
        exact hown (beq_iff_eq.mp hname ▸ hmem)
      | some value =>
        rw [Option.map_some, Option.toList_some, List.singleton_append, List.lookup_cons, hname]
        rfl

theorem mem_present {fields : List (String × Option Value)} {member : String × Value} :
    member ∈ present fields ↔ (member.1, some member.2) ∈ fields := by
  rw [present, List.mem_filterMap]
  constructor
  · rintro ⟨⟨name, value?⟩, hfield, hmember⟩
    obtain ⟨value, rfl, rfl⟩ := Option.map_eq_some_iff.mp hmember
    exact hfield
  · intro hfield
    exact ⟨_, hfield, rfl⟩

theorem plainMembers_iff {members : List (String × Value)} :
    PlainMembers members ↔ ∀ member ∈ members, member.2.IsPlain := by
  induction members with
  | nil => exact iff_of_true trivial nofun
  | cons member rest ih =>
    obtain ⟨name, value⟩ := member
    rw [PlainMembers, ih, List.forall_mem_cons]

/-- A record is plain if its fields that are set are. -/
theorem isPlain_present {fields : List (String × Option Value)}
    (h : ∀ field ∈ fields, ∀ value ∈ field.2, value.IsPlain) :
    (Value.record (present fields)).IsPlain := by
  rw [IsPlain, plainMembers_iff]
  intro member hmember
  exact h _ (mem_present.mp hmember) _ rfl

theorem size_le_sizeMembers {member : String × Value} {members : List (String × Value)}
    (h : member ∈ members) : member.2.size ≤ sizeMembers members := by
  induction members with
  | nil => nomatch h
  | cons first rest ih =>
    obtain ⟨name, value⟩ := first
    rw [sizeMembers]
    rcases List.mem_cons.mp h with rfl | hrest
    · exact Nat.le_add_right _ _
    · exact Nat.le_trans (ih hrest) (Nat.le_add_left _ _)

end Value

section Fields

variable {α : Type} {fields : List (String × Option Value)} {name : String}

/-- A field that is always set is read. -/
theorem fieldOf?_present {value : Value} (h : (fields.map Prod.fst).Nodup)
    (hfield : fields.lookup name = some (some value)) (read : Value → Option α) :
    fieldOf? (Value.present fields) name read = read value := by
  rw [fieldOf?, Value.lookup_present h, hfield]
  rfl

/-- A field that may be missing is read where it is set, and has its default otherwise. -/
theorem fieldOr_present {value? : Option Value} (h : (fields.map Prod.fst).Nodup)
    (hfield : fields.lookup name = some value?) (default : α) (read : Value → Option α) :
    fieldOr (Value.present fields) name default read = value?.elim (some default) read := by
  rw [fieldOr, Value.lookup_present h, hfield]
  cases value? <;> rfl

/-- What is set or not is read back as that. -/
theorem fieldOr_nullable {a? : Option α} {write : α → Value} {read : Value → Option α}
    (h : (fields.map Prod.fst).Nodup) (hfield : fields.lookup name = some (a?.map write))
    (hread : ∀ a ∈ a?, Value.asNullable? read (write a) = some (some a)) :
    fieldOr (Value.present fields) name none (Value.asNullable? read) = some a? := by
  rw [fieldOr_present h hfield]
  cases a? with
  | none => rfl
  | some a => exact hread a rfl

end Fields

/-! ## Entries -/

namespace ManifestItem

open Value

/-- The fields of an entry that is written. -/
def fields (item : ManifestItem) : List (String × Option Value) :=
  [("id", item.id.map .text),
    ("title", some (.text item.title)),
    ("url", item.url.map .text),
    ("type", item.kind.map fun kind => .text kind.name),
    ("is_external", if item.isExternal then some (.boolean true) else none),
    ("pages", item.pages.map fun pages => .list (manifestValues pages))]

/-- An entry is written as its fields that are set. -/
theorem toValue_eq (item : ManifestItem) : item.toValue = .record (present item.fields) := by
  obtain ⟨id, title, url, kind, isExternal, pages⟩ := item
  rw [toValue]
  cases id <;> cases url <;> cases kind <;> cases isExternal <;> cases pages <;> rfl

theorem nodup_fields (item : ManifestItem) : (item.fields.map Prod.fst).Nodup := by
  have hnames : item.fields.map Prod.fst = manifestFields := rfl
  rw [hnames]
  decide

mutual

/-- A written entry has no literals. -/
theorem isPlain_toValue : ∀ item : ManifestItem, item.toValue.IsPlain
  | ⟨id, title, url, kind, isExternal, pages⟩ => by
    have hpages : ∀ value ∈ pages.map fun items => Value.list (manifestValues items),
        value.IsPlain := by
      cases pages with
      | none => nofun
      | some items =>
        rintro value ⟨⟩
        exact allPlain_manifestValues items
    rw [toValue_eq]
    apply isPlain_present
    simp only [fields, List.forall_mem_cons]
    refine ⟨?_, ?_, ?_, ?_, ?_, hpages, nofun⟩
    · cases id <;> rintro value ⟨⟩; trivial
    · rintro value ⟨⟩; trivial
    · cases url <;> rintro value ⟨⟩; trivial
    · cases kind <;> rintro value ⟨⟩; trivial
    · cases isExternal <;> rintro value ⟨⟩; trivial

theorem allPlain_manifestValues : ∀ items : List ManifestItem, AllPlain (manifestValues items)
  | [] => by
    rw [manifestValues]
    trivial
  | item :: rest => by
    rw [manifestValues]
    exact ⟨isPlain_toValue item, allPlain_manifestValues rest⟩

end

/-- An entry's record is read back if the records of the entries below it are. -/
theorem ofValue?_present {item : ManifestItem} {depth : Nat}
    (hpages : ∀ items ∈ item.pages,
      (manifestValues items).mapM (ManifestItem.ofValue? depth) = some items) :
    ManifestItem.ofValue? (depth + 1) (.record (present item.fields)) = some item := by
  have hnodup := item.nodup_fields
  have hfields : (Value.record (present item.fields)).fields? true manifestFields
      = some (present item.fields) := fields?_present true hnodup
  -- Field by field: each one is found under its name, or has its default if it is left out.
  have hid : fieldOr (present item.fields) "id" none (asNullable? asText?) = some item.id :=
    fieldOr_nullable hnodup rfl fun _ _ => rfl
  have htitle : fieldOf? (present item.fields) "title" asText? = some item.title := by
    rw [fieldOf?_present hnodup rfl]
    rfl
  have hurl : fieldOr (present item.fields) "url" none (asNullable? asText?) = some item.url :=
    fieldOr_nullable hnodup rfl fun _ _ => rfl
  have hkind : fieldOr (present item.fields) "type" none (asNullable? ItemKind.ofValue?)
      = some item.kind :=
    fieldOr_nullable hnodup rfl fun kind _ => by cases kind <;> rfl
  have hexternal : fieldOr (present item.fields) "is_external" false asBoolean?
      = some item.isExternal := by
    rw [fieldOr_present hnodup rfl]
    cases item.isExternal <;> rfl
  have hbelow : fieldOr (present item.fields) "pages" none
      (asNullable? (asList? (ManifestItem.ofValue? depth))) = some item.pages :=
    fieldOr_nullable hnodup rfl fun items hitems => congrArg (Option.map some) (hpages items hitems)
  rw [ManifestItem.ofValue?]
  simp only [hfields, hid, htitle, hurl, hkind, hexternal, hbelow, Option.bind_eq_bind,
    Option.bind_some]
  cases item
  rfl

mutual

/-- A written entry is read back, with fuel for all that is written. -/
theorem ofValue?_toValue : ∀ (item : ManifestItem) (depth : Nat), item.toValue.size ≤ depth →
    ManifestItem.ofValue? depth item.toValue = some item
  | item, 0, h => by
    rw [toValue_eq, Value.size] at h
    omega
  | ⟨id, title, url, kind, isExternal, pages⟩, depth + 1, h => by
    rw [toValue_eq] at h ⊢
    refine ofValue?_present fun items hitems => mapM_manifestValues items depth ?_
    have hmem : ("pages", Value.list (manifestValues items))
        ∈ present (fields ⟨id, title, url, kind, isExternal, pages⟩) :=
      mem_present.mpr (by simp [fields, show pages = some items from hitems])
    have hbelow : 1 + Value.sizeAll (manifestValues items) ≤ _ := size_le_sizeMembers hmem
    have hsize : 1 + sizeMembers _ ≤ depth + 1 := h
    omega

/-- Written entries are read back. -/
theorem mapM_manifestValues : ∀ (items : List ManifestItem) (depth : Nat),
    Value.sizeAll (manifestValues items) ≤ depth →
    (manifestValues items).mapM (ManifestItem.ofValue? depth) = some items
  | [], _, _ => by
    rw [manifestValues]
    rfl
  | item :: rest, depth, h => by
    rw [manifestValues, Value.sizeAll] at h
    rw [manifestValues, List.mapM_cons, ofValue?_toValue item depth (by omega),
      mapM_manifestValues rest depth (by omega)]
    rfl

end

end ManifestItem

/-- **Manifests are read back.** The text of every list of entries is read as this list,
    whatever is set in them and whatever their texts hold. An entry's record has a member
    for its pages exactly if there is a list of them, be it empty, and for leading outside
    exactly if the entry does. -/
theorem readManifest?_manifestJson (items : List ManifestItem) :
    readManifest? (manifestJson items) = some items ∧
      ∀ item : ManifestItem, ∃ members, item.toValue = .record members ∧
        (members.lookup "pages").isSome = item.pages.isSome ∧
        (members.lookup "is_external").isSome = item.isExternal := by
  constructor
  · have hplain : (Value.list (manifestValues items)).IsPlain :=
      ManifestItem.allPlain_manifestValues items
    have hsize : Value.sizeAll (manifestValues items) ≤ (Value.list (manifestValues items)).size :=
      Nat.le_add_left _ 1
    rw [readManifest?, manifestJson, String.toList_ofList, Json.read?_print hplain,
      Option.bind_some]
    exact ManifestItem.mapM_manifestValues items _ hsize
  · intro item
    refine ⟨_, item.toValue_eq, ?_, ?_⟩
    all_goals rw [Value.lookup_present item.nodup_fields]
    · exact Option.isSome_map
    · change (if item.isExternal then some (Value.boolean true) else none).isSome = _
      cases item.isExternal <;> rfl

end DocSite
