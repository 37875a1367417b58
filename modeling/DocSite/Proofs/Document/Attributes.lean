/-
  DocSite.Proofs.Document.Attributes

  Where a key stands among the attributes of a node.
-/
import DocSite.Document.Attributes
import Mathlib.Data.List.Nodup

namespace DocSite.Attributes

variable {attributes : Attributes} {key value : String}

/-- A key with a value stands once. -/
theorem exists_entries_of_get? (h : attributes.get? key = some value) :
    ∃ before after, attributes.entries = before ++ (key, value) :: after ∧
      key ∉ (before ++ after).map Prod.fst := by
  obtain ⟨before, after, hentries, -⟩ := List.lookup_eq_some_iff.mp h
  refine ⟨before, after, hentries, ?_⟩
  have hnodup := attributes.nodup_keys
  rw [hentries, List.map_append, List.map_cons, List.nodup_middle, List.nodup_cons] at hnodup
  rw [List.map_append]
  exact hnodup.1

/-- A key without a value is added behind the others. -/
theorem entries_insert_of_none (h : attributes.get? key = none) (value : String) :
    (attributes.insert key value).entries = attributes.entries ++ [(key, value)] := by
  have hset : ∀ entries : List (String × String), entries.lookup key = none →
      setEntry key value entries = entries ++ [(key, value)] := by
    intro entries hnone
    induction entries with
    | nil => rfl
    | cons entry rest ih =>
      obtain ⟨hne, hrest⟩ := List.forall_mem_cons.mp (List.lookup_eq_none_iff.mp hnone)
      rw [setEntry, if_neg (fun heq => by simp [heq] at hne),
        ih (List.lookup_eq_none_iff.mpr hrest), List.cons_append]
  exact hset _ h

theorem not_mem_keys_before {before after : List (String × String)}
    (h : attributes.entries = before ++ (key, value) :: after) : key ∉ before.map Prod.fst := by
  have hnodup := attributes.nodup_keys
  rw [h, List.map_append, List.map_cons, List.nodup_middle, List.nodup_cons, List.mem_append,
    not_or] at hnodup
  exact hnodup.1.1

theorem get?_of_entries {before after : List (String × String)}
    (h : attributes.entries = before ++ (key, value) :: after) :
    attributes.get? key = some value := by
  refine List.lookup_eq_some_iff.mpr ⟨before, after, h, fun entry hentry => ?_⟩
  rw [bne_iff_ne]
  rintro rfl
  exact not_mem_keys_before h (List.mem_map_of_mem hentry)

/-- The value of a present key is replaced where it stands. -/
theorem entries_insert_of_entries {before after : List (String × String)}
    (h : attributes.entries = before ++ (key, value) :: after) (other : String) :
    (attributes.insert key other).entries = before ++ (key, other) :: after := by
  have hset : ∀ before : List (String × String), key ∉ before.map Prod.fst →
      setEntry key other (before ++ (key, value) :: after) = before ++ (key, other) :: after := by
    intro before hnone
    induction before with
    | nil => exact if_pos rfl
    | cons entry before ih =>
      rw [List.map_cons, List.mem_cons, not_or] at hnone
      rw [List.cons_append, setEntry, if_neg fun heq => hnone.1 heq.symm, ih hnone.2,
        List.cons_append]
  calc setEntry key other attributes.entries
      = setEntry key other (before ++ (key, value) :: after) := by rw [h]
    _ = before ++ (key, other) :: after := hset before (not_mem_keys_before h)

/-- Setting a key to the value that it has changes nothing. -/
theorem insert_eq_self (h : attributes.get? key = some value) :
    attributes.insert key value = attributes := by
  obtain ⟨before, after, hentries, -⟩ := exists_entries_of_get? h
  have hinsert := entries_insert_of_entries hentries value
  rw [← hentries] at hinsert
  cases attributes
  simpa [insert] using hinsert

end DocSite.Attributes
