/-
  DocSite.Document.Attributes

  Attributes of document nodes: pairs of a key and a value in the order in which
  the keys were first set. No key occurs twice.
-/
namespace DocSite

/-- The entries after a key is set: the value of a present key is replaced in
    place, a new key goes to the end. -/
def setEntry (key value : String) : List (String × String) → List (String × String)
  | [] => [(key, value)]
  | (k, v) :: rest => if k = key then (k, value) :: rest else (k, v) :: setEntry key value rest

theorem keys_setEntry (key value : String) (entries : List (String × String)) :
    (setEntry key value entries).map Prod.fst =
      if key ∈ entries.map Prod.fst then entries.map Prod.fst
      else entries.map Prod.fst ++ [key] := by
  induction entries with
  | nil => simp [setEntry]
  | cons e rest ih =>
    obtain ⟨k, v⟩ := e
    simp only [setEntry]
    split
    · next h => simp [h]
    · next h =>
      simp only [List.map_cons, ih, List.mem_cons]
      have : key ≠ k := fun hk => h hk.symm
      split <;> simp_all

theorem nodup_keys_setEntry (key value : String) {entries : List (String × String)}
    (h : (entries.map Prod.fst).Nodup) : ((setEntry key value entries).map Prod.fst).Nodup := by
  rw [keys_setEntry]
  split
  · exact h
  · next hk =>
    rw [List.nodup_append]
    exact ⟨h, by simp, by simpa using fun a v hm heq => hk (by simp [← heq]; exact ⟨v, hm⟩)⟩

/-- Setting a key changes the value of that key and of no other. -/
theorem lookup_setEntry (key value other : String) (entries : List (String × String)) :
    (setEntry key value entries).lookup other =
      if other = key then some value else entries.lookup other := by
  induction entries with
  | nil =>
    by_cases h : other = key
    · simp [setEntry, h]
    · have hb : (other == key) = false := beq_eq_false_iff_ne.mpr h
      simp [setEntry, List.lookup_cons, h, hb]
  | cons e rest ih =>
    obtain ⟨k, v⟩ := e
    by_cases h : other = k
    · subst h
      by_cases hk : other = key <;> simp [setEntry, hk]
    · have hb : (other == k) = false := beq_eq_false_iff_ne.mpr h
      by_cases hk : k = key
      · subst hk
        simp [setEntry, List.lookup_cons, h, hb]
      · simp [setEntry, List.lookup_cons, hb, hk, ih]

/-- An insertion-ordered map from keys to values. -/
structure Attributes where
  entries : List (String × String)
  nodup_keys : (entries.map Prod.fst).Nodup
  deriving DecidableEq

namespace Attributes

/-- No attributes. -/
def empty : Attributes := ⟨[], by simp⟩

instance : Inhabited Attributes := ⟨empty⟩

instance : EmptyCollection Attributes := ⟨empty⟩

/-- Sets a key to a value. -/
def insert (attrs : Attributes) (key value : String) : Attributes :=
  ⟨setEntry key value attrs.entries, nodup_keys_setEntry key value attrs.nodup_keys⟩

/-- The value of a key. -/
def get? (attrs : Attributes) (key : String) : Option String := attrs.entries.lookup key

/-- Setting a key changes the value of that key and of no other. -/
theorem get?_insert (attrs : Attributes) (key value other : String) :
    (attrs.insert key value).get? other = if other = key then some value else attrs.get? other :=
  lookup_setEntry key value other attrs.entries

/-- Sets the keys of a list one after the other. -/
def ofList (entries : List (String × String)) : Attributes :=
  entries.foldl (fun attrs e => attrs.insert e.1 e.2) empty

/-- Sets a key when there is a value for it. -/
def insertSome (attrs : Attributes) (key : String) : Option String → Attributes
  | some value => attrs.insert key value
  | none => attrs

end Attributes

end DocSite
