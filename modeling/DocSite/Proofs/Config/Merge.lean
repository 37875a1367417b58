/-
  DocSite.Proofs.Config.Merge

  The algebra of merges. Key by key a merge is a choice between two values, so that its
  laws are those of the choice: it associates, the default configuration changes nothing
  on the right and only the spelling of default paths on the left, and a configuration
  that is merged into itself stays as it is. Files may be merged in groups, therefore.
-/
import DocSite.Proofs.Config.Keys

namespace DocSite

/-! ## Equal configurations -/

theorem ConfigKey.same_comm (key : ConfigKey) (a b : key.ValueType) :
    key.same a b = key.same b a := by
  cases key <;> exact Bool.beq_comm

namespace Config

/-- Configurations are the same if their paths have the same components and their other
    values are equal. -/
def Same (a b : Config) : Prop := ∀ key : ConfigKey, key.same (a.get key) (b.get key) = true

/-! ## Laws -/

theorem merge_assoc (a b c : Config) : (a.merge b).merge c = a.merge (b.merge c) := by
  refine ext_get fun key => ?_
  simp only [get_merge]
  -- If the last value counts it counts on both sides, and if not the first two are left.
  by_cases hlast : key.isDefault (c.get key) = true
  · rw [if_pos hlast, if_pos hlast]
  · rw [if_neg hlast, if_neg hlast, if_neg hlast]

theorem merge_default (a : Config) : a.merge {} = a := by
  refine ext_get fun key => ?_
  rw [get_merge]
  exact if_pos key.isDefault_default

theorem merge_self (a : Config) : a.merge a = a := by
  refine ext_get fun key => ?_
  rw [get_merge, ite_self]

/-- What counts as the default is replaced by the default, with which it is the same. -/
theorem same_default_merge (a : Config) : (({} : Config).merge a).Same a := by
  intro key
  rw [get_merge]
  split
  · next hdefault =>
    rw [key.same_comm]
    exact hdefault
  · exact key.same_self (a.get key)

/-- A merge has each value from one of the two. -/
theorem get_merge_eq_or (a b : Config) (key : ConfigKey) :
    (a.merge b).get key = a.get key ∨ (a.merge b).get key = b.get key := by
  rw [get_merge]
  split
  · exact .inl rfl
  · exact .inr rfl

instance : Std.Associative merge := ⟨merge_assoc⟩

/-- Merging is a monoid up to the spelling of default paths, and idempotent, and makes up
    no values. Configurations that are merged in order may be merged in groups. -/
theorem merge_monoid (a b c : Config) :
    (a.merge b).merge c = a.merge (b.merge c) ∧ a.merge {} = a ∧ a.merge a = a ∧
      (({} : Config).merge a).Same a ∧
      (∀ key, (a.merge b).get key = a.get key ∨ (a.merge b).get key = b.get key) ∧
      ∀ later : List Config, later.foldl merge (a.merge b) = a.merge (later.foldl merge b) :=
  ⟨merge_assoc a b c, merge_default a, merge_self a, same_default_merge a, get_merge_eq_or a b,
    fun _ => List.foldl_assoc⟩

/-- The default path counts as such in another spelling, which a merge does not keep. -/
example : (({} : Config).merge { sourceDir := "./" }).sourceDir = "." := by decide +kernel

end Config

end DocSite
