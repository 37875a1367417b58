/-
  DocSite.Proofs.Manifest.Sections

  What a manifest loses with its empty sections: the headers that another header directly
  follows, and no other entry. Two parts of a manifest meet at one place, so that of what is
  left of the first part at most the last entry is lost, to a header at the start of the
  second. This is why parts can be collapsed on their own, and why one pass does it that takes
  back no more than its last entry.
-/
import DocSite.Proofs.Manifest.Summary
import Mathlib.Data.List.Chain

namespace DocSite

open ManifestItem

/-! ## Headers of empty sections -/

/-- Whether there is a header at an index that a header directly follows. -/
def isEmptySection (items : List ManifestItem) (i : Nat) : Bool :=
  items[i]?.any isHeader && items[i + 1]?.any isHeader

/-- The entries at all other indices are left, in order. -/
theorem collapseEmptySections_eq_filterMap (items : List ManifestItem) :
    collapseEmptySections items = (List.range items.length).filterMap fun i =>
      if isEmptySection items i then none else items[i]? := by
  induction items with
  | nil => rfl
  | cons item rest ih =>
    have hfirst : isEmptySection (item :: rest) 0 = (item.isHeader && rest.head?.any isHeader) := by
      rw [isEmptySection, List.head?_eq_getElem?]
      rfl
    rw [collapseEmptySections_cons, ih, List.length_cons, List.range_succ_eq_map,
      List.filterMap_cons, List.filterMap_map, hfirst]
    split <;> rfl

/-! ## Parts of a manifest -/

/-- What is left of the entries in front of others: if these begin with a header, a header at
    the end is lost. -/
def closeBefore (header : Bool) (kept : List ManifestItem) : List ManifestItem :=
  if header && kept.getLast?.any isHeader then kept.dropLast else kept

/-- The entries that are left with one more behind them. -/
def pushItem (kept : List ManifestItem) (item : ManifestItem) : List ManifestItem :=
  closeBefore item.isHeader kept ++ [item]

theorem closeBefore_cons {kept : List ManifestItem} (hne : kept ≠ []) (header : Bool)
    (item : ManifestItem) :
    closeBefore header (item :: kept) = item :: closeBefore header kept := by
  obtain ⟨first, rest, rfl⟩ := List.exists_cons_of_ne_nil hne
  rw [closeBefore, closeBefore, List.getLast?_cons_cons, List.dropLast_cons_cons]
  split <;> rfl

theorem collapseEmptySections_ne_nil {items : List ManifestItem} (hne : items ≠ []) :
    collapseEmptySections items ≠ [] := by
  induction items with
  | nil => exact absurd rfl hne
  | cons item rest ih =>
    rw [collapseEmptySections_cons]
    split
    · next h =>
      refine ih ?_
      rintro rfl
      simp at h
    · exact List.cons_ne_nil _ _

/-- Entries collapse part by part, up to the last entry that is left of the first part. -/
theorem collapseEmptySections_append (xs ys : List ManifestItem) :
    collapseEmptySections (xs ++ ys) =
      closeBefore (ys.head?.any isHeader) (collapseEmptySections xs) ++
        collapseEmptySections ys := by
  induction xs with
  | nil => rw [List.nil_append, collapseEmptySections, closeBefore, List.getLast?_nil,
      Option.any_none, Bool.and_false, if_neg Bool.false_ne_true, List.nil_append]
  | cons item rest ih =>
    rw [List.cons_append, collapseEmptySections_cons]
    cases rest with
    | nil =>
      -- The parts meet behind the item.
      rw [List.nil_append, collapseEmptySections, closeBefore, List.getLast?_singleton,
        Option.any_some, Bool.and_comm]
      split <;> rfl
    | cons next rest =>
      rw [ih, collapseEmptySections_cons item, List.cons_append, List.head?_cons, List.head?_cons]
      split
      · rfl
      · rw [closeBefore_cons (collapseEmptySections_ne_nil (List.cons_ne_nil _ _)),
          List.cons_append]

/-- Adding an entry keeps what is left what it should be. -/
theorem pushItem_collapseEmptySections (items : List ManifestItem) (item : ManifestItem) :
    pushItem (collapseEmptySections items) item = collapseEmptySections (items ++ [item]) := by
  rw [collapseEmptySections_append, pushItem, List.head?_cons, Option.any_some,
    collapseEmptySections]

/-- One pass over the entries collapses them. -/
theorem foldl_pushItem (items more : List ManifestItem) :
    more.foldl pushItem (collapseEmptySections items) = collapseEmptySections (items ++ more) := by
  induction more generalizing items with
  | nil => rw [List.foldl_nil, List.append_nil]
  | cons item more ih =>
    rw [List.foldl_cons, pushItem_collapseEmptySections, ih, List.append_assoc,
      List.singleton_append]

/-! ## Collapsed manifests -/

/-- What is left begins with a header where the entries do. -/
theorem any_head?_collapseEmptySections (items : List ManifestItem) :
    (collapseEmptySections items).head?.any isHeader = items.head?.any isHeader := by
  induction items with
  | nil => rfl
  | cons item rest ih =>
    rw [collapseEmptySections_cons]
    split
    · next h =>
      rw [Bool.and_eq_true] at h
      rw [ih, List.head?_cons, Option.any_some, h.1, h.2]
    · rw [List.head?_cons, List.head?_cons]

theorem isChain_collapseEmptySections (items : List ManifestItem) :
    (collapseEmptySections items).IsChain fun a b => ¬ (a.isHeader ∧ b.isHeader) := by
  induction items with
  | nil => exact .nil
  | cons item rest ih =>
    rw [collapseEmptySections_cons]
    split
    · exact ih
    · next h =>
      refine List.isChain_cons.mpr ⟨fun next hnext hheaders => h ?_, ih⟩
      rw [← any_head?_collapseEmptySections, Option.mem_def.mp hnext, Option.any_some,
        hheaders.1, hheaders.2]
      rfl

theorem collapseEmptySections_eq_self {items : List ManifestItem}
    (h : items.IsChain fun a b => ¬ (a.isHeader ∧ b.isHeader)) :
    collapseEmptySections items = items := by
  induction items with
  | nil => rfl
  | cons item rest ih =>
    obtain ⟨hnext, hrest⟩ := List.isChain_cons.mp h
    rw [collapseEmptySections_cons, ih hrest, if_neg]
    rw [Bool.and_eq_true, Option.any_eq_true]
    rintro ⟨hitem, next, hmem, hheader⟩
    exact hnext next hmem ⟨hitem, hheader⟩

/-- The headers that another header directly follows are left out, and nothing else is. One pass
    does it that takes back a header at the end when the next one comes. No two headers are left
    in a row, so that nothing more is left out a second time, and parts may be collapsed on their
    own before the whole is. -/
theorem collapseEmptySections_exact (items : List ManifestItem) :
    (collapseEmptySections items = (List.range items.length).filterMap fun i =>
      if isEmptySection items i then none else items[i]?) ∧
    items.foldl pushItem [] = collapseEmptySections items ∧
    (collapseEmptySections items).IsChain (fun a b => ¬ (a.isHeader ∧ b.isHeader)) ∧
    collapseEmptySections (collapseEmptySections items) = collapseEmptySections items ∧
    ∀ more : List ManifestItem, collapseEmptySections (items ++ more) =
      collapseEmptySections (collapseEmptySections items ++ collapseEmptySections more) := by
  have hidem : ∀ l, collapseEmptySections (collapseEmptySections l) = collapseEmptySections l :=
    fun l => collapseEmptySections_eq_self (isChain_collapseEmptySections l)
  refine ⟨collapseEmptySections_eq_filterMap items, foldl_pushItem [] items,
    isChain_collapseEmptySections items, hidem items, fun more => ?_⟩
  rw [collapseEmptySections_append, collapseEmptySections_append, hidem, hidem,
    any_head?_collapseEmptySections]

/-- Of headers in a row the last one is left, and so is a header at the end. -/
example :
    collapseEmptySections [.header "A", .header "B", .page "c" "C", .header "D"] =
      [.header "B", .page "c" "C", .header "D"] := by rfl

end DocSite
