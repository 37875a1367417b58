/-
  DocSite.Proofs.Heading.Ids

  Identifiers issued one after the other. Each is the first candidate of its
  base that has not been issued, whatever has been asked for before, so the
  suffix that is remembered for a base only shortens the search and no two
  identifiers are equal.

  Other bases issue into the same list, so the invariant that carries this
  speaks of every base at once: the candidates below a remembered suffix are
  all taken.
-/
import DocSite.Heading.Ids
import DocSite.Proofs.Text.Decimal

namespace DocSite.HeadingIds

open DocSite.Text

variable {issued : List (List Char)} {base : List Char} {m n : Nat}

/-! ## Candidates -/

/-- A base gives different candidates to different suffixes. -/
theorem candidate_injective (h : candidate base m = candidate base n) : m = n := by
  -- The base itself is shorter than every candidate with a suffix.
  cases m with
  | zero =>
    cases n with
    | zero => rfl
    | succ n =>
      have hlen := congrArg List.length h
      simp only [candidate, List.length_append, List.length_cons] at hlen
      omega
  | succ m =>
    cases n with
    | zero =>
      have hlen := congrArg List.length h
      simp only [candidate, List.length_append, List.length_cons] at hlen
      omega
    | succ n =>
      simp only [candidate, List.append_cancel_left_eq, List.cons.injEq, true_and] at h
      exact decimal_injective h

/-- Of one more candidate than there are issued identifiers one is free. -/
theorem exists_free_candidate (issued : List (List Char)) (base : List Char) (n : Nat) :
    ∃ k ≤ issued.length, candidate base (n + k) ∉ issued := by
  -- If all were issued, there would be more different candidates than issued identifiers.
  apply Classical.byContradiction
  intro hnone
  have hall : ∀ k ≤ issued.length, candidate base (n + k) ∈ issued := fun k hk =>
    Classical.byContradiction fun hfree => hnone ⟨k, hk, hfree⟩
  let tried := (List.range (issued.length + 1)).map fun k => candidate base (n + k)
  have hnodup : tried.Nodup := by
    refine List.Pairwise.map _ (fun k l hkl heq => hkl ?_) List.nodup_range
    have := candidate_injective heq
    omega
  have hsubset : ∀ id ∈ tried, id ∈ issued := by
    intro id hid
    obtain ⟨k, hk, rfl⟩ := List.mem_map.mp hid
    exact hall k (by have := List.mem_range.mp hk; omega)
  have hlen : tried.length ≤ issued.length := hnodup.length_le_of_subset hsubset
  simp only [tried, List.length_map, List.length_range] at hlen
  omega

/-! ## The search for a free suffix -/

/-- The search for a suffix that tries one candidate after the other, from the
    suffix `n` on and without a limit, ends at the suffix `m`. -/
inductive Search (issued : List (List Char)) (base : List Char) : Nat → Nat → Prop
  | free {n : Nat} : candidate base n ∉ issued → Search issued base n n
  | taken {n m : Nat} : candidate base n ∈ issued → Search issued base (n + 1) m →
      Search issued base n m

namespace Search

/-- The candidate at which a search ends is free. -/
theorem not_mem (h : Search issued base n m) : candidate base m ∉ issued := by
  induction h with
  | free hfree => exact hfree
  | taken _ _ ih => exact ih

/-- The candidates that a search passes over are taken. -/
theorem mem_of_lt (h : Search issued base n m) :
    ∀ k, n ≤ k → k < m → candidate base k ∈ issued := by
  induction h with
  | free _ => intro k hk hlt; omega
  | taken htaken _ ih =>
    intro k hk hlt
    rcases Nat.eq_or_lt_of_le hk with rfl | hgt
    · exact htaken
    · exact ih k hgt hlt

/-- A search also ends where it would have ended when it starts at an earlier
    suffix, provided that the candidates in between are taken. -/
theorem of_taken_below (h : Search issued base n m)
    (hbelow : ∀ k < n, candidate base k ∈ issued) : Search issued base 0 m := by
  induction n with
  | zero => exact h
  | succ n ih =>
    apply ih
    · exact .taken (hbelow n (Nat.lt_succ_self n)) h
    · exact fun k hk => hbelow k (Nat.lt_succ_of_lt hk)

/-- A search depends only on which identifiers are issued. -/
theorem congr {other : List (List Char)} (h : Search issued base n m)
    (hsame : ∀ id, id ∈ issued ↔ id ∈ other) : Search other base n m := by
  induction h with
  | free hfree => exact .free fun hmem => hfree ((hsame _).mpr hmem)
  | taken htaken _ ih => exact .taken ((hsame _).mp htaken) ih

end Search

/-- A search that may stop after some attempts ends in time when one of the
    candidates it may try is free. -/
theorem search_freeSuffix {attempts : Nat} (h : ∃ k < attempts, candidate base (n + k) ∉ issued) :
    Search issued base n (freeSuffix issued base attempts n) := by
  induction attempts generalizing n with
  | zero =>
    obtain ⟨k, hk, _⟩ := h
    omega
  | succ attempts ih =>
    unfold freeSuffix
    split
    · next htaken =>
      refine .taken (List.contains_iff_mem.mp htaken) (ih ?_)
      obtain ⟨k, hk, hfree⟩ := h
      cases k with
      | zero => exact absurd (List.contains_iff_mem.mp htaken) hfree
      | succ k => exact ⟨k, by omega, by rwa [Nat.add_assoc, Nat.add_comm 1 k]⟩
    · next hfree => exact .free fun hmem => hfree (List.contains_iff_mem.mpr hmem)

/-! ## One identifier -/

/-- An issued identifier is the candidate at which the search from the
    remembered suffix ends; it is recorded, and so is the suffix after it. -/
theorem generate_eq (ids : HeadingIds) (text : List Char) :
    ∃ n, Search ids.issued (HeadingIds.base text) (ids.suffixFrom (HeadingIds.base text)) n ∧
      ids.generate text =
        (candidate (HeadingIds.base text) n,
          ⟨(HeadingIds.base text, n + 1) :: ids.nextSuffix,
            candidate (HeadingIds.base text) n :: ids.issued⟩) := by
  refine ⟨_, search_freeSuffix ?_, rfl⟩
  obtain ⟨k, hk, hfree⟩ :=
    exists_free_candidate ids.issued (HeadingIds.base text) (ids.suffixFrom (HeadingIds.base text))
  exact ⟨k, by omega, hfree⟩

/-- What holds of the record after any calls: the candidates below a remembered
    suffix are taken, and no identifier has been issued twice. -/
structure Consistent (ids : HeadingIds) : Prop where
  taken_below : ∀ base, ∀ k < ids.suffixFrom base, candidate base k ∈ ids.issued
  nodup : ids.issued.Nodup

theorem Consistent.empty : Consistent .empty where
  taken_below := fun _ k hk => by simp [suffixFrom, HeadingIds.empty] at hk
  nodup := List.nodup_nil

/-- In a consistent record the search from the remembered suffix ends where the
    search from the suffix zero ends. -/
theorem Consistent.search_zero {ids : HeadingIds} (h : Consistent ids)
    (hs : Search ids.issued base (ids.suffixFrom base) n) : Search ids.issued base 0 n :=
  hs.of_taken_below (h.taken_below base)

/-- Issuing an identifier keeps the record consistent, for the base that was
    asked for and for all others. -/
theorem Consistent.generate {ids : HeadingIds} (h : Consistent ids) (text : List Char) :
    Consistent (ids.generate text).2 := by
  obtain ⟨n, hs, heq⟩ := generate_eq ids text
  rw [heq]
  constructor
  · intro base k hk
    by_cases hbase : base = HeadingIds.base text
    · subst hbase
      -- Its suffix is now one above the candidate that has just been issued.
      have hk : k < n + 1 := by simpa [suffixFrom] using hk
      rcases Nat.lt_succ_iff_lt_or_eq.mp hk with hlt | rfl
      · exact List.mem_cons_of_mem _ ((h.search_zero hs).mem_of_lt k (Nat.zero_le k) hlt)
      · exact List.mem_cons_self
    · -- What another base remembers is as before, and more is issued.
      have hne : (base == HeadingIds.base text) = false := beq_eq_false_iff_ne.mpr hbase
      have hk : k < ids.suffixFrom base := by
        simpa [suffixFrom, List.lookup_cons, hne] using hk
      exact List.mem_cons_of_mem _ (h.taken_below base k hk)
  · exact List.nodup_cons.mpr ⟨hs.not_mem, h.nodup⟩

/-! ## Any number of identifiers -/

/-- The identifiers issued for texts one after the other. -/
def generateAll (ids : HeadingIds) : List (List Char) → List (List Char) × HeadingIds
  | [] => ([], ids)
  | text :: rest =>
    let issue := ids.generate text
    let later := issue.2.generateAll rest
    (issue.1 :: later.1, later.2)

theorem length_generateAll (ids : HeadingIds) (texts : List (List Char)) :
    (ids.generateAll texts).1.length = texts.length := by
  induction texts generalizing ids with
  | nil => rfl
  | cons text rest ih => rw [generateAll, List.length_cons, ih, List.length_cons]

theorem generateAll_append (ids : HeadingIds) (texts more : List (List Char)) :
    ids.generateAll (texts ++ more) =
      ((ids.generateAll texts).1 ++ ((ids.generateAll texts).2.generateAll more).1,
        ((ids.generateAll texts).2.generateAll more).2) := by
  induction texts generalizing ids with
  | nil => rfl
  | cons text rest ih => simp only [List.cons_append, generateAll, ih]

theorem Consistent.generateAll {ids : HeadingIds} (h : Consistent ids) (texts : List (List Char)) :
    Consistent (ids.generateAll texts).2 := by
  induction texts generalizing ids with
  | nil => exact h
  | cons text rest ih => exact ih (h.generate text)

/-- What has been issued is what has been returned, the latest first. -/
theorem issued_generateAll (ids : HeadingIds) (texts : List (List Char)) :
    (ids.generateAll texts).2.issued = (ids.generateAll texts).1.reverse ++ ids.issued := by
  induction texts generalizing ids with
  | nil => rfl
  | cons text rest ih =>
    obtain ⟨n, _, heq⟩ := generate_eq ids text
    simp only [generateAll, ih, heq, List.reverse_cons, List.append_assoc, List.singleton_append]

/-- No two identifiers that a new record issues are equal. -/
theorem nodup_generateAll (texts : List (List Char)) : (generateAll .empty texts).1.Nodup := by
  have hnodup := (Consistent.empty.generateAll texts).nodup
  rw [issued_generateAll] at hnodup
  exact (List.reverse_perm _).nodup_iff.mp (List.nodup_append.mp hnodup).1

/-- The texts get candidates of their bases, and of each base the candidates before the
    one that a text gets have been returned earlier. -/
theorem generateAll_append_cons (texts : List (List Char)) (text : List Char)
    (more : List (List Char)) :
    ∃ n later, (generateAll .empty (texts ++ text :: more)).1
        = (generateAll .empty texts).1 ++ candidate (HeadingIds.base text) n :: later ∧
      ∀ k < n, candidate (HeadingIds.base text) k ∈ (generateAll .empty texts).1 := by
  obtain ⟨n, hs, heq⟩ := generate_eq (generateAll .empty texts).2 text
  refine ⟨n, _, by rw [generateAll_append, generateAll, heq], fun k hk => ?_⟩
  have hzero := (Consistent.empty.generateAll texts).search_zero hs
  have htaken := hzero.mem_of_lt k (Nat.zero_le k) hk
  rw [issued_generateAll, List.mem_append, List.mem_reverse] at htaken
  exact htaken.resolve_right List.not_mem_nil

/-- After any calls, the next text gets the first candidate of its base that no
    earlier call has returned. The unlimited search ends there, from the
    remembered suffix as well as from the suffix zero, and the identifiers
    returned so far stay pairwise distinct. -/
theorem generate_first_free (texts : List (List Char)) (text : List Char) :
    let returned := (generateAll .empty texts).1
    let ids := (generateAll .empty texts).2
    let base := HeadingIds.base text
    ∃ n, Search ids.issued base (ids.suffixFrom base) n ∧ Search returned base 0 n
      ∧ (ids.generate text).1 = candidate base n
      ∧ candidate base n ∉ returned ∧ (∀ k < n, candidate base k ∈ returned)
      ∧ (generateAll .empty (texts ++ [text])).1 = returned ++ [candidate base n]
      ∧ (returned ++ [candidate base n]).Nodup := by
  intro returned ids base
  -- The generator keeps what it has returned, the latest in front.
  have hsame : ∀ id, id ∈ ids.issued ↔ id ∈ returned := by
    intro id
    simp [ids, returned, issued_generateAll, HeadingIds.empty]
  obtain ⟨n, hs, heq⟩ := generate_eq ids text
  have hzero : Search returned base 0 n :=
    ((Consistent.empty.generateAll texts).search_zero hs).congr hsame
  have hall : (generateAll .empty (texts ++ [text])).1 = returned ++ [candidate base n] := by
    rw [generateAll_append]
    simp only [generateAll, ids, returned, base, heq]
  refine ⟨n, hs, hzero, by rw [heq], hzero.not_mem, ?_, hall, ?_⟩
  · exact fun k hk => hzero.mem_of_lt k (Nat.zero_le k) hk
  · rw [← hall]
    exact nodup_generateAll (texts ++ [text])

end DocSite.HeadingIds
