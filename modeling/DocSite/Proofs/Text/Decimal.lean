/-
  DocSite.Proofs.Text.Decimal

  Written numerals read back as the number that was written, so different
  numbers have different numerals. Lists of numerals are cut at their commas.
-/
import DocSite.Proofs.Text.Split
import DocSite.Proofs.Text.Word
import DocSite.Text.Decimal
import Mathlib.Data.List.Induction
import Mathlib.Data.Nat.Digits.Defs

namespace DocSite.Text

/-- A digit has the code point that is its value above that of `0`. -/
theorem toNat_digit : ∀ d < 10, (Char.ofNat (48 + d)).toNat = 48 + d := by
  decide

/-- One more digit multiplies the value by ten. -/
theorem digitsValue_append_digit (s : List Char) {d : Nat} (h : d < 10) :
    digitsValue (s ++ [Char.ofNat (48 + d)]) = 10 * digitsValue s + d := by
  unfold digitsValue
  rw [List.foldl_append, List.foldl_cons, List.foldl_nil, toNat_digit d h]
  omega

/-- A written numeral has the value that was written. -/
theorem digitsValue_decimal (n : Nat) : digitsValue (decimal n) = n := by
  induction n using Nat.strongRecOn with
  | _ n ih =>
    rw [decimal]
    split
    · next hlt => simpa [digitsValue] using digitsValue_append_digit [] hlt
    · next hge =>
      rw [digitsValue_append_digit _ (Nat.mod_lt n (by omega)), ih (n / 10) (by omega)]
      omega

/-- A numeral has digits only. -/
theorem isDigit_of_mem_decimal {n : Nat} {c : Char} (h : c ∈ decimal n) : c.isDigit := by
  have hdigit : ∀ d < 10, (Char.ofNat (48 + d)).isDigit := by decide
  induction n using Nat.strongRecOn with
  | _ n ih =>
    rw [decimal] at h
    split at h
    · next hlt =>
      rw [List.mem_singleton.mp h]
      exact hdigit n hlt
    · next hge =>
      rcases List.mem_append.mp h with hinit | hlast
      · exact ih (n / 10) (by omega) hinit
      · rw [List.mem_singleton.mp hlast]
        exact hdigit _ (Nat.mod_lt n (by omega))

theorem decimal_ne_nil (n : Nat) : decimal n ≠ [] := by
  rw [decimal]
  split
  · exact List.cons_ne_nil _ _
  · exact List.append_ne_nil_of_right_ne_nil _ (List.cons_ne_nil _ _)

/-- Only the numeral of zero begins with a zero. -/
theorem eq_zero_of_head?_decimal {n : Nat} (h : (decimal n).head? = some '0') : n = 0 := by
  have hdigit : ∀ d < 10, Char.ofNat (48 + d) = '0' → d = 0 := by decide
  induction n using Nat.strongRecOn with
  | _ n ih =>
    rw [decimal] at h
    split at h
    · next hlt => exact hdigit n hlt (Option.some.inj h)
    · next hge =>
      obtain ⟨d, digits, hd⟩ := List.exists_cons_of_ne_nil (decimal_ne_nil (n / 10))
      have hzero := ih (n / 10) (by omega) (by rw [hd] at h ⊢; exact h)
      omega

/-- Different numbers have different numerals. -/
theorem decimal_injective {m n : Nat} (h : decimal m = decimal n) : m = n := by
  rw [← digitsValue_decimal m, h, digitsValue_decimal]

/-- A run of digits is read as the number that it denotes. -/
theorem readDecimal?_eq_some {s : List Char} (hne : s ≠ []) (hdigits : ∀ c ∈ s, c.isDigit) :
    readDecimal? s = some (digitsValue s) := by
  rw [readDecimal?, List.isEmpty_eq_false_iff.mpr hne, List.all_eq_true.mpr hdigits]
  rfl

theorem readDecimal?_decimal (n : Nat) : readDecimal? (decimal n) = some n := by
  rw [readDecimal?_eq_some (decimal_ne_nil n) fun _ => isDigit_of_mem_decimal,
    digitsValue_decimal]

/-! ## Padded numerals -/

section Padded

variable {width n : Nat}

theorem isDigit_of_mem_padZeros {c : Char} (h : c ∈ padZeros width (decimal n)) : c.isDigit := by
  rcases List.mem_append.mp h with hzero | hdigit
  · rw [List.eq_of_mem_replicate hzero]
    decide
  · exact isDigit_of_mem_decimal hdigit

theorem padZeros_decimal_ne_nil : padZeros width (decimal n) ≠ [] :=
  List.append_ne_nil_of_right_ne_nil _ (decimal_ne_nil n)

theorem le_length_padZeros (width : Nat) (digits : List Char) :
    width ≤ (padZeros width digits).length := by
  rw [padZeros, List.length_append, List.length_replicate]
  omega

/-- Leading zeros change no value. -/
theorem digitsValue_padZeros (width : Nat) (digits : List Char) :
    digitsValue (padZeros width digits) = digitsValue digits := by
  have hzeros : ∀ k, digitsValue (List.replicate k '0') = 0 := by
    intro k
    induction k with
    | zero => rfl
    | succ k ih => exact ih
  rw [digitsValue, padZeros, List.foldl_append, ← digitsValue, hzeros, digitsValue]

theorem readDecimal?_padZeros (width n : Nat) :
    readDecimal? (padZeros width (decimal n)) = some n := by
  rw [readDecimal?_eq_some padZeros_decimal_ne_nil fun _ => isDigit_of_mem_padZeros,
    digitsValue_padZeros, digitsValue_decimal]

end Padded

/-! ## Numerals between commas -/

section Listed

variable {ns : List Nat}

theorem comma_not_mem_numerals : ∀ s ∈ ns.map decimal, ',' ∉ s := by
  rintro s hs hmem
  obtain ⟨n, -, rfl⟩ := List.mem_map.mp hs
  exact absurd (isDigit_of_mem_decimal hmem) (by decide)

/-- The numerals are the parts between the commas. -/
theorem splitOn_numerals (hne : ns ≠ []) :
    ([','].intercalate (ns.map decimal)).splitOn ',' = ns.map decimal :=
  List.splitOn_intercalate ',' comma_not_mem_numerals (by simpa using hne)

/-- No white space stands between numerals and commas. -/
theorem isBlank_of_mem_numerals {c : Char} (h : c ∈ [','].intercalate (ns.map decimal)) :
    isBlank c = false := by
  rcases mem_of_mem_intercalate h with hcomma | ⟨s, hs, hc⟩
  · rw [List.mem_singleton.mp hcomma]
    decide
  · obtain ⟨n, -, rfl⟩ := List.mem_map.mp hs
    exact isBlank_eq_false_of_isDigit (isDigit_of_mem_decimal hc)

end Listed

/-! ## Numerals of the library -/

/-- Digits denote the number that they are the digits of in base ten. -/
theorem digitsValue_eq_ofDigits (s : List Char) :
    digitsValue s = Nat.ofDigits 10 (s.reverse.map fun c => c.toNat - 48) := by
  induction s using List.reverseRecOn with
  | nil => rfl
  | append_singleton s c ih =>
    rw [List.reverse_append, List.reverse_singleton, List.singleton_append, List.map_cons,
      Nat.ofDigits_cons, ← ih, digitsValue, List.foldl_append, ← digitsValue]
    exact Nat.add_comm ..

theorem decimal_eq_toDigits (n : Nat) : decimal n = Nat.toDigits 10 n := by
  have hdigit : ∀ d < 10, Char.ofNat (48 + d) = d.digitChar := by decide
  induction n using Nat.strongRecOn with
  | _ n ih =>
    rw [decimal]
    split
    · next hlt => rw [Nat.toDigits_of_lt_base hlt, hdigit n hlt]
    · next hge =>
      rw [Nat.toDigits_of_base_le (by decide) (by omega), ih (n / 10) (by omega),
        hdigit _ (Nat.mod_lt n (by decide))]

/-- The numeral of a number is how numbers are shown. -/
theorem toList_toString (n : Nat) : (toString n).toList = decimal n := by
  rw [decimal_eq_toDigits]
  exact Nat.toList_repr

end DocSite.Text
