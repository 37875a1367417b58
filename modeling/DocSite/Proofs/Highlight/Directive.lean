/-
  DocSite.Proofs.Highlight.Directive

  The language of directives, told without the reader: what a numeral, a token and
  a directive are, and which lines they select. The reader accepts this language and
  nothing else, and a list of lines that is written as a directive is read back.
-/
import DocSite.Highlight.LineSelection
import DocSite.Proofs.Except
import DocSite.Proofs.Text.Blank
import DocSite.Proofs.Text.Decimal
import DocSite.Proofs.Text.Split
import DocSite.Proofs.Text.Word

namespace DocSite.LineSelection

open DocSite.Text

/-! ## Numerals -/

/-- `s` is a decimal numeral of a line: it may have zeros in front. -/
structure IsNumeral (s : List Char) (n : Nat) : Prop where
  ne_nil : s ≠ []
  digits : ∀ c ∈ s, c.isDigit = true
  value : Nat.ofDigits 10 (s.reverse.map fun c => c.toNat - 48) = n
  pos : 0 < n
  lt : n < 2 ^ 32

/-- The numerals that are read are those of lines. -/
theorem readLineNumber?_eq_some_iff {s : List Char} {n : Nat} :
    readLineNumber? s = some n ↔ IsNumeral s n := by
  rw [readLineNumber?, readDecimal?, digitsValue_eq_ofDigits]
  constructor
  · intro h
    obtain ⟨hread, hrange⟩ := Option.filter_eq_some_iff.mp h
    split at hread
    · cases hread
    · next hdigits =>
      simp only [Bool.or_eq_true, List.isEmpty_iff, Bool.not_eq_true', Bool.eq_false_iff, not_or,
        ne_eq, not_not, List.all_eq_true] at hdigits
      simp only [Bool.and_eq_true, decide_eq_true_eq] at hrange
      exact ⟨hdigits.1, hdigits.2, Option.some.inj hread, hrange.1, hrange.2⟩
  · intro h
    have hdigits : (s.isEmpty || !s.all Char.isDigit) = false := by
      simpa [List.isEmpty_eq_false_iff] using ⟨h.ne_nil, h.digits⟩
    rw [hdigits, if_neg Bool.false_ne_true, h.value]
    exact Option.filter_eq_some_iff.mpr ⟨rfl, by simpa using ⟨h.pos, h.lt⟩⟩

theorem IsNumeral.isBlank_eq_false {s : List Char} {n : Nat} (h : IsNumeral s n) :
    ∀ c ∈ s, isBlank c = false := fun c hc => isBlank_eq_false_of_isDigit (h.digits c hc)

theorem IsNumeral.not_mem {s : List Char} {n : Nat} (h : IsNumeral s n) {c : Char}
    (hc : c.isDigit = false) : c ∉ s := fun hmem => by
  have hdigit := h.digits c hmem
  rw [hc] at hdigit
  exact Bool.false_ne_true hdigit

theorem isNumeral_decimal {n : Nat} (hpos : 0 < n) (hlt : n < 2 ^ 32) :
    IsNumeral (decimal n) n where
  ne_nil := decimal_ne_nil n
  digits _ := isDigit_of_mem_decimal
  value := by rw [← digitsValue_eq_ofDigits, digitsValue_decimal]
  pos := hpos
  lt := hlt

/-! ## Tokens -/

/-- A token selects one line, or the lines between two that a dash joins. -/
inductive IsToken : List Char → List Nat → Prop
  | line {s : List Char} {n : Nat} (h : IsNumeral s n) : IsToken s [n]
  | range {first last s t : List Char} {a b : Nat} (hfirst : Trims first s) (hlast : Trims last t)
      (ha : IsNumeral s a) (hb : IsNumeral t b) (hle : a ≤ b) :
      IsToken (first ++ '-' :: last) (List.range' a (b + 1 - a))

/-- A token with white space around it. -/
def IsPiece (piece : List Char) (lines : List Nat) : Prop :=
  ∃ token, Trims piece token ∧ IsToken token lines

theorem readRange_eq_ok_iff {token first last : List Char} {lines : List Nat} :
    readRange token first last = .ok lines ↔
      ∃ a b, IsNumeral (trim first) a ∧ IsNumeral (trim last) b ∧ a ≤ b ∧
        lines = List.range' a (b + 1 - a) := by
  simp only [← readLineNumber?_eq_some_iff, readRange]
  constructor
  · intro h
    split at h
    · nomatch h
    · nomatch h
    · next a b ha hb =>
      split at h
      · nomatch h
      · next hle => exact ⟨a, b, ha, hb, Nat.le_of_not_lt hle, (Except.ok.inj h).symm⟩
  · rintro ⟨a, b, ha, hb, hle, rfl⟩
    rw [ha, hb]
    exact if_neg (Nat.not_lt.mpr hle)

theorem readToken_eq_ok_iff {token : List Char} {lines : List Nat} :
    readToken token = .ok lines ↔ IsToken token lines := by
  constructor
  · intro h
    rw [readToken] at h
    split at h
    · nomatch h
    cases hsplit : splitOnce '-' token with
    | some p =>
      obtain ⟨first, last⟩ := p
      rw [hsplit] at h
      obtain ⟨a, b, ha, hb, hle, rfl⟩ := readRange_eq_ok_iff.mp h
      rw [splitOnce_eq_some hsplit]
      exact .range (trims_trim first) (trims_trim last) ha hb hle
    | none =>
      rw [hsplit] at h
      dsimp only at h
      split at h
      · next n hn =>
        rw [← Except.ok.inj h]
        exact .line (readLineNumber?_eq_some_iff.mp hn)
      · nomatch h
  · -- A numeral has no dash, so that a token with one is cut at it.
    rintro (⟨hn⟩ | ⟨hfirst, hlast, ha, hb, hle⟩)
    · next n =>
      have hdash : '-' ∉ token := hn.not_mem (by decide)
      rw [readToken, if_neg (by simpa using hn.ne_nil), splitOnce_eq_none hdash]
      dsimp only
      rw [readLineNumber?_eq_some_iff.mpr hn]
    · next first last s t a b =>
      have hdash : '-' ∉ first := hfirst.not_mem (by decide) (ha.not_mem (by decide))
      rw [readToken, if_neg (by simp), splitOnce_append hdash]
      exact readRange_eq_ok_iff.mpr
        ⟨a, b, by rwa [hfirst.trim_eq], by rwa [hlast.trim_eq], hle, rfl⟩

/-- Every token counts, and their lines stand one after the other. -/
theorem readTokens_eq_ok_iff {pieces : List (List Char)} {lines : List Nat} :
    readTokens pieces = .ok lines ↔
      ∃ parts, List.Forall₂ IsPiece pieces parts ∧ lines = parts.flatten := by
  induction pieces generalizing lines with
  | nil =>
    simp only [List.forall₂_nil_left_iff, exists_eq_left, List.flatten_nil]
    exact ⟨fun h => (Except.ok.inj h).symm, fun h => h ▸ rfl⟩
  | cons piece rest ih =>
    have hpiece : ∀ part, readToken (trim piece) = .ok part ↔ IsPiece piece part := fun part => by
      rw [readToken_eq_ok_iff]
      exact ⟨fun h => ⟨_, trims_trim piece, h⟩, fun ⟨token, htrim, h⟩ => htrim.trim_eq ▸ h⟩
    rw [readTokens, bind_eq_ok_iff]
    constructor
    · rintro ⟨here, hhere, h⟩
      obtain ⟨later, hlater, h⟩ := bind_eq_ok_iff.mp h
      obtain ⟨parts, hparts, rfl⟩ := ih.mp hlater
      exact ⟨here :: parts, .cons ((hpiece here).mp hhere) hparts, (Except.ok.inj h).symm⟩
    · rintro ⟨_, _ | ⟨hhere, hparts⟩, rfl⟩
      next here parts =>
      exact ⟨here, (hpiece here).mpr hhere,
        bind_eq_ok_iff.mpr ⟨parts.flatten, ih.mpr ⟨parts, hparts, rfl⟩, rfl⟩⟩

/-! ## Directives -/

/-- `t` is `s` without a brace in front, which `s` need not have. -/
def IsOpened (s t : List Char) : Prop := s = '{' :: t ∨ s.head? ≠ some '{' ∧ s = t

/-- `t` is `s` without a brace behind, which `s` need not have. -/
def IsClosed (s t : List Char) : Prop := s = t ++ ['}'] ∨ s.getLast? ≠ some '}' ∧ s = t

/-- What is left of a directive without the white space and the braces around it. -/
def IsBody (d body : List Char) : Prop :=
  ∃ core opened closed, Trims d core ∧ IsOpened core opened ∧ IsClosed opened closed ∧
    Trims closed body

/-- The lines that a directive selects, token by token. -/
inductive Selects (d : List Char) : List Nat → Prop
  | nothing (hbody : IsBody d []) : Selects d []
  | tokens {body : List Char} {parts : List (List Nat)} (hbody : IsBody d body) (hne : body ≠ [])
      (hparts : List.Forall₂ IsPiece (body.splitOn ',') parts) : Selects d parts.flatten

theorem dropPrefix?_brace_iff {s t : List Char} :
    (dropPrefix? ['{'] s).getD s = t ↔ IsOpened s t := by
  by_cases hopen : s.head? = some '{'
  · obtain ⟨rest, rfl⟩ := List.head?_eq_some_iff.mp hopen
    have hdrop : dropPrefix? ['{'] ('{' :: rest) = some rest := rfl
    simp [hdrop, IsOpened]
  · have hdrop : dropPrefix? ['{'] s = none := by
      rw [dropPrefix?, Option.eq_none_iff_forall_not_mem]
      intro rest hrest
      rw [← List.isPrefixOf?_eq_some_iff_append_eq.mp hrest] at hopen
      exact hopen rfl
    have hne : s ≠ '{' :: t := fun h => hopen (h ▸ rfl)
    simp [hdrop, IsOpened, hopen, hne]

theorem dropSuffix?_brace_iff {s t : List Char} :
    (dropSuffix? ['}'] s).getD s = t ↔ IsClosed s t := by
  by_cases hclose : s.getLast? = some '}'
  · obtain ⟨rest, rfl⟩ := List.getLast?_eq_some_iff.mp hclose
    have hdrop : dropSuffix? ['}'] (rest ++ ['}']) = some rest :=
      List.isSuffixOf?_eq_some_iff_append_eq.mpr rfl
    simp [hdrop, IsClosed]
  · have hdrop : dropSuffix? ['}'] s = none := by
      rw [dropSuffix?, Option.eq_none_iff_forall_not_mem]
      intro rest hrest
      rw [← List.isSuffixOf?_eq_some_iff_append_eq.mp hrest] at hclose
      exact hclose List.getLast?_concat
    have hne : s ≠ t ++ ['}'] := fun h => hclose (h ▸ List.getLast?_concat)
    simp [hdrop, IsClosed, hclose, hne]

theorem directiveBody_eq_iff {d body : List Char} : directiveBody d = body ↔ IsBody d body := by
  simp only [IsBody, ← trim_eq_iff, ← dropPrefix?_brace_iff, ← dropSuffix?_brace_iff]
  constructor
  · intro h
    exact ⟨_, _, _, rfl, rfl, rfl, h⟩
  · rintro ⟨_, _, _, rfl, rfl, rfl, h⟩
    exact h

/-- The directives that are accepted, with the lines that they select. -/
theorem parse_eq_ok_iff {d : String} {lines : List Nat} :
    parse (some d) = .ok ⟨lines⟩ ↔ Selects d.toList lines := by
  have hbody : IsBody d.toList (directiveBody d.toList) := directiveBody_eq_iff.mp rfl
  rw [parse]
  -- An empty body is a case of its own: cut at commas it would be an empty token.
  by_cases hempty : directiveBody d.toList = []
  · rw [if_pos (by rw [hempty]; rfl)]
    constructor
    · intro h
      obtain rfl : [] = lines := congrArg numbers (Except.ok.inj h)
      exact .nothing (hempty ▸ hbody)
    · rintro (_ | ⟨hbody', hne, -⟩)
      · rfl
      · exact absurd (directiveBody_eq_iff.mpr hbody' ▸ hempty) hne
  · rw [if_neg (by rwa [List.isEmpty_iff])]
    constructor
    · intro h
      cases hread : readTokens ((directiveBody d.toList).splitOn ',') with
      | error fault => rw [hread] at h; nomatch h
      | ok numbers =>
        rw [hread] at h
        obtain rfl : numbers = lines := congrArg LineSelection.numbers (Except.ok.inj h)
        obtain ⟨parts, hparts, rfl⟩ := readTokens_eq_ok_iff.mp hread
        exact .tokens hbody hempty hparts
    · rintro (hnothing | ⟨hbody', hne, hparts⟩)
      · exact absurd (directiveBody_eq_iff.mpr hnothing) hempty
      · rw [directiveBody_eq_iff.mpr hbody', readTokens_eq_ok_iff.mpr ⟨_, hparts, rfl⟩]

/-- A directive that is refused is refused as it was written. -/
theorem parse_eq_ok_or_error (d : String) :
    (∃ lines, parse (some d) = .ok ⟨lines⟩) ∨ ∃ fault, parse (some d) = .error ⟨d, fault⟩ := by
  rw [parse]
  split
  · exact .inl ⟨[], rfl⟩
  · cases readTokens ((directiveBody d.toList).splitOn ',') with
    | ok numbers => exact .inl ⟨numbers, rfl⟩
    | error fault => exact .inr ⟨fault, rfl⟩

theorem exists_parse_eq_error_iff {d : String} :
    (∃ fault, parse (some d) = .error ⟨d, fault⟩) ↔ ∀ lines, ¬Selects d.toList lines := by
  simp only [← parse_eq_ok_iff]
  constructor
  · rintro ⟨fault, hfault⟩ lines hlines
    rw [hfault] at hlines
    nomatch hlines
  · intro h
    rcases parse_eq_ok_or_error d with ⟨lines, hlines⟩ | hfault
    · exact absurd hlines (h lines)
    · exact hfault

/-! ## Directives written out -/

/-- Numerals between commas. -/
def listed (lines : List Nat) : List Char := [','].intercalate (lines.map decimal)

theorem toList_intercalate_toString (sep : String) (lines : List Nat) :
    (sep.intercalate (lines.map toString)).toList =
      sep.toList.intercalate (lines.map decimal) := by
  rw [String.toList_intercalate, List.map_map]
  congr 1
  exact List.map_congr_left fun n _ => toList_toString n

theorem text_eq_intercalate (lines : List Nat) :
    text ⟨lines⟩ = " ".intercalate (lines.map toString) := by
  rw [text, String.ext_iff, String.toList_ofList, toList_intercalate_toString]
  rfl

theorem selects_listed {lines : List Nat} (h : ∀ n ∈ lines, 0 < n ∧ n < 2 ^ 32) :
    Selects ('{' :: listed lines ++ ['}']) lines := by
  have hkept : ∀ c ∈ listed lines, isBlank c = false := fun _ => isBlank_of_mem_numerals
  have hwhole : ∀ c ∈ '{' :: listed lines ++ ['}'], isBlank c = false :=
    List.forall_mem_append.mpr ⟨List.forall_mem_cons.mpr ⟨by decide, hkept⟩,
      List.forall_mem_singleton.mpr (by decide)⟩
  have hbody : IsBody ('{' :: listed lines ++ ['}']) (listed lines) :=
    ⟨_, listed lines ++ ['}'], _, trims_self hwhole, .inl rfl, .inl rfl, trims_self hkept⟩
  rcases eq_or_ne lines [] with rfl | hlines
  · exact .nothing hbody
  have hsplit : (listed lines).splitOn ',' = lines.map decimal := splitOn_numerals hlines
  have hne : listed lines ≠ [] := by
    intro hnil
    rw [hnil, List.splitOn_nil] at hsplit
    obtain ⟨n, -, hn⟩ := List.mem_map.mp (hsplit ▸ List.mem_singleton_self ([] : List Char))
    exact decimal_ne_nil n hn
  have hpieces : List.Forall₂ IsPiece ((listed lines).splitOn ',') (lines.map fun n => [n]) := by
    rw [hsplit, List.forall₂_map_left_iff, List.forall₂_map_right_iff, List.forall₂_same]
    intro n hn
    have hnumeral := isNumeral_decimal (h n hn).1 (h n hn).2
    exact ⟨decimal n, trims_self hnumeral.isBlank_eq_false, .line hnumeral⟩
  have hselects := Selects.tokens hbody hne hpieces
  rwa [← List.flatMap_def, List.flatMap_singleton'] at hselects

/-- Lines that are written as a directive are read back as they were. -/
theorem parse_listed {lines : List Nat} (h : ∀ n ∈ lines, 0 < n ∧ n < 2 ^ 32) :
    parse (some ("\x7b" ++ ",".intercalate (lines.map toString) ++ "\x7d")) = .ok ⟨lines⟩ := by
  have hchars : ("\x7b" ++ ",".intercalate (lines.map toString) ++ "\x7d").toList =
      '{' :: listed lines ++ ['}'] := by
    rw [String.toList_append, String.toList_append, toList_intercalate_toString]
    rfl
  rw [parse_eq_ok_iff, hchars]
  exact selects_listed h

/-- The reader accepts the directives of the language, with the lines that they select,
and refuses every other one as it was written. Lines written as a directive are read
back, and shown with spaces between them. -/
theorem parse_reads_directives :
    (∀ (d : String) (lines : List Nat), parse (some d) = .ok ⟨lines⟩ ↔ Selects d.toList lines) ∧
    (∀ d : String, (∃ fault, parse (some d) = .error ⟨d, fault⟩) ↔
      ∀ lines, ¬Selects d.toList lines) ∧
    ∀ lines : List Nat, (∀ n ∈ lines, 0 < n ∧ n < 2 ^ 32) →
      parse (some ("\x7b" ++ ",".intercalate (lines.map toString) ++ "\x7d")) = .ok ⟨lines⟩ ∧
        text ⟨lines⟩ = " ".intercalate (lines.map toString) :=
  ⟨fun _ _ => parse_eq_ok_iff, fun _ => exists_parse_eq_error_iff,
    fun lines h => ⟨parse_listed h, text_eq_intercalate lines⟩⟩

/-- Lines may stand in a directive more than once, and in any order. -/
theorem parse_reads_directives_repeated :
    (∀ n ∈ [4, 2, 3, 4], 0 < n ∧ n < 2 ^ 32) ∧
      parse (some "\x7b4,2,3,4\x7d") = .ok ⟨[4, 2, 3, 4]⟩ ∧ text ⟨[4, 2, 3, 4]⟩ = "4 2 3 4" :=
  ⟨by decide, parse_reads_directives.2.2 [4, 2, 3, 4] (by decide)⟩

example : parse (some " 7 , 09 - 10 \x7d") = .ok ⟨[7, 9, 10]⟩ := by decide +kernel

example : parse (some "1--2") = .error ⟨"1--2", .rangeEnd "1--2"⟩ := by decide +kernel

end DocSite.LineSelection
