/-
  DocSite.Proofs.Json.RoundTrip

  Printed values are read back. A printed value begins with a character of its own
  kind and ends where its last character stands, save a number, which is read as far
  as it goes: what follows it must not belong to it. Every value takes at least one
  character, so that the length of a text is enough fuel to read it.
-/
import DocSite.Json.Print
import DocSite.Json.Read
import DocSite.Proofs.Text.Decimal
import Mathlib.Data.List.TakeDrop

namespace DocSite

/-! ## Values without literals -/

namespace Value

mutual

/-- Nothing inside a value is a literal. -/
def IsPlain : Value → Prop
  | .list elements => AllPlain elements
  | .record members => PlainMembers members
  | .literal _ => False
  | _ => True

/-- Nothing inside the values is a literal. -/
def AllPlain : List Value → Prop
  | [] => True
  | value :: rest => value.IsPlain ∧ AllPlain rest

/-- Nothing inside the values of members is a literal. -/
def PlainMembers : List (String × Value) → Prop
  | [] => True
  | (_, value) :: rest => value.IsPlain ∧ PlainMembers rest

end

end Value

namespace Json

open DocSite.Text

/-! ## Strings -/

/-- A control character is escaped by four hexadecimal digits of its code point. -/
theorem readHex?_control : ∀ n < 32,
    padZeros 4 (hexDigits n) = ['0', '0', (n / 16).digitChar, (n % 16).digitChar] ∧
      Html.readHex? ['0', '0', (n / 16).digitChar, (n % 16).digitChar] = some n := by
  decide

/-- A character that need not be escaped stands for itself. -/
theorem readUnits_cons {c : Char} (hquote : c ≠ '"') (hbackslash : c ≠ '\\')
    (hcontrol : 32 ≤ c.toNat) (rest : List Char) :
    readUnits (c :: rest) = (readUnits rest).map fun p => (.char c :: p.1, p.2) := by
  rw [readUnits, if_neg]
  · rw [Bool.or_eq_true, decide_eq_true_eq, beq_iff_eq, not_or, Nat.not_lt]
    exact ⟨hcontrol, hbackslash⟩
  · exact hquote
  · intro _ _ _ _ _ heq
    exact absurd heq hbackslash
  · intro _ _ heq
    exact absurd heq hbackslash

/-- A code unit outside the surrogates is a character by itself. -/
theorem joinUnits_unit {n : Nat} (h : n < 0xD800) (units : List StringUnit) :
    joinUnits (.unit n :: units) = (joinUnits units).map (Char.ofNat n :: ·) := by
  rw [joinUnits.eq_def (.unit n :: units)]
  exact if_pos (by rw [decide_eq_true h]; rfl)

/-- What an escaped character is read as stands for the character, whatever follows. -/
theorem exists_readUnits_escapeChar (c : Char) :
    ∃ unit, (∀ rest, readUnits (escapeChar c ++ rest)
        = (readUnits rest).map fun p => (unit :: p.1, p.2)) ∧
      ∀ units, joinUnits (unit :: units) = (joinUnits units).map (c :: ·) := by
  unfold escapeChar
  split
  case h_8 hquote hbackslash _ _ _ _ _ =>
    split
    · next hcontrol =>
      obtain ⟨hdigits, hread⟩ := readHex?_control _ hcontrol
      refine ⟨.unit c.toNat, fun rest => ?_, fun units => ?_⟩
      · rw [hdigits]
        simp only [List.cons_append, List.nil_append]
        rw [readUnits, hread, Option.bind_some]
      · rw [joinUnits_unit (by omega), Char.ofNat_toNat]
    · next hcontrol =>
      exact ⟨.char c, readUnits_cons hquote hbackslash (Nat.not_lt.mp hcontrol), fun _ => rfl⟩
  all_goals exact ⟨.char _, fun _ => rfl, fun _ => rfl⟩

/-- The elements of an escaped text stand for the text, and end at the closing quote. -/
theorem exists_readUnits_escape (s rest : List Char) :
    ∃ units, readUnits (s.flatMap escapeChar ++ '"' :: rest) = some (units, rest) ∧
      joinUnits units = some s := by
  induction s with
  | nil => exact ⟨[], rfl, rfl⟩
  | cons c s ih =>
    obtain ⟨units, hread, hjoin⟩ := ih
    obtain ⟨unit, hunit, hchar⟩ := exists_readUnits_escapeChar c
    refine ⟨unit :: units, ?_, ?_⟩
    · rw [List.flatMap_cons, List.append_assoc, hunit, hread]
      rfl
    · rw [hchar, hjoin]
      rfl

theorem printString_append (s : String) (rest : List Char) :
    printString s ++ rest = '"' :: (s.toList.flatMap escapeChar ++ '"' :: rest) := by
  rw [printString, List.cons_append, List.append_assoc]
  rfl

/-- A printed string is read back. -/
theorem readText?_escape (s : String) (rest : List Char) :
    readText? (s.toList.flatMap escapeChar ++ '"' :: rest) = some (.text s, rest) := by
  obtain ⟨units, hread, hjoin⟩ := exists_readUnits_escape s.toList rest
  rw [readText?, hread, Option.map_some]
  dsimp only
  rw [hjoin]
  dsimp only
  rw [String.ofList_toList]

/-! ## Numbers -/

/-- What may follow a number: nothing, or what ends an element or a member. -/
def Delimits (rest : List Char) : Prop := ∀ c ∈ rest.head?, c = ',' ∨ c = ']' ∨ c = '\x7d'

theorem delimits_nil : Delimits [] := nofun

/-- A printed numeral is read as far as its digits go. -/
theorem readUnsigned?_decimal (negative : Bool) {n : Nat} {rest : List Char}
    (hzero : negative = true → n ≠ 0) (hrest : Delimits rest) :
    readUnsigned? negative (decimal n ++ rest)
      = some (.integer (if negative then -n else n), rest) := by
  -- What delimits a number is no part of one: no digit, no point and no exponent.
  have hdigits : digitRun (decimal n ++ rest) = (decimal n, rest) := by
    have hstop : ∀ c ∈ rest.head?, ¬ c.isDigit = true := by
      intro c hc
      rcases hrest c hc with rfl | rfl | rfl <;> decide
    rw [digitRun, List.span_eq_takeWhile_dropWhile,
      List.takeWhile_append_of_pos fun c hc => isDigit_of_mem_decimal hc,
      List.dropWhile_append_of_pos fun c hc => isDigit_of_mem_decimal hc]
    cases rest with
    | nil => rw [List.takeWhile_nil, List.dropWhile_nil, List.append_nil]
    | cons c rest =>
      rw [List.takeWhile_cons_of_neg (hstop c rfl), List.dropWhile_cons_of_neg (hstop c rfl),
        List.append_nil]
  have hfraction : fractionLength? rest = some 0 := by
    cases rest with
    | nil => rfl
    | cons c rest => rcases hrest c rfl with rfl | rfl | rfl <;> rfl
  have hexponent : exponentLength? rest = some 0 := by
    cases rest with
    | nil => rfl
    | cons c rest => rcases hrest c rfl with rfl | rfl | rfl <;> rfl
  -- Only zero begins with the digit zero, and has no other.
  have hvalid : ¬((decimal n).isEmpty ||
      ((decimal n).head? == some '0' && 1 < (decimal n).length)) = true := by
    rw [Bool.or_eq_true, Bool.and_eq_true, beq_iff_eq, decide_eq_true_eq, List.isEmpty_iff, not_or]
    refine ⟨decimal_ne_nil n, fun ⟨hhead, hlength⟩ => ?_⟩
    rw [eq_zero_of_head?_decimal hhead] at hlength
    exact absurd hlength (by decide +kernel)
  have hinteger : (decide (0 + 0 = 0) && !(negative && n == 0)) = true := by
    cases negative with
    | false => rfl
    | true => simpa using hzero rfl
  rw [readUnsigned?, hdigits]
  dsimp only
  rw [if_neg hvalid, hfraction, Option.bind_some, List.drop_zero, hexponent, Option.map_some,
    digitsValue_decimal]
  exact congrArg some (if_pos hinteger)

theorem exists_decimal_eq_cons (n : Nat) :
    ∃ d digits, decimal n = d :: digits ∧ d.isDigit = true := by
  obtain ⟨d, digits, hd⟩ := List.exists_cons_of_ne_nil (decimal_ne_nil n)
  exact ⟨d, digits, hd, isDigit_of_mem_decimal (n := n) (by rw [hd]; exact List.mem_cons_self)⟩

/-- A printed integer is read back. -/
theorem readNumber?_printInteger (n : Int) {rest : List Char} (hrest : Delimits rest) :
    readNumber? (printInteger n ++ rest) = some (.integer n, rest) := by
  unfold printInteger
  split
  · next hneg =>
    rw [List.cons_append, readNumber?, readUnsigned?_decimal true (fun _ => by omega) hrest,
      if_pos rfl, show -(n.natAbs : Int) = n by omega]
  · next hpos =>
    obtain ⟨d, digits, hd, hdigit⟩ := exists_decimal_eq_cons n.natAbs
    have hread := readUnsigned?_decimal false (n := n.natAbs) nofun hrest
    rw [hd, List.cons_append] at hread
    rw [hd, List.cons_append, readNumber?, hread, if_neg Bool.false_ne_true,
      show (n.natAbs : Int) = n by omega]
    intro rest heq
    rw [(List.cons.inj heq).1] at hdigit
    exact absurd hdigit (by decide)

/-! ## Values -/

theorem skipSpace_cons {c : Char} (h : isSpace c = false) (rest : List Char) :
    skipSpace (c :: rest) = c :: rest :=
  List.dropWhile_cons_of_neg (by rw [h]; exact Bool.false_ne_true)

/-- A character that a number begins with. -/
def IsNumeric (c : Char) : Prop := c = '-' ∨ c.isDigit = true

instance (c : Char) : Decidable (IsNumeric c) := inferInstanceAs (Decidable (_ ∨ _))

theorem exists_printInteger_eq_cons (n : Int) :
    ∃ c rest, printInteger n = c :: rest ∧ IsNumeric c := by
  unfold printInteger
  split
  · exact ⟨_, _, rfl, .inl rfl⟩
  · obtain ⟨d, digits, hd, hdigit⟩ := exists_decimal_eq_cons n.natAbs
    exact ⟨d, digits, hd, .inr hdigit⟩

theorem IsNumeric.ne {c d : Char} (h : IsNumeric c) (hd : ¬ IsNumeric d) : c ≠ d := by
  rintro rfl
  exact hd h

theorem IsNumeric.isSpace_eq_false {c : Char} (h : IsNumeric c) : isSpace c = false := by
  rw [isSpace, Bool.or_eq_false_iff, Bool.or_eq_false_iff, Bool.or_eq_false_iff]
  simp only [beq_eq_false_iff_ne]
  exact ⟨⟨⟨h.ne (by decide), h.ne (by decide)⟩, h.ne (by decide)⟩, h.ne (by decide)⟩

/-- A number is told by its first character. -/
theorem readValue?_numeric {c : Char} (h : IsNumeric c) (fuel : Nat) (rest : List Char) :
    readValue? (fuel + 1) (c :: rest) = readNumber? (c :: rest) := by
  have hword : readWord? (c :: rest) = readNumber? (c :: rest) := by
    unfold readWord?
    split
    all_goals first
      | rfl
      | next heq => exact absurd (List.cons.inj heq).1 (h.ne (by decide))
  rw [readValue?, skipSpace_cons h.isSpace_eq_false, ← hword]
  split
  all_goals first
    | rfl
    | next heq => exact absurd (List.cons.inj heq).1 (h.ne (by decide))

/-- A printed value begins with a character that is no white space and closes no list. -/
theorem exists_print_eq_cons {v : Value} (h : v.IsPlain) :
    ∃ c rest, print v = c :: rest ∧ isSpace c = false ∧ c ≠ ']' := by
  cases v with
  | null => exact ⟨'n', _, by rw [print]; rfl, rfl, by decide⟩
  | boolean b =>
    cases b with
    | false => exact ⟨'f', _, by rw [print]; rfl, rfl, by decide⟩
    | true => exact ⟨'t', _, by rw [print]; rfl, rfl, by decide⟩
  | integer n =>
    obtain ⟨c, rest, hprint, hnumeric⟩ := exists_printInteger_eq_cons n
    exact ⟨c, rest, by rw [print, hprint], hnumeric.isSpace_eq_false, hnumeric.ne (by decide)⟩
  | text s => exact ⟨'"', _, by rw [print]; rfl, rfl, by decide⟩
  | list elements => exact ⟨'[', _, by rw [print], rfl, by decide⟩
  | record members => exact ⟨'\x7b', _, by rw [print], rfl, by decide⟩
  | literal written => exact h.elim

/-! ## Lists and records -/

theorem exists_printElements_eq_cons {element : Value} (more : List Value) (h : element.IsPlain) :
    ∃ c rest, printElements (element :: more) = c :: rest ∧ isSpace c = false ∧ c ≠ ']' := by
  obtain ⟨c, rest, hprint, hc⟩ := exists_print_eq_cons h
  cases more with
  | nil => exact ⟨c, rest, by rw [printElements, hprint], hc⟩
  | cons next more => exact ⟨c, _, by rw [printElements, hprint, List.cons_append]; nofun, hc⟩

theorem exists_printMembers_eq_cons (member : String × Value) (more : List (String × Value)) :
    ∃ rest, printMembers (member :: more) = '"' :: rest := by
  cases more with
  | nil => exact ⟨_, by rw [printMembers, printString_append]⟩
  | cons next more => exact ⟨_, by rw [printMembers, printString_append]; nofun⟩

section Steps

variable {fuel : Nat} {rest : List Char}

theorem readValue?_bracket {c : Char} (hspace : isSpace c = false) (hclose : c ≠ ']') :
    readValue? (fuel + 1) ('[' :: c :: rest)
      = (readElements? fuel (c :: rest)).map fun p => (.list p.1, p.2) := by
  rw [readValue?, skipSpace_cons rfl]
  split
  · next heq => exact absurd (List.cons.inj heq).1 (by decide)
  · next heq =>
    rw [← (List.cons.inj heq).2, skipSpace_cons hspace]
    split
    · next heq => exact absurd (List.cons.inj heq).1 hclose
    · rfl
  · next heq => exact absurd (List.cons.inj heq).1 (by decide)
  · next hbracket _ => exact absurd rfl (hbracket _)

theorem readValue?_brace {members : List (String × Value)} {after : List Char}
    (h : readMembers? fuel ('"' :: rest) = some (some members, after)) :
    readValue? (fuel + 1) ('\x7b' :: '"' :: rest) = some (.record members, after) := by
  change (readMembers? fuel ('"' :: rest)).map _ = _
  rw [h, Option.map_some]

theorem readElements?_comma {s : List Char} {element : Value}
    (h : readValue? fuel s = some (element, ',' :: rest)) :
    readElements? (fuel + 1) s = (readElements? fuel rest).map fun p => (element :: p.1, p.2) := by
  rw [readElements?, h]
  rfl

theorem readElements?_bracket {s : List Char} {element : Value}
    (h : readValue? fuel s = some (element, ']' :: rest)) :
    readElements? (fuel + 1) s = some ([element], rest) := by
  rw [readElements?, h]
  rfl

/-- What a member's name and value are read as, given what the value is read as. -/
theorem readMembers?_member (name : String) {value : Value} {s : List Char}
    (h : readValue? fuel s = some (value, rest)) :
    readMembers? (fuel + 1) (printString name ++ ':' :: s)
      = match skipSpace rest with
        | ',' :: rest =>
          (readMembers? fuel rest).map fun p => (p.1.map ((name, value) :: ·), p.2)
        | '\x7d' :: rest => some (some [(name, value)], rest)
        | _ => none := by
  obtain ⟨chars, rfl⟩ : ∃ chars, name = String.ofList chars := ⟨_, String.ofList_toList.symm⟩
  obtain ⟨units, hread, hjoin⟩ := exists_readUnits_escape chars (':' :: s)
  rw [printString_append, String.toList_ofList]
  change (readUnits (chars.flatMap escapeChar ++ '"' :: ':' :: s)).bind _ = _
  rw [hread, Option.bind_some]
  change (readValue? fuel s).bind _ = _
  rw [h, Option.bind_some, hjoin]
  rfl

end Steps

mutual

/-- A printed value is read back, whatever delimits it. -/
theorem readValue?_print : ∀ (v : Value), v.IsPlain → ∀ (fuel : Nat) (rest : List Char),
    (print v).length ≤ fuel → Delimits rest → readValue? fuel (print v ++ rest) = some (v, rest)
  | .null, _, fuel + 1, rest, _, _ => by
    rw [print]
    rfl
  | .boolean b, _, fuel + 1, rest, _, _ => by
    rw [print]
    cases b <;> rfl
  | .integer n, _, fuel + 1, rest, _, hrest => by
    obtain ⟨c, more, hprint, hnumeric⟩ := exists_printInteger_eq_cons n
    have hread := readNumber?_printInteger n hrest
    rw [hprint, List.cons_append] at hread
    rw [print, hprint, List.cons_append, readValue?_numeric hnumeric, hread]
  | .text s, _, fuel + 1, rest, _, _ => by
    rw [print, printString_append, readValue?, skipSpace_cons rfl]
    exact readText?_escape s rest
  | .list [], _, fuel + 1, rest, _, _ => by
    rw [print, printElements]
    rfl
  | .list (element :: more), hplain, fuel + 1, rest, hfuel, _ => by
    rw [Value.IsPlain] at hplain
    have hlength : (printElements (element :: more)).length < fuel := by
      rw [print, List.length_cons, List.length_append, List.length_singleton] at hfuel
      omega
    have hread := readElements?_print element more hplain fuel rest hlength
    obtain ⟨c, more', hprint, hspace, hclose⟩ := exists_printElements_eq_cons more hplain.1
    rw [hprint, List.cons_append] at hread
    rw [print, hprint, List.cons_append, List.append_assoc, List.singleton_append, List.cons_append,
      readValue?_bracket hspace hclose, hread, Option.map_some]
  | .record [], _, fuel + 1, rest, _, _ => by
    rw [print, printMembers]
    rfl
  | .record (member :: more), hplain, fuel + 1, rest, hfuel, _ => by
    rw [Value.IsPlain] at hplain
    have hlength : (printMembers (member :: more)).length < fuel := by
      rw [print, List.length_cons, List.length_append, List.length_singleton] at hfuel
      omega
    have hread := readMembers?_print member more hplain fuel rest hlength
    obtain ⟨more', hprint⟩ := exists_printMembers_eq_cons member more
    rw [hprint, List.cons_append] at hread
    rw [print, hprint, List.cons_append, List.append_assoc, List.singleton_append, List.cons_append,
      readValue?_brace hread]
  | v, hplain, 0, rest, hfuel, _ => by
    -- Something is printed of every value, so that the fuel is not used up.
    obtain ⟨c, more, hprint, -⟩ := exists_print_eq_cons hplain
    rw [hprint] at hfuel
    nomatch hfuel

/-- The printed elements of a list are read back. -/
theorem readElements?_print : ∀ (element : Value) (more : List Value),
    Value.AllPlain (element :: more) → ∀ (fuel : Nat) (rest : List Char),
    (printElements (element :: more)).length < fuel →
    readElements? fuel (printElements (element :: more) ++ ']' :: rest)
      = some (element :: more, rest)
  | element, [], hplain, fuel + 1, rest, hfuel => by
    rw [printElements] at hfuel ⊢
    exact readElements?_bracket (readValue?_print element hplain.1 fuel (']' :: rest) (by omega)
      (by rintro c ⟨⟩; exact .inr (.inl rfl)))
  | element, next :: more, hplain, fuel + 1, rest, hfuel => by
    have hprint : printElements (element :: next :: more)
        = print element ++ ',' :: printElements (next :: more) := by
      rw [printElements]
      nofun
    rw [hprint, List.length_append, List.length_cons] at hfuel
    have hread := readValue?_print element hplain.1 fuel
      (',' :: (printElements (next :: more) ++ ']' :: rest)) (by omega)
      (by rintro c ⟨⟩; exact .inl rfl)
    have hmore := readElements?_print next more hplain.2 fuel rest (by omega)
    rw [hprint, List.append_assoc, List.cons_append, readElements?_comma hread, hmore,
      Option.map_some]

/-- The printed members of a record are read back. -/
theorem readMembers?_print : ∀ (member : String × Value) (more : List (String × Value)),
    Value.PlainMembers (member :: more) → ∀ (fuel : Nat) (rest : List Char),
    (printMembers (member :: more)).length < fuel →
    readMembers? fuel (printMembers (member :: more) ++ '\x7d' :: rest)
      = some (some (member :: more), rest)
  | (name, value), [], hplain, fuel + 1, rest, hfuel => by
    rw [printMembers, List.length_append, List.length_cons] at hfuel
    have hread := readValue?_print value hplain.1 fuel ('\x7d' :: rest) (by omega)
      (by rintro c ⟨⟩; exact .inr (.inr rfl))
    rw [printMembers, List.append_assoc, List.cons_append, readMembers?_member name hread]
    rfl
  | (name, value), next :: more, hplain, fuel + 1, rest, hfuel => by
    have hprint : printMembers ((name, value) :: next :: more)
        = printString name ++ ':' :: (print value ++ ',' :: printMembers (next :: more)) := by
      rw [printMembers]
      nofun
    rw [hprint, List.length_append, List.length_cons, List.length_append, List.length_cons]
      at hfuel
    have hread := readValue?_print value hplain.1 fuel
      (',' :: (printMembers (next :: more) ++ '\x7d' :: rest)) (by omega)
      (by rintro c ⟨⟩; exact .inl rfl)
    have hmore := readMembers?_print next more hplain.2 fuel rest (by omega)
    rw [hprint, List.append_assoc, List.cons_append, List.append_assoc, List.cons_append,
      readMembers?_member name hread, skipSpace_cons rfl]
    change (readMembers? fuel (printMembers (next :: more) ++ '\x7d' :: rest)).map _ = _
    rw [hmore]
    rfl

end

/-- **Printed values are read back.** Reading the text of a value without literals gives
    the value. -/
theorem read?_print {v : Value} (h : v.IsPlain) : read? (print v) = some v := by
  have hread := readValue?_print v h ((print v).length + 1) [] (Nat.le_succ _) delimits_nil
  rw [List.append_nil] at hread
  rw [read?, hread]
  rfl

end Json

end DocSite
