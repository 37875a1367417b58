/-
  DocSite.Toml.Scalar

  Values of TOML that are written without quotes: truth values, numbers, dates
  and times.
-/
import DocSite.Data.Value
import DocSite.Html.Entity
import DocSite.Text.Decimal
import DocSite.Text.Split

namespace DocSite.Toml

open DocSite.Text

/-- A character of a value without quotes. -/
def isScalarChar (c : Char) : Bool :=
  c.isAlphanum || c == '_' || c == '+' || c == '-' || c == '.' || c == ':'

/-! ## Digits -/

/-- The digits of a run in which single underscores may stand between digits. -/
def ungroup? (isDigit : Char → Bool) (s : List Char) : Option (List Char) :=
  let groups := s.splitOn '_'
  if groups.all fun g => !g.isEmpty && g.all isDigit then some groups.flatten else none

/-- Decimal digits, which do not start with a zero unless there is one digit. -/
def wholeDigits? (s : List Char) : Option (List Char) :=
  (ungroup? Char.isDigit s).filter fun digits => digits.head? != some '0' || digits.length == 1

/-- Splits off a sign: whether it is a minus, and what follows it. -/
def splitSign : List Char → Bool × List Char
  | '+' :: rest => (false, rest)
  | '-' :: rest => (true, rest)
  | s => (false, s)

/-! ## Integers -/

/-- Whether a digit belongs to a numeral system with a prefix. -/
def isDigitOf (base : Nat) (c : Char) : Bool := (Html.hexDigitValue? c).any (· < base)

/-- The value of digits in a base. -/
def valueIn (base : Nat) (digits : List Char) : Nat :=
  digits.foldl (fun n c => base * n + (Html.hexDigitValue? c).getD 0) 0

/-- The value of digits after a prefix for their base. -/
def prefixed? (base : Nat) (digits : List Char) : Option Int :=
  (ungroup? (isDigitOf base) digits).map fun digits => valueIn base digits

/-- The number that an integer denotes. -/
def integerValue? : List Char → Option Int
  | '0' :: 'x' :: digits => prefixed? 16 digits
  | '0' :: 'o' :: digits => prefixed? 8 digits
  | '0' :: 'b' :: digits => prefixed? 2 digits
  | s =>
    let (negative, digits) := splitSign s
    (wholeDigits? digits).map fun digits =>
      if negative then -(digitsValue digits : Int) else digitsValue digits

/-- An integer of at most 128 bits, with a sign or without one. -/
def integer? (s : List Char) : Option Value :=
  let fits := fun n : Int => -(Nat.pow 2 127 : Int) ≤ n && n < (Nat.pow 2 128 : Int)
  ((integerValue? s).filter fits).map .integer

/-! ## Floating-point numbers -/

/-- Splits a float at the mark of its exponent. -/
def splitExponent (s : List Char) : List Char × Option (List Char) :=
  match s.dropWhile fun c => c != 'e' && c != 'E' with
  | _ :: exponent => (s.takeWhile fun c => c != 'e' && c != 'E', some exponent)
  | [] => (s, none)

/-- The exponent of a power of ten. -/
def exponent? (s : List Char) : Option Int :=
  let (negative, digits) := splitSign s
  (ungroup? Char.isDigit digits).map fun digits =>
    if negative then -(digitsValue digits : Int) else digitsValue digits

/-- Whether `digits` times a power of ten is too large for a double: at least
    half a unit in the last place above the largest one. Numbers of far more
    digits are not computed. -/
def overflows (digits : List Char) (power : Int) : Bool :=
  let digits := digits.dropWhile (· == '0')
  let magnitude := digits.length + power
  if digits.isEmpty || magnitude < 309 then false
  else if 310 < magnitude then true
  else
    let bound := Nat.pow 2 1024 - Nat.pow 2 970
    if 0 ≤ power then bound ≤ digitsValue digits * Nat.pow 10 power.toNat
    else bound * Nat.pow 10 power.natAbs ≤ digitsValue digits

/-- A float with a fraction, an exponent or both. -/
def decimalFloat? (s : List Char) : Option Value :=
  let (significand, exponent) := splitExponent (splitSign s).2
  let fractional : Option (List Char × List Char) :=
    match splitOnce '.' significand with
    | some (whole, fraction) =>
      (wholeDigits? whole).bind fun whole =>
        (ungroup? Char.isDigit fraction).map fun fraction => (whole, fraction)
    | none => if exponent.isNone then none else (wholeDigits? significand).map fun w => (w, [])
  fractional.bind fun (whole, fraction) =>
    let power? : Option Int :=
      match exponent with
      | some e => exponent? e
      | none => some 0
    power?.bind fun power =>
      if overflows (whole ++ fraction) (power - fraction.length) then none
      else some (.literal (String.ofList s))

/-- A float. -/
def float? (s : List Char) : Option Value :=
  let name := (splitSign s).2
  if name == "inf".toList || name == "nan".toList then some (.literal (String.ofList s))
  else decimalFloat? s

/-! ## Dates and times -/

/-- The number of days in a month. -/
def daysIn (year month : Nat) : Nat :=
  if month = 2 then
    if year % 4 = 0 && (year % 100 != 0 || year % 400 = 0) then 29 else 28
  else if [4, 6, 9, 11].contains month then 30
  else 31

/-- A number of exactly the given digits within bounds. -/
def field? (width lo hi : Nat) (s : List Char) : Option Nat :=
  if s.length = width then (readDecimal? s).filter fun n => lo ≤ n && n ≤ hi else none

/-- Whether a text is a date: year, month and day. -/
def isDate (s : List Char) : Bool :=
  match s.splitOn '-' with
  | [year, month, day] =>
    match field? 4 0 9999 year, field? 2 1 12 month with
    | some year, some month => (field? 2 1 (daysIn year month) day).isSome
    | _, _ => false
  | _ => false

/-- Whether a text is a number of seconds, maybe with a fraction. -/
def isSeconds (s : List Char) : Bool :=
  match splitOnce '.' s with
  | some (whole, fraction) => (field? 2 0 60 whole).isSome && (readDecimal? fraction).isSome
  | none => (field? 2 0 60 s).isSome

/-- Whether a text is hours and minutes. -/
def isHourMinute (hour minute : List Char) : Bool :=
  (field? 2 0 23 hour).isSome && (field? 2 0 59 minute).isSome

/-- Whether a text is a time of day, with or without seconds. -/
def isTime (s : List Char) : Bool :=
  match s.splitOn ':' with
  | [hour, minute] => isHourMinute hour minute
  | [hour, minute, seconds] => isHourMinute hour minute && isSeconds seconds
  | _ => false

/-- Whether a text is an offset from UTC. -/
def isOffset (s : List Char) : Bool :=
  match s with
  | [c] => c == 'Z' || c == 'z'
  | c :: rest =>
    (c == '+' || c == '-') &&
      match rest.splitOn ':' with
      | [hour, minute] => isHourMinute hour minute
      | _ => false
  | [] => false

/-- Whether a text is a time with or without an offset. -/
def isZonedTime (s : List Char) : Bool :=
  let isTimeChar := fun c : Char => c.isDigit || c == ':' || c == '.'
  let offset := s.dropWhile isTimeChar
  isTime (s.takeWhile isTimeChar) && (offset.isEmpty || isOffset offset)

/-- Whether a text is a date, a time, or both. -/
def isDateTime (s : List Char) : Bool :=
  isTime s || isDate s ||
    (isDate (s.take 10) &&
      match s.drop 10 with
      | c :: time => (c == 'T' || c == 't' || c == ' ') && isZonedTime time
      | [] => false)

/-- A date or a time. It is a record of one member, so that it can stand where
    every member of a record may be missing. -/
def dateTime? (s : List Char) : Option Value :=
  if isDateTime s then some (.record [("date", .text (String.ofList s))]) else none

/-! ## Values -/

/-- The value that is written without quotes. -/
def scalar? (s : List Char) : Option Value :=
  if s == "true".toList then some (.boolean true)
  else if s == "false".toList then some (.boolean false)
  else integer? s <|> float? s <|> dateTime? s

/-- The value without quotes at the start of a text, and what follows it. A date
    may be followed by a time after a space. -/
def readScalar? (s : List Char) : Option (Value × List Char) :=
  let token := s.takeWhile isScalarChar
  let rest := s.drop token.length
  let time :=
    match rest with
    | ' ' :: c :: _ => if isDate token && c.isDigit then ' ' :: rest.tail.takeWhile isScalarChar else []
    | _ => []
  (scalar? (token ++ time)).map fun value => (value, rest.drop time.length)

end DocSite.Toml
