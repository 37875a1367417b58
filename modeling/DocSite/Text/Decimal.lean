/-
  DocSite.Text.Decimal

  Decimal numerals in ASCII digits. Writing uses no leading zeros; reading
  takes any number of them.
-/
namespace DocSite.Text

/-- The decimal digits of `n`, the most significant first. -/
def decimal (n : Nat) : List Char :=
  if n < 10 then [Char.ofNat (48 + n)] else decimal (n / 10) ++ [Char.ofNat (48 + n % 10)]
termination_by n

/-- The number that a run of digits denotes. -/
def digitsValue (s : List Char) : Nat := s.foldl (fun n c => 10 * n + (c.toNat - 48)) 0

/-- Reads a non-empty run of ASCII digits. -/
def readDecimal? (s : List Char) : Option Nat :=
  if s.isEmpty || !s.all Char.isDigit then none else some (digitsValue s)

/-- Pads a numeral with zeros on the left up to the given width. -/
def padZeros (width : Nat) (digits : List Char) : List Char :=
  List.replicate (width - digits.length) '0' ++ digits

end DocSite.Text
