/-
  DocSite.Json.Print

  Values as JSON text, without white space.
-/
import DocSite.Data.Value
import DocSite.Text.Decimal
import DocSite.Text.Quoted

namespace DocSite.Json

open DocSite.Text

/-! ## Strings -/

/-- A character inside a string. Quotes, backslashes and control characters are
    escaped. -/
def escapeChar (c : Char) : List Char :=
  match c with
  | '"' => ['\\', '"']
  | '\\' => ['\\', '\\']
  | '\n' => ['\\', 'n']
  | '\r' => ['\\', 'r']
  | '\t' => ['\\', 't']
  | '\x08' => ['\\', 'b']
  | '\x0c' => ['\\', 'f']
  | c => if c.toNat < 32 then ['\\', 'u'] ++ padZeros 4 (hexDigits c.toNat) else [c]

/-- A string. -/
def printString (s : String) : List Char := '"' :: (s.toList.flatMap escapeChar ++ ['"'])

/-! ## Values -/

/-- An integer. -/
def printInteger (n : Int) : List Char :=
  if n < 0 then '-' :: decimal n.natAbs else decimal n.natAbs

mutual

/-- A value. -/
def print : Value → List Char
  | .null => "null".toList
  | .boolean b => if b then "true".toList else "false".toList
  | .integer n => printInteger n
  | .text s => printString s
  | .list elements => '[' :: (printElements elements ++ [']'])
  | .record members => '\x7b' :: (printMembers members ++ ['\x7d'])
  | .literal written => written.toList

/-- The elements of a list with commas between them. -/
def printElements : List Value → List Char
  | [] => []
  | [element] => print element
  | element :: rest => print element ++ ',' :: printElements rest

/-- The members of a record with commas between them. -/
def printMembers : List (String × Value) → List Char
  | [] => []
  | [(name, value)] => printString name ++ ':' :: print value
  | (name, value) :: rest => printString name ++ ':' :: (print value ++ ',' :: printMembers rest)

end

end DocSite.Json
