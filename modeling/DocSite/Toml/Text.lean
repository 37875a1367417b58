/-
  DocSite.Toml.Text

  Quoted text of TOML, on one line and on several, with escapes and without.
  Each reader starts after the opening quotes and returns the text and what
  follows the closing quotes.
-/
import DocSite.Html.Entity

namespace DocSite.Toml

/-- A space or a tab. -/
def isBlank (c : Char) : Bool := c == ' ' || c == '\t'

/-- What follows a line break at the start of a text. -/
def dropLineBreak? : List Char → Option (List Char)
  | '\n' :: rest => some rest
  | '\r' :: '\n' :: rest => some rest
  | _ => none

/-- A control character that no text and no comment may hold. -/
def isForbidden (c : Char) : Bool := (c.toNat < 32 && c != '\t') || c.toNat == 127

/-! ## Escapes -/

/-- The character of a code point in hexadecimal digits. -/
def codePoint? (digits : List Char) : Option Char :=
  (Html.readHex? digits).bind fun n => if n.isValidChar then some (Char.ofNat n) else none

/-- The character that an escape of one letter stands for. -/
def escaped? : Char → Option Char
  | 'b' => some '\x08'
  | 't' => some '\t'
  | 'n' => some '\n'
  | 'f' => some '\x0c'
  | 'r' => some '\r'
  | 'e' => some '\x1b'
  | '"' => some '"'
  | '\\' => some '\\'
  | _ => none

/-- Puts a character in front of a text that has been read. -/
def andThen (c : Char) (read : Option (List Char × List Char)) :
    Option (List Char × List Char) :=
  read.map fun p => (c :: p.1, p.2)

/-! ## On one line -/

/-- Text between double quotes. -/
def readBasic? : List Char → Option (List Char × List Char)
  | [] => none
  | '"' :: rest => some ([], rest)
  | '\\' :: 'x' :: a :: b :: rest =>
    (codePoint? [a, b]).bind fun c => andThen c (readBasic? rest)
  | '\\' :: 'u' :: a :: b :: c :: d :: rest =>
    (codePoint? [a, b, c, d]).bind fun c => andThen c (readBasic? rest)
  | '\\' :: 'U' :: a :: b :: c :: d :: e :: f :: g :: h :: rest =>
    (codePoint? [a, b, c, d, e, f, g, h]).bind fun c => andThen c (readBasic? rest)
  | '\\' :: c :: rest => (escaped? c).bind fun c => andThen c (readBasic? rest)
  | c :: rest => if isForbidden c || c == '\\' then none else andThen c (readBasic? rest)

/-- Text between single quotes, which has no escapes. -/
def readLiteral? : List Char → Option (List Char × List Char)
  | [] => none
  | '\x27' :: rest => some ([], rest)
  | c :: rest => if isForbidden c then none else andThen c (readLiteral? rest)

/-! ## On several lines -/

/-- The end of a text at three quotes, given what follows them: up to two more
    quotes belong to the text. -/
def closeQuotes (quote : Char) (rest : List Char) : List Char × List Char :=
  let extra := (rest.take 2).takeWhile (· == quote)
  (extra, rest.drop extra.length)

/-- Whether a character may stand in text on several lines, given what follows
    it. A carriage return belongs to a line break. -/
def isTextChar (c : Char) (rest : List Char) : Bool :=
  if c == '\r' then rest.head? == some '\n' else c == '\n' || !isForbidden c

/-- White space between the lines of a text. -/
def isGap (c : Char) : Bool := isBlank c || c == '\n' || c == '\r'

/-- Text between three double quotes. A backslash at the end of a line drops the
    white space up to the next character that is none; `gap` holds while it is
    dropped. -/
def readLongBasic? (gap : Bool) : List Char → Option (List Char × List Char)
  | [] => none
  | '"' :: '"' :: '"' :: rest => some (closeQuotes '"' rest)
  | '\\' :: 'x' :: a :: b :: rest =>
    (codePoint? [a, b]).bind fun c => andThen c (readLongBasic? false rest)
  | '\\' :: 'u' :: a :: b :: c :: d :: rest =>
    (codePoint? [a, b, c, d]).bind fun c => andThen c (readLongBasic? false rest)
  | '\\' :: 'U' :: a :: b :: c :: d :: e :: f :: g :: h :: rest =>
    (codePoint? [a, b, c, d, e, f, g, h]).bind fun c => andThen c (readLongBasic? false rest)
  | '\\' :: c :: rest =>
    if isGap c then
      if (dropLineBreak? ((c :: rest).dropWhile isBlank)).isSome then
        readLongBasic? true (c :: rest)
      else none
    else (escaped? c).bind fun c => andThen c (readLongBasic? false rest)
  | c :: rest =>
    if c == '\\' || !isTextChar c rest then none
    else if gap && isGap c then readLongBasic? true rest
    else andThen c (readLongBasic? false rest)

/-- Text between three single quotes, which has no escapes. -/
def readLongLiteral? : List Char → Option (List Char × List Char)
  | [] => none
  | '\x27' :: '\x27' :: '\x27' :: rest => some (closeQuotes '\x27' rest)
  | c :: rest => if isTextChar c rest then andThen c (readLongLiteral? rest) else none

/-! ## Any quotes -/

/-- Drops a line break at the start. -/
def dropFirstBreak (s : List Char) : List Char := (dropLineBreak? s).getD s

/-- Text between quotes of any kind at the start of a text. -/
def readQuoted? : List Char → Option (List Char × List Char)
  | '"' :: '"' :: '"' :: rest => readLongBasic? false (dropFirstBreak rest)
  | '\x27' :: '\x27' :: '\x27' :: rest => readLongLiteral? (dropFirstBreak rest)
  | '"' :: rest => readBasic? rest
  | '\x27' :: rest => readLiteral? rest
  | _ => none

end DocSite.Toml
