/-
  DocSite.Markdown.Reference

  Labels, destinations and titles of links, and the definitions that give a
  label its destination. Of several definitions of a label the first counts.
-/
import DocSite.Html.Entity
import DocSite.Markdown.Html
import DocSite.Text.Blank
import DocSite.Text.CaseFold

namespace DocSite.Markdown

open DocSite.Text

/-! ## Character references and escapes -/

/-- The character of a numeric reference; what is no scalar value, and zero,
    becomes the replacement character. -/
def numericChar (n : Nat) : Char :=
  if n = 0 || !n.isValidChar then '\uFFFD' else Char.ofNat n

/-- The character of a numeric reference with at most the given number of digits,
    and what follows it. -/
def numericEntity? (isDigit : Char → Bool) (read? : List Char → Option Nat) (most : Nat)
    (s : List Char) : Option (List Char × List Char) :=
  let digits := s.takeWhile isDigit
  match s.dropWhile isDigit with
  | ';' :: rest =>
    if digits.length ≤ most then (read? digits).map fun n => ([numericChar n], rest) else none
  | _ => none

/-- The characters of the reference after an `&`, and what follows it. -/
def entity? : List Char → Option (List Char × List Char)
  | '#' :: 'x' :: s => numericEntity? (Html.hexDigitValue? · |>.isSome) Html.readHex? 6 s
  | '#' :: 'X' :: s => numericEntity? (Html.hexDigitValue? · |>.isSome) Html.readHex? 6 s
  | '#' :: s => numericEntity? Char.isDigit readDecimal? 7 s
  | s =>
    match s.dropWhile Char.isAlphanum with
    | ';' :: rest => (Html.namedReference? (s.takeWhile Char.isAlphanum)).map (·, rest)
    | _ => none

/-- Decodes character references, in as many steps as the first number at
    most. -/
def decodeEntities : Nat → List Char → List Char
  | 0, s => s
  | _ + 1, [] => []
  | n + 1, '&' :: rest =>
    match entity? rest with
    | some (chars, after) => chars ++ decodeEntities n after
    | none => '&' :: decodeEntities n rest
  | n + 1, c :: rest => c :: decodeEntities n rest

/-- Drops the backslashes that escape punctuation. -/
def dropEscapes : List Char → List Char
  | [] => []
  | [c] => [c]
  | c :: d :: rest =>
    if c = '\\' && isAsciiPunctuation d then d :: dropEscapes rest else c :: dropEscapes (d :: rest)

/-- Text with references decoded and escapes dropped. -/
def unescape (s : List Char) : List Char := dropEscapes (decodeEntities s.length s)

/-! ## Labels -/

/-- Puts one space for every run of white space. -/
def collapseBlanks (s : List Char) : List Char := [' '].intercalate (words s)

/-- The label under which definitions are found. -/
def foldLabel (s : List Char) : List Char := foldCase (collapseBlanks s)

/-- A character in front of what a scanner has found. -/
def consFound (c : Char) (found : Option (List Char × List Char)) :
    Option (List Char × List Char) :=
  found.map fun p => (c :: p.1, p.2)

/-- Whether a character is taken literally because a backslash stands before
    it. -/
def isEscaped (afterBackslash : Bool) (c : Char) : Bool := afterBackslash && isAsciiPunctuation c

/-- The text up to the bracket that closes a label, and what follows the bracket,
    given how many characters a label may still have. -/
def labelText? (afterBackslash : Bool) : Nat → List Char → Option (List Char × List Char)
  | _, [] => none
  | n, c :: rest =>
    if !isEscaped afterBackslash c && c = ']' then some ([], rest)
    -- A label holds no brackets, except for escaped ones.
    else if !isEscaped afterBackslash c && c = '[' then none
    else
      match n with
      | 0 => none
      | n + 1 =>
        consFound c (labelText? (!isEscaped afterBackslash c && c == '\\') n rest)

/-- A label in brackets, without them, and what follows it. -/
def label? : List Char → Option (List Char × List Char)
  | '[' :: rest => (labelText? false 1000 rest).map fun p => (trimAscii p.1, p.2)
  | _ => none

/-! ## Destinations -/

/-- A destination up to the `>` that ends it. -/
def angledDestination? (afterBackslash : Bool) : List Char → Option (List Char × List Char)
  | [] => none
  | c :: rest =>
    if afterBackslash then consFound c (angledDestination? false rest)
    else if c = '>' then some ([], rest)
    else if isLineEnd c || c = '<' then none
    else consFound c (angledDestination? (c == '\\') rest)

/-- A character that ends a destination: white space or a control character. -/
def endsDestination (c : Char) : Bool := isAsciiSpace c || c.toNat < 32 || c.toNat = 127

/-- A destination up to white space, a control character or a parenthesis that
    closes none of it, given the number of open parentheses. -/
def plainDestination? (afterBackslash : Bool) : Nat → List Char → Option (List Char × List Char)
  | depth, [] => if depth = 0 then some ([], []) else none
  | depth, c :: rest =>
    if isEscaped afterBackslash c then consFound c (plainDestination? false depth rest)
    else if c = '(' then
      -- Parentheses nest to a depth of 32.
      if 32 ≤ depth then none else consFound c (plainDestination? false (depth + 1) rest)
    else if c = ')' then
      if depth = 0 then some ([], c :: rest)
      else consFound c (plainDestination? false (depth - 1) rest)
    else if endsDestination c then if depth = 0 then some ([], c :: rest) else none
    else consFound c (plainDestination? (c == '\\') depth rest)

/-- The destination of a link, and what follows it. -/
def destination? : List Char → Option (List Char × List Char)
  | [] => none
  | '<' :: rest => angledDestination? false rest
  | c :: rest => if endsDestination c then none else plainDestination? false 0 (c :: rest)

/-- A destination as it is followed. -/
def cleanUrl (s : List Char) : List Char := unescape (trimAscii s)

/-! ## Titles -/

/-- A title up to the character that closes it. A parenthesis in parentheses has
    to be escaped. -/
def titleText? (close : Char) (afterBackslash : Bool) :
    List Char → Option (List Char × List Char)
  | [] => none
  | c :: rest =>
    if isEscaped afterBackslash c then consFound c (titleText? close false rest)
    else if c = close then some ([], rest)
    else if close = ')' && c = '(' then none
    else consFound c (titleText? close (c == '\\') rest)

/-- The title of a link without its quotes, and what follows it. -/
def title? : List Char → Option (List Char × List Char)
  | '"' :: rest => titleText? '"' false rest
  | '\'' :: rest => titleText? '\'' false rest
  | '(' :: rest => titleText? ')' false rest
  | _ => none

/-! ## Definitions -/

/-- A destination and a title. -/
structure Target where
  url : List Char
  title : List Char
  deriving Repr, DecidableEq

/-- Definitions by label, the first of which counts. -/
abbrev References := List (List Char × Target)

/-- Drops spaces and tabs, and at most one end of a line among them. -/
def skipToNextLine (s : List Char) : List Char :=
  match s.dropWhile isSpaceOrTab with
  | '\r' :: '\n' :: rest => rest.dropWhile isSpaceOrTab
  | c :: rest => if isLineEnd c then rest.dropWhile isSpaceOrTab else c :: rest
  | [] => []

/-- The rest after the end of a line, which spaces and tabs may precede. -/
def lineEnd? (s : List Char) : Option (List Char) :=
  match s.dropWhile isSpaceOrTab with
  | [] => some []
  | '\r' :: '\n' :: rest => some rest
  | c :: rest => if isLineEnd c then some rest else none

/-- The title after a destination and the rest of the definition. A title that is
    not alone in the rest of its line is none. -/
def definitionTitle? (s : List Char) : Option (List Char × List Char) :=
  let t := skipToNextLine s
  let titled :=
    -- A title needs white space in front of it.
    if t.length = s.length then none
    else (title? t).bind fun p => (lineEnd? p.2).map (p.1, ·)
  titled.or ((lineEnd? s).map ([], ·))

/-- A definition at the start of a paragraph, and what follows it. -/
def definition? (s : List Char) : Option ((List Char × Target) × List Char) :=
  match label? s with
  | some (label, ':' :: rest) =>
    if label.isEmpty then none
    else
      (destination? (skipToNextLine rest)).bind fun p =>
        (definitionTitle? p.2).map fun q =>
          ((foldLabel label, ⟨cleanUrl p.1, unescape q.1⟩), q.2)
  | _ => none

/-- Takes the definitions off the start of a paragraph, at most as many as the
    first number. -/
def takeDefinitions : Nat → List Char → References × List Char
  | 0, s => ([], s)
  | n + 1, s =>
    match definition? s with
    | some (d, rest) =>
      let (ds, rest) := takeDefinitions n rest
      (d :: ds, rest)
    | none => ([], s)

end DocSite.Markdown
