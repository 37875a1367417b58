/-
  DocSite.Toml.Read

  Reading TOML documents: statements line by line, with values that may run over
  several lines inside brackets.
-/
import DocSite.Toml.Scalar
import DocSite.Toml.Table
import DocSite.Toml.Text

namespace DocSite.Toml

/-! ## Between tokens -/

/-- Drops spaces and tabs. -/
def skipBlank (s : List Char) : List Char := s.dropWhile isBlank

/-- Drops a comment at the start. -/
def skipComment : List Char → List Char
  | '#' :: rest => rest.dropWhile (!isForbidden ·)
  | s => s

/-- What follows the rest of a line, which holds nothing but a comment. -/
def endLine? (s : List Char) : Option (List Char) :=
  let s := skipComment (skipBlank s)
  if s.isEmpty then some [] else dropLineBreak? s

/-- Drops white space, line breaks and comments. -/
def skipLines : Nat → List Char → List Char
  | 0, s => s
  | fuel + 1, s =>
    let s := skipComment (skipBlank s)
    match dropLineBreak? s with
    | some rest => skipLines fuel rest
    | none => s

/-- Drops what may stand between the tokens inside brackets. -/
def skipFiller (s : List Char) : List Char := skipLines s.length s

/-! ## Keys -/

/-- A character of a key without quotes. -/
def isKeyChar (c : Char) : Bool := c.isAlphanum || c == '_' || c == '-'

/-- A name of a key, and what follows it. -/
def readName? : List Char → Option (String × List Char)
  | '"' :: rest => (readBasic? rest).map fun p => (String.ofList p.1, p.2)
  | '\x27' :: rest => (readLiteral? rest).map fun p => (String.ofList p.1, p.2)
  | s =>
    let name := s.takeWhile isKeyChar
    if name.isEmpty then none else some (String.ofList name, s.drop name.length)

/-- A key of names with dots between them, and what follows it. -/
def readKeyAfter? (path : List String) : Nat → List Char → Option (Key × List Char)
  | 0, _ => none
  | fuel + 1, s =>
    (readName? s).bind fun (name, rest) =>
      match skipBlank rest with
      | '.' :: rest => readKeyAfter? (path ++ [name]) fuel (skipBlank rest)
      | rest => some (⟨path, name⟩, rest)

/-- A key and what follows it. -/
def readKey? (s : List Char) : Option (Key × List Char) := readKeyAfter? [] s.length s

/-! ## Values -/

/-- How deep lists and tables may be nested in a value. -/
def nestingLimit : Nat := 80

mutual

/-- A value and what follows it, in so many levels of brackets at most. -/
def readValue? (levels : Nat) : Nat → List Char → Option (Value × List Char)
  | 0, _ => none
  | fuel + 1, s =>
    match s with
    | '[' :: rest =>
      if levels = 0 then none
      else (readElements? (levels - 1) fuel (skipFiller rest)).map fun p => (.list p.1, p.2)
    | '\x7b' :: rest =>
      if levels = 0 then none
      else
        (readMembers? (levels - 1) [] fuel (skipFiller rest)).map fun p =>
          (.record (entryValues p.1), p.2)
    | s =>
      match s.head? with
      | some '"' | some '\x27' => (readQuoted? s).map fun p => (.text (String.ofList p.1), p.2)
      | _ => readScalar? s

/-- The elements of a list up to its closing bracket, and what follows it. -/
def readElements? (levels : Nat) : Nat → List Char → Option (List Value × List Char)
  | 0, _ => none
  | fuel + 1, s =>
    match s with
    | ']' :: rest => some ([], rest)
    | s =>
      (readValue? levels fuel s).bind fun (element, rest) =>
        match skipFiller rest with
        | ',' :: rest =>
          (readElements? levels fuel (skipFiller rest)).map fun p => (element :: p.1, p.2)
        | ']' :: rest => some ([element], rest)
        | _ => none

/-- The entries of a table up to its closing brace, and what follows it. -/
def readMembers? (levels : Nat) (entries : Entries) :
    Nat → List Char → Option (Entries × List Char)
  | 0, _ => none
  | fuel + 1, s =>
    match s with
    | '\x7d' :: rest => some (entries, rest)
    | s =>
      (readAssignment? levels fuel s).bind fun (key, value, rest) =>
        -- Keys of a table in braces follow the rules of keys below a header.
        (assign key value ⟨.header, entries⟩).bind fun entries =>
          match skipFiller rest with
          | ',' :: rest => readMembers? levels entries fuel (skipFiller rest)
          | '\x7d' :: rest => some (entries, rest)
          | _ => none

/-- A key with its value, and what follows it. -/
def readAssignment? (levels : Nat) : Nat → List Char → Option (Key × Value × List Char)
  | 0, _ => none
  | fuel + 1, s =>
    (readKey? s).bind fun (key, rest) =>
      match rest with
      | '=' :: rest =>
        (readValue? levels fuel (skipBlank rest)).map fun (value, rest) => (key, value, rest)
      | _ => none

end

/-! ## Statements -/

/-- The statement at the start of a text, and what follows it. -/
def readStatement? (s : List Char) : Option (Statement × List Char) :=
  match s with
  | '[' :: '[' :: rest =>
    (readKey? (skipBlank rest)).bind fun (key, rest) =>
      match rest with
      | ']' :: ']' :: rest => some (.element key, rest)
      | _ => none
  | '[' :: rest =>
    (readKey? (skipBlank rest)).bind fun (key, rest) =>
      match rest with
      | ']' :: rest => some (.table key, rest)
      | _ => none
  | s =>
    (readAssignment? nestingLimit (2 * s.length + 2) s).map fun (key, value, rest) =>
      (.assign key value, rest)

/-- Reads statements into a document. The fuel bounds the number of statements. -/
def readStatements? : Nat → Document → List Char → Option Document
  | 0, _, _ => none
  | fuel + 1, d, s =>
    match skipFiller s with
    | [] => some d
    | s =>
      (readStatement? s).bind fun (statement, rest) =>
        (d.add statement).bind fun d =>
          (endLine? rest).bind fun rest => readStatements? fuel d rest

/-- Drops the mark that a text in Unicode may begin with. -/
def dropByteOrderMark : List Char → List Char
  | '\ufeff' :: rest => rest
  | s => s

/-- The record of a TOML document. -/
def read? (s : List Char) : Option Value :=
  (readStatements? (s.length + 1) .empty (dropByteOrderMark s)).map fun d =>
    .record (entryValues d.entries)

end DocSite.Toml
