/-
  DocSite.Markdown.Inlines

  Running text, read from left to right into pieces. A closing bracket makes a
  link or an image of the pieces since its opening bracket; runs that mark
  emphasis are settled inside links first and in the whole text at last.
-/
import DocSite.Markdown.Autolink
import DocSite.Markdown.Emphasis
import DocSite.Text.Punctuation

namespace DocSite.Markdown

/-! ## Reading -/

/-- What has been read of a text. -/
structure TextReader where
  /-- The pieces, the last first. -/
  pieces : List Piece
  /-- The characters that have been read, the last first. -/
  before : List Char
  /-- Whether the last bracket is an opening one. -/
  inBrackets : Bool
  /-- Whether a link has ended since the last bracket that could begin one. -/
  linkEnded : Bool

namespace TextReader

/-- The start of a text. -/
def start : TextReader := ⟨[], [], false, false⟩

/-- Adds a piece. -/
def push (r : TextReader) (piece : Piece) : TextReader := { r with pieces := piece :: r.pieces }

/-- Adds text. -/
def pushText (r : TextReader) (s : List Char) : TextReader := r.push (.text s)

/-- Adds an inline. -/
def pushNode (r : TextReader) (inline : Inline) : TextReader := r.push (.node inline)

end TextReader

/-- A reader after a construct, and the number of characters of the construct
    after its first. -/
abbrev Reading := TextReader × Nat

/-- The number of characters between a text and one of its ends. -/
def lengthTo (s rest : List Char) : Nat := s.length - rest.length

/-! ## Code -/

/-- The text up to a run of backticks of the given length, given the number of
    backticks that have just been read. -/
def untilTicks? (length run : Nat) : List Char → Option (List Char)
  | [] => if run = length then some [] else none
  | c :: rest =>
    if c = '`' then untilTicks? length (run + 1) rest
    else if run = length then some []
    else
      (untilTicks? length 0 rest).map fun s => List.replicate run '`' ++ c :: s

/-- Code as it is kept: ends of lines are spaces, and one space at either end is
    dropped unless there is nothing else. -/
def cleanCode (s : List Char) : List Char :=
  let s := spaced s
  if s.head? = some ' ' && s.getLast? = some ' ' && s.any (· != ' ') then s.tail.dropLast else s
where
  /-- Ends of lines as spaces. -/
  spaced : List Char → List Char
    | [] => []
    | '\r' :: '\n' :: rest => ' ' :: spaced rest
    | c :: rest => (if isLineEnd c then ' ' else c) :: spaced rest

/-- A run of backticks, given what follows its first, and the code up to the run
    that closes it. -/
def readTicks (r : TextReader) (rest : List Char) : Reading :=
  let more := (rest.takeWhile (· == '`')).length
  match untilTicks? (more + 1) 0 (rest.drop more) with
  | some code =>
    (r.pushNode (.code (String.ofList (cleanCode code))), more + code.length + more + 1)
  | none => (r.pushText (List.replicate (more + 1) '`'), more)

/-! ## Breaks and escapes -/

/-- The number of characters of the line end at the start of a text. -/
def lineEndLength : List Char → Nat
  | '\r' :: '\n' :: _ => 2
  | c :: _ => if isLineEnd c then 1 else 0
  | [] => 0

/-- The end of a line: a hard break when two spaces precede it. -/
def readLineEnd (r : TextReader) (c : Char) (rest : List Char) : Reading :=
  -- The text before has lost its spaces; the characters that were read have not.
  let hard := [' ', ' '].isPrefixOf r.before
  let more := lineEndLength (c :: rest) - 1
  (r.pushNode (if hard then .lineBreak else .softBreak),
    more + ((rest.drop more).takeWhile isSpaceOrTab).length)

/-- A backslash: it escapes punctuation and makes a hard break of the end of a
    line. -/
def readBackslash (r : TextReader) (rest : List Char) : Reading :=
  match rest with
  | c :: _ =>
    if isAsciiPunctuation c then (r.pushText [c], 1)
    else if isLineEnd c then (r.pushNode .lineBreak, lineEndLength rest)
    else (r.pushText ['\\'], 0)
  | [] => (r.pushText ['\\'], 0)

/-- A character reference. -/
def readAmpersand (r : TextReader) (rest : List Char) : Reading :=
  match entity? rest with
  | some (chars, after) => (r.pushText chars, lengthTo rest after)
  | none => (r.pushText ['&'], 0)

/-! ## Addresses and raw HTML -/

/-- The link to an address. -/
def Autolink.toInline (link : Autolink) : Inline :=
  .link (String.ofList link.url) "" [.text (String.ofList link.text)]

/-- An address in angle brackets, or raw HTML. -/
def readAngle (r : TextReader) (rest : List Char) : Reading :=
  match angledAutolink? rest with
  | some (link, after) => (r.pushNode link.toInline, lengthTo rest after)
  | none =>
    match rawHtml? rest with
    | some after =>
      let length := lengthTo rest after
      (r.pushNode (.html (String.ofList ('<' :: rest.take length))), length)
    | none => (r.pushText ['<'], 0)

/-- Takes a number of characters of text off the end of the pieces. -/
def dropText : Nat → List Piece → List Piece
  | 0, pieces => pieces
  | n + 1, .text s :: rest =>
    if n + 1 < s.length then .text (s.take (s.length - (n + 1))) :: rest
    else dropText (n + 1 - s.length) rest
  | _, pieces => pieces

/-- A colon, which may stand in an address with a scheme. -/
def readColon (r : TextReader) (rest : List Char) : Reading :=
  match if r.inBrackets then none else schemeAutolink? r.before (':' :: rest) with
  | some link =>
    -- The scheme has been read as text and is taken back.
    let scheme := (r.before.takeWhile isAsciiLetter).length
    ({ r with pieces := .node link.toInline :: dropText scheme r.pieces },
      link.text.length - scheme - 1)
  | none => (r.pushText [':'], 0)

/-- The letter that addresses with `www.` begin with. -/
def readW (r : TextReader) (rest : List Char) : Reading :=
  match if r.inBrackets then none else wwwAutolink? r.before ('w' :: rest) with
  | some link => (r.pushNode link.toInline, link.text.length - 1)
  | none => (r.pushText ['w'], 0)

/-! ## Emphasis -/

/-- A run of a character that marks emphasis. It opens where it is not followed,
    and closes where it is not preceded, by white space, with further conditions
    next to punctuation and for `_`. -/
def readRun (r : TextReader) (c : Char) (rest : List Char) : Reading :=
  let more := (rest.takeWhile (· == c)).length
  -- The ends of a text count as ends of lines.
  let previous := r.before.headD '\n'
  let next := (rest.drop more).headD '\n'
  let left := !Text.isBlank next
    && (!Text.isPunctuation next || Text.isBlank previous || Text.isPunctuation previous)
  let right := !Text.isBlank previous
    && (!Text.isPunctuation previous || Text.isBlank next || Text.isPunctuation next)
  let canOpen := if c = '_' then left && (!right || Text.isPunctuation previous) else left
  let canClose := if c = '_' then right && (!left || Text.isPunctuation next) else right
  let length := more + 1
  let piece :=
    if canOpen || canClose then .run c length length canOpen canClose
    else .text (List.replicate length c)
  (r.push piece, more)

/-! ## Brackets -/

/-- Marks the last opening bracket as followed by another one. -/
def followBracket : List Piece → List Piece
  | [] => []
  | .bracket image _ after :: rest => .bracket image true after :: rest
  | piece :: rest => piece :: followBracket rest

/-- An opening bracket, given the characters after it. -/
def openBracket (r : TextReader) (image : Bool) (after : List Char) : TextReader :=
  { r with
    pieces := .bracket image false after :: followBracket r.pieces
    inBrackets := true
    linkEnded := if image then r.linkEnded else false }

/-- The pieces since the last opening bracket, the bracket, and the pieces before
    it. The last pieces are first. -/
def splitBracket : List Piece → Option (List Piece × (Bool × Bool × List Char) × List Piece)
  | [] => none
  | .bracket image followed after :: rest => some ([], (image, followed, after), rest)
  | piece :: rest => (splitBracket rest).map fun p => (piece :: p.1, p.2)

/-- The destination and the title in parentheses after a label, and what follows
    them. -/
def inlineTarget? (s : List Char) : Option (Target × List Char) :=
  match s with
  | '(' :: s =>
    (destination? (skipSpace s)).bind fun (url, afterUrl) =>
      -- A title needs white space in front of it.
      let spaced := skipSpace afterUrl
      let (title, afterTitle) :=
        if spaced.length = afterUrl.length then ([], spaced) else (title? spaced).getD ([], spaced)
      match skipSpace afterTitle with
      | ')' :: rest => some (⟨cleanUrl url, unescape title⟩, rest)
      | _ => none
  | _ => none

/-- The target that a label refers to: the label in brackets after the closing
    bracket, or the text between the brackets. -/
def referredTarget? (references : References) (followed : Bool) (inside rest : List Char) :
    Option (Target × List Char) :=
  let byInside :=
    if followed then none else references.lookup (foldLabel inside)
  match label? rest with
  | some (label, after) =>
    -- Empty brackets refer by the text before them.
    if label.isEmpty then byInside.map (·, after)
    else (references.lookup (foldLabel label)).map (·, after)
  | none => byInside.map (·, rest)

/-- The name of the footnote that the pieces between brackets refer to. -/
def footnoteName? (inner : List Piece) : Option (List Char) :=
  match inner.reverse with
  | .text ('^' :: _) :: _ =>
    let name := (inner.reverse.flatMap fun
      | .node (.html s) => s.toList
      | piece => piece.literal).drop 1
    if name.isEmpty then none else some name
  | _ => none

/-- A closing bracket, given what follows it. -/
def closeBracket (references : References) (r : TextReader) (rest : List Char) : Reading :=
  let r := { r with inBrackets := false }
  match splitBracket r.pieces with
  | none => (r.pushText [']'], 0)
  | some (inner, (image, followed, after), older) =>
    let opening := Piece.text (Piece.bracket image followed after).literal
    let plain := { r with pieces := .text [']'] :: (inner ++ opening :: older) }
    -- Text that holds a link makes no other.
    if !image && r.linkEnded then (plain, 0)
    else
      -- What stands between the brackets, as it is written.
      let inside := after.take (after.length - rest.length - 1)
      match (inlineTarget? rest).or (referredTarget? references followed inside rest) with
      | some (target, afterTarget) =>
        let body := settlePieces inner.reverse
        let url := String.ofList target.url
        let title := String.ofList target.title
        let node := if image then Inline.image url title body else .link url title body
        ({ r with
          pieces := .node node :: older
          linkEnded := r.linkEnded || !image }, lengthTo rest afterTarget)
      | none =>
        match footnoteName? inner with
        | some name =>
          ({ r with pieces := .node (.footnoteRef (String.ofList name) 0 0) :: older }, 0)
        | none => (plain, 0)

/-! ## Text -/

/-- Characters at which something other than text may begin. -/
def isSpecial (c : Char) : Bool := isLineEnd c || "`\\&<:w*_~[]!".toList.contains c

/-- Text up to a special character. White space at the end of a line is dropped. -/
def readText (r : TextReader) (c : Char) (rest : List Char) : Reading :=
  let more := rest.takeWhile fun d => !isSpecial d
  let text := c :: more
  let ends := (rest.drop more.length).head?.any isLineEnd
  (r.pushText (if ends then trimEndAscii text else text), more.length)

/-- The construct that begins with a character. -/
def readConstruct (references : References) (r : TextReader) (c : Char) (rest : List Char) :
    Reading :=
  if isLineEnd c then readLineEnd r c rest
  else
    match c with
    | '`' => readTicks r rest
    | '\\' => readBackslash r rest
    | '&' => readAmpersand r rest
    | '<' => readAngle r rest
    | ':' => readColon r rest
    | 'w' => readW r rest
    | '*' | '_' | '~' => readRun r c rest
    | '[' => (openBracket r false rest, 0)
    | ']' => closeBracket references r rest
    | '!' =>
      match rest with
      | '[' :: '^' :: _ => (r.pushText ['!'], 0)
      | '[' :: after => (openBracket r true after, 1)
      | _ => (r.pushText ['!'], 0)
    | _ => readText r c rest

/-- Reads constructs up to the end of the text. -/
def readConstructs (references : References) (r : TextReader) (s : List Char) : TextReader :=
  match s with
  | [] => r
  | c :: rest =>
    let (next, more) := readConstruct references r c rest
    readConstructs references { next with before := (rest.take more).reverse ++ c :: r.before }
      (rest.drop more)
termination_by s.length
decreasing_by simp +arith

/-- Reads running text. White space at its end is dropped. -/
def readInlines (references : References) (s : List Char) : List Inline :=
  settlePieces (readConstructs references .start (trimEndAscii s)).pieces.reverse

end DocSite.Markdown
