/-
  DocSite.Markdown.Autolink

  Addresses that are links by themselves: those in angle brackets, and those in
  plain text that begin with a scheme or with `www.`, or that are mail addresses.
-/
import DocSite.Markdown.Html
import DocSite.Markdown.Reference
import DocSite.Text.Blank

namespace DocSite.Markdown

/-- An address and the text that shows it. -/
structure Autolink where
  url : List Char
  text : List Char
  deriving Repr, DecidableEq

/-! ## In angle brackets -/

/-- A scheme: a letter, then up to 31 letters, digits, `+`, `.` and `-`. -/
def isScheme (s : List Char) : Bool :=
  2 ≤ s.length && s.length ≤ 32 && s.head?.any isAsciiLetter
    && s.all fun c => c.isAlphanum || c == '+' || c == '.' || c == '-'

/-- Whether a text is an address with a scheme. -/
def isUri (s : List Char) : Bool :=
  isScheme (s.takeWhile (· != ':')) && (s.dropWhile (· != ':')).head? == some ':'
    && s.all fun c => 32 < c.toNat && c != '<' && c != '>'

/-- A label of a host name: letters and digits, with dashes inside. -/
def isHostLabel (s : List Char) : Bool :=
  1 ≤ s.length && s.length ≤ 63 && s.all (fun c => c.isAlphanum || c == '-')
    && s.head? != some '-' && s.getLast? != some '-'

/-- A character in front of the `@` of a mail address. -/
def isMailboxChar (c : Char) : Bool :=
  c.isAlphanum || ".!#$%&'*+/=?^_`\x7b|\x7d~-".toList.contains c

/-- Whether a text is a mail address. -/
def isMailAddress (s : List Char) : Bool :=
  let mailbox := s.takeWhile isMailboxChar
  match s.dropWhile isMailboxChar with
  | '@' :: host => !mailbox.isEmpty && (host.splitOn '.').all isHostLabel
  | _ => false

/-- The address in angle brackets, and what follows it, given what follows the
    `<`. -/
def angledAutolink? (s : List Char) : Option (Autolink × List Char) :=
  let body := s.takeWhile (· != '>')
  match s.dropWhile (· != '>') with
  | _ :: after =>
    let text := decodeEntities body.length body
    if isUri body then some (⟨text, text⟩, after)
    else if isMailAddress body then some (⟨"mailto:".toList ++ text, text⟩, after)
    else none
  | [] => none

/-! ## In plain text -/

/-- A character of a host name. -/
def isHostChar (c : Char) : Bool := !Text.isBlank c && !isAsciiPunctuation c

/-- Whether a text begins with a host name. The last two labels of a short name
    hold no underscore, and `short` tells whether a name may lack a dot. The
    numbers count dots and the underscores of the last two labels. -/
def beginsWithHost (short : Bool) (dots before last : Nat) : List Char → Bool
  | [] => !((0 < before || 0 < last) && dots ≤ 10) && (short || 0 < dots)
  | c :: rest =>
    if c = '_' then beginsWithHost short dots before (last + 1) rest
    else if c = '.' then beginsWithHost short (dots + 1) last 0 rest
    else if isHostChar c || c = '-' then beginsWithHost short dots before last rest
    else before = 0 && last = 0 && (short || 0 < dots)

/-- Drops from the end of an address what belongs to the text around it:
    punctuation, a character reference, and closing parentheses without their
    opening ones. The address is given in reverse. -/
def trimAddress (s : List Char) : List Char :=
  match s with
  | [] => []
  | c :: older =>
    if "?!.,:*_~'\"".toList.contains c then trimAddress older
    else if c = ';' then
      -- A semicolon goes alone, or with the whole reference that it ends.
      let letters := older.takeWhile isAsciiLetter
      if !letters.isEmpty && (older.drop letters.length).head? = some '&' then
        trimAddress (older.drop (letters.length + 1))
      else trimAddress older
    else if c = ')' then
      -- A parenthesis that the address opens itself belongs to it.
      if s.count ')' ≤ s.count '(' then s else trimAddress older
    else s
termination_by s.length
decreasing_by all_goals simp +arith

/-- The address at the start of a text: up to white space or `<`, without what
    belongs to the text after it. -/
def addressText (s : List Char) : List Char :=
  (trimAddress (s.takeWhile fun c => !isAsciiSpace c && c != '<').reverse).reverse

/-- An address that begins with `www.`, given the characters before it in
    reverse. -/
def wwwAutolink? (before s : List Char) : Option Autolink :=
  let free := before.head?.all fun c => isAsciiSpace c || "*_~([".toList.contains c
  if free && "www.".toList.isPrefixOf s && beginsWithHost false 0 0 0 s then
    let text := addressText s
    some ⟨"http://".toList ++ text, text⟩
  else none

/-- Schemes of addresses in plain text. -/
def plainSchemes : List String := ["http", "https", "ftp"]

/-- An address with a scheme, given the characters before its colon in reverse
    and what follows from the colon on. The text begins with the scheme. -/
def schemeAutolink? (before s : List Char) : Option Autolink :=
  let scheme := (before.takeWhile isAsciiLetter).reverse
  match s with
  | ':' :: '/' :: '/' :: host =>
    if plainSchemes.contains (String.ofList scheme) && beginsWithHost true 0 0 0 host then
      let text := scheme ++ addressText s
      some ⟨text, text⟩
    else none
  | _ => none

/-! ## Mail addresses in plain text -/

/-- A character of a mail address in plain text, before its `@`. -/
def isPlainMailboxChar (c : Char) : Bool := c.isAlphanum || ".+-_".toList.contains c

/-- Schemes that a mail address in plain text may begin with. -/
def mailSchemes : List String := ["mailto", "xmpp"]

/-- The characters before an `@` that belong to a mail address, and the scheme
    that they begin with. Characters are given and returned in reverse. -/
def mailboxBefore (before : List Char) : List Char × Option String :=
  let near := before.takeWhile isPlainMailboxChar
  match before.drop near.length with
  | ':' :: rest =>
    let scheme := String.ofList (rest.takeWhile isAsciiLetter).reverse
    if mailSchemes.contains scheme then
      (near ++ ':' :: rest.takeWhile isPlainMailboxChar, some scheme)
    else (near, none)
  | _ => (near, none)

/-- The number of characters after an `@` that may belong to a host name, and the
    number of dots among them. A second `@` makes it no address. -/
def mailHost? (xmpp : Bool) : List Char → Option (Nat × Nat)
  | [] => some (0, 0)
  | c :: rest =>
    let next := fun dots => (mailHost? xmpp rest).map fun p => (p.1 + 1, p.2 + dots)
    if c.isAlphanum then next 0
    else if c = '@' then none
    else if c = '.' && rest.head?.any Char.isAlphanum then next 1
    else if c = '-' || c = '_' || (c = '/' && xmpp) then next 0
    else some (0, 0)

/-- The mail address around an `@`, given the characters before it in reverse and
    what follows it: the characters before the `@` in reverse, those after it, and
    the address that they link to. -/
def mailAutolink? (before after : List Char) : Option (List Char × List Char × Autolink) :=
  let (mailbox, scheme) := mailboxBefore before
  if mailbox.isEmpty then none
  else
    (mailHost? (scheme == some "xmpp") after).bind fun (length, dots) =>
      let host := after.take length
      if dots = 0 || !(host.getLast?.any fun c => isAsciiLetter c || c = '.') then none
      else
        let host := (addressText ('@' :: host)).tail
        let text := mailbox.reverse ++ '@' :: host
        let url := if scheme.isSome then text else "mailto:".toList ++ text
        some (mailbox, host, ⟨url, text⟩)

end DocSite.Markdown
