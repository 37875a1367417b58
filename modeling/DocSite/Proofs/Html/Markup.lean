/-
  DocSite.Proofs.Html.Markup

  Markup as a reader of the page sees it: characters from left to right, with
  the names of the elements that are open. A `<` begins a tag, which opens an
  element, closes the one that was opened last, or stands for one of the
  elements without content. Attributes are values in double quotes, and no tag
  has a key twice.

  Reading is a fold over the characters, so that the reading of a page is put
  together from the readings of its parts. A part that leaves the open elements
  as they are can stand anywhere between tags.
-/
import DocSite.Html.Basic
import DocSite.Text.Blank

namespace DocSite.Markup

open DocSite.Text

/-! ## Names -/

/-- The characters of the names of elements. -/
def isTagChar (c : Char) : Bool := c.isAlphanum || c == '-'

/-- The characters of the keys of attributes: all but white space and those
    that end a key, a value or a tag. -/
def isKeyChar (c : Char) : Bool :=
  !isBlank c && c != '"' && c != '\'' && c != '<' && c != '>' && c != '/' && c != '='

/-- A name that can begin a tag. -/
def IsElementName (tag : List Char) : Prop := tag.head?.any Char.isAlpha ∧ ∀ c ∈ tag, isTagChar c

instance (tag : List Char) : Decidable (IsElementName tag) :=
  decidable_of_iff (tag.head?.any Char.isAlpha ∧ tag.all isTagChar)
    (and_congr_right fun _ => List.all_eq_true)

/-- A key that can stand in a tag as it is. -/
def IsPlainName (key : String) : Prop := key.toList ≠ [] ∧ ∀ c ∈ key.toList, isKeyChar c

instance (key : String) : Decidable (IsPlainName key) :=
  decidable_of_iff (key.toList ≠ [] ∧ key.toList.all isKeyChar)
    (and_congr_right fun _ => List.all_eq_true)

/-- The elements that are closed in their own tag. -/
def voidTags : List (List Char) := ["img".toList, "br".toList, "hr".toList]

/-! ## Reading -/

/-- A tag, with the keys of its attributes. -/
inductive Tag where
  | opening (tag : List Char) (keys : List (List Char))
  | closing (tag : List Char)
  | void (tag : List Char) (keys : List (List Char))
  deriving DecidableEq, Repr

/-- Where in the markup a character stands. A tag is known by its name and by
    the keys that it has so far. -/
inductive Mode where
  /-- Between tags. -/
  | text
  /-- After a `<`. -/
  | opened
  /-- In the name of a tag that does not close an element. -/
  | name (tag : List Char)
  /-- After the white space before an attribute or the end of a tag. -/
  | inside (tag : List Char) (keys : List (List Char))
  /-- In a key. -/
  | key (tag : List Char) (keys : List (List Char)) (key : List Char)
  /-- After the `=` that follows a key. -/
  | equals (tag : List Char) (keys : List (List Char))
  /-- In a value. -/
  | value (tag : List Char) (keys : List (List Char))
  /-- After a value. -/
  | valued (tag : List Char) (keys : List (List Char))
  /-- After the `/` that ends the tag of an element without content. -/
  | slash (tag : List Char) (keys : List (List Char))
  /-- In the name of a tag that closes an element. -/
  | ending (tag : List Char)
  deriving DecidableEq, Repr

/-- How far markup has been read. -/
structure State where
  mode : Mode
  /-- The names of the elements that are open, the innermost first. -/
  stack : List (List Char)
  /-- The tags read so far. -/
  tags : List Tag
  deriving DecidableEq, Repr

/-- Reads what may follow the name of a tag or one of its values. -/
def leave (tag : List Char) (keys : List (List Char)) (stack : List (List Char)) (tags : List Tag)
    (c : Char) : Option State :=
  if isBlank c then some ⟨.inside tag keys, stack, tags⟩
  else if c = '/' then some ⟨.slash tag keys, stack, tags⟩
  else if c = '>' then some ⟨.text, tag :: stack, tags ++ [.opening tag keys]⟩
  else none

/-- Reads one character. -/
def step (s : State) (c : Char) : Option State :=
  match s with
  | ⟨.text, stack, tags⟩ =>
    if c = '<' then some ⟨.opened, stack, tags⟩ else some ⟨.text, stack, tags⟩
  | ⟨.opened, stack, tags⟩ =>
    if c = '/' then some ⟨.ending [], stack, tags⟩
    else if c.isAlpha then some ⟨.name [c], stack, tags⟩
    else none
  | ⟨.name tag, stack, tags⟩ =>
    if isTagChar c then some ⟨.name (tag ++ [c]), stack, tags⟩ else leave tag [] stack tags c
  | ⟨.inside tag keys, stack, tags⟩ =>
    if isKeyChar c then some ⟨.key tag keys [c], stack, tags⟩ else leave tag keys stack tags c
  | ⟨.key tag keys key, stack, tags⟩ =>
    if isKeyChar c then some ⟨.key tag keys (key ++ [c]), stack, tags⟩
    -- No tag has a key twice.
    else if c = '=' ∧ key ∉ keys then some ⟨.equals tag (keys ++ [key]), stack, tags⟩
    else none
  | ⟨.equals tag keys, stack, tags⟩ =>
    if c = '"' then some ⟨.value tag keys, stack, tags⟩ else none
  | ⟨.value tag keys, stack, tags⟩ =>
    if c = '"' then some ⟨.valued tag keys, stack, tags⟩
    else if c = '<' then none
    else some ⟨.value tag keys, stack, tags⟩
  | ⟨.valued tag keys, stack, tags⟩ => leave tag keys stack tags c
  | ⟨.slash tag keys, stack, tags⟩ =>
    if c = '>' ∧ tag ∈ voidTags then some ⟨.text, stack, tags ++ [.void tag keys]⟩ else none
  | ⟨.ending tag, stack, tags⟩ =>
    if isTagChar c then some ⟨.ending (tag ++ [c]), stack, tags⟩
    -- An element is closed before those around it.
    else if c = '>' ∧ stack.head? = some tag then some ⟨.text, stack.tail, tags ++ [.closing tag]⟩
    else none

/-- Reads characters one after the other. -/
def scan (s : State) (markup : List Char) : Option State := markup.foldlM step s

/-- Reads whole markup, which leaves no tag unfinished and no element open, and
    yields its tags. -/
def read? (markup : List Char) : Option (List Tag) :=
  match scan ⟨.text, [], []⟩ markup with
  | some ⟨.text, [], tags⟩ => some tags
  | _ => none

/-- Markup whose tags are complete and match like brackets. -/
def WellFormed (markup : List Char) : Prop := (read? markup).isSome

instance (markup : List Char) : Decidable (WellFormed markup) :=
  inferInstanceAs (Decidable ((read? markup).isSome = true))

theorem scan_append (s : State) (a b : List Char) :
    scan s (a ++ b) = (scan s a).bind fun t => scan t b := by
  rw [scan, List.foldlM_append]
  rfl

theorem scan_cons (s : State) (c : Char) (rest : List Char) :
    scan s (c :: rest) = (step s c).bind fun t => scan t rest := by
  rw [scan, List.foldlM_cons]
  rfl

end DocSite.Markup
