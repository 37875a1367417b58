/-
  DocSite.Heading.Ids

  Identifiers of headings. An identifier is the slug of the heading's text,
  preceded by `section` when the slug does not start with a letter. A base that
  has been issued before gets the next numeric suffix that is free.
-/
import DocSite.Heading.Slug
import DocSite.Text.Decimal

namespace DocSite

open DocSite.Text

/-- The identifiers issued so far. -/
structure HeadingIds where
  /-- The next suffix to try for each base that has been asked for; the first
      entry of a base counts. -/
  nextSuffix : List (List Char × Nat)
  issued : List (List Char)
  deriving Repr, DecidableEq

namespace HeadingIds

/-- No identifier has been issued. -/
def empty : HeadingIds := ⟨[], []⟩

/-- The identifier a text asks for. -/
def base (text : List Char) : List Char :=
  match Heading.slugify text with
  | [] => "section".toList
  | c :: rest => if isAlphabetic c then c :: rest else "section-".toList ++ c :: rest

/-- A base with a suffix; the suffix zero is not written. -/
def candidate (base : List Char) : Nat → List Char
  | 0 => base
  | n + 1 => base ++ '-' :: decimal (n + 1)

/-- The first suffix from `n` on whose candidate has not been issued, within the
    given number of attempts. -/
def freeSuffix (issued : List (List Char)) (base : List Char) : Nat → Nat → Nat
  | 0, n => n
  | attempts + 1, n =>
    if issued.contains (candidate base n) then freeSuffix issued base attempts (n + 1) else n

/-- The first suffix that has not been ruled out for a base. -/
def suffixFrom (ids : HeadingIds) (base : List Char) : Nat := (ids.nextSuffix.lookup base).getD 0

/-- Issues the identifier for a heading's text. Of more candidates than there are
    issued identifiers one is free, so the search needs no more attempts. -/
def generate (ids : HeadingIds) (text : List Char) : List Char × HeadingIds :=
  let base := base text
  -- Other headings may have taken a suffixed form of this base as their own base.
  let n := freeSuffix ids.issued base (ids.issued.length + 1) (ids.suffixFrom base)
  let id := candidate base n
  (id, ⟨(base, n + 1) :: ids.nextSuffix, id :: ids.issued⟩)

end HeadingIds

end DocSite
