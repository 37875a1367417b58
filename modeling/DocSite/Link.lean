/-
  DocSite.Link

  Targets of hyperlinks: which ones leave the site, and what becomes of a
  target on the page that links to it.
-/
import DocSite.Html.Escape
import DocSite.Path

namespace DocSite.Link

open DocSite.Text DocSite.Html

/-! ## Targets that leave the site -/

/-- The beginnings of targets outside the site. -/
def externalPrefixes : List String := ["http://", "https://", "ftp://", "//"]

/-- Whether a target leads outside the site. -/
def isExternal (target : List Char) : Bool :=
  externalPrefixes.any fun start => start.toList.isPrefixOf target

/-! ## Extensions -/

/-- Drops the given number of UTF-8 bytes from the front, when they are whole
    characters. -/
def dropBytes? : Nat → List Char → Option (List Char)
  | 0, s => some s
  | _ + 1, [] => none
  | n + 1, c :: rest => if c.utf8Size ≤ n + 1 then dropBytes? (n + 1 - c.utf8Size) rest else none

/-- The number of UTF-8 bytes of a text. -/
def byteLength : List Char → Nat
  | [] => 0
  | c :: rest => c.utf8Size + byteLength rest

/-- A target without the extension of its path. As many bytes are cut off the
    end as the extension and its dot take, which has no result when the cut falls
    inside a character. -/
def stripExtension? (target : List Char) : Option (List Char) :=
  if target.getLast? == some '/' then some target
  else
    match Path.extension? target with
    | none => some target
    | some ext => (dropBytes? (byteLength ext + 1) target.reverse).map List.reverse

/-- Whether a path names a Markdown page. -/
def isMarkdownPath (path : List Char) : Bool :=
  path.getLast? != some '/' && Path.extension? path == some "md".toList

/-! ## Targets on a page -/

/-- A target as it stands on a page. -/
structure PageTarget where
  /-- The value of the `href` attribute. -/
  href : String
  /-- Whether the target leads outside the site. -/
  external : Bool
  /-- The address of a mail target, whose `href` is obfuscated. -/
  mailAddress : Option String
  deriving Repr, DecidableEq

/-- Cuts a target before its query or fragment. -/
def splitSuffix (href : List Char) : List Char × List Char :=
  href.span fun c => c != '?' && c != '#'

/-- Leads a link to a Markdown page to the page's HTML. -/
def pageHref (href : List Char) : List Char :=
  let (path, suffix) := splitSuffix href
  match dropSuffix? ".md".toList path with
  | some stem => if isMarkdownPath path then stem ++ ".html".toList ++ suffix else href
  | none => href

/-- A target below the site's root, with the root written as the base URL. -/
def rebase (baseUrl target : List Char) : List Char :=
  match target with
  -- Two slashes begin a host, not a path below the root.
  | '/' :: '/' :: _ => target
  | '/' :: rest => baseUrl ++ rest
  | _ => target

/-- The obfuscated form of a mail target. -/
def mailHref (address : List Char) : List Char :=
  obfuscate "mailto".toList ++ ':' :: obfuscate address

/-- A target as it stands on a page: mail targets are obfuscated, targets at the
    root move below the base URL, and Markdown pages of the site are reached at
    their HTML. -/
def onPage (target baseUrl : String) : PageTarget :=
  -- Asked of the target as its author wrote it, before the base URL is put in.
  let external := isExternal target.toList
  match dropPrefix? "mailto:".toList target.toList with
  | some address => ⟨String.ofList (mailHref address), external, some (String.ofList address)⟩
  | none =>
    let href := rebase baseUrl.toList target.toList
    ⟨String.ofList (if external then href else pageHref href), external, none⟩

end DocSite.Link
