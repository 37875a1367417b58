/-
  DocSite.Path

  Paths as text: segments between slashes. Empty segments and `.` are no
  components of a path, save a `.` that a relative path begins with.
-/
import DocSite.Text.Split

namespace DocSite.Path

/-! ## Components -/

/-- The texts between slashes. -/
def segments (s : List Char) : List (List Char) := s.splitOn '/'

/-- Whether a segment names nothing. -/
def isIdle (segment : List Char) : Bool := segment == [] || segment == ['.']

/-- Whether a path starts at the root. -/
def isAbsolute (s : List Char) : Bool := s.head? == some '/'

/-- The components of a path: the root, a leading `.`, `..` and names. -/
def components (s : List Char) : List (List Char) :=
  let names := (segments s).filter fun segment => !isIdle segment
  if isAbsolute s then ['/'] :: names
  else if (segments s).head? == some ['.'] then ['.'] :: names
  else names

/-- Whether two paths have the same components. -/
def same (a b : List Char) : Bool := components a == components b

/-- The name of the last component, when it is a name. -/
def fileName? (s : List Char) : Option (List Char) :=
  ((segments s).filter fun segment => !isIdle segment).getLast?.filter (· != ['.', '.'])

/-! ## Extensions -/

/-- The text before and after the last dot. -/
def splitLastDot (name : List Char) : Option (List Char × List Char) :=
  (Text.splitOnce '.' name.reverse).map fun p => (p.2.reverse, p.1.reverse)

/-- The extension of the last component: what follows its last dot, when
    something stands before that dot. -/
def extension? (s : List Char) : Option (List Char) :=
  (fileName? s).bind fun name =>
    (splitLastDot name).bind fun p => if p.1.isEmpty then none else some p.2

/-! ## Joining and parents -/

/-- A path seen from a base. An absolute path ignores the base. -/
def join (base s : List Char) : List Char :=
  if isAbsolute s || base.isEmpty || base.getLast? == some '/' then
    if isAbsolute s then s else base ++ s
  else base ++ '/' :: s

/-- The text of the given segments. -/
def ofSegments (segments : List (List Char)) : List Char := ['/'].intercalate segments

/-- Drops the segments at the end that name nothing. -/
def dropIdleEnd (segments : List (List Char)) : List (List Char) :=
  (segments.reverse.dropWhile isIdle).reverse

/-- Drops the segments at the end of a relative path that name nothing, but
    keeps a leading `.`. -/
def dropIdleEndRelative : List (List Char) → List (List Char)
  | ['.'] :: rest => ['.'] :: dropIdleEnd rest
  | segments => dropIdleEnd segments

/-- The path without its last component, when it has one that can be dropped. -/
def parent? (s : List Char) : Option (List Char) :=
  if isAbsolute s then
    let names := dropIdleEnd (segments s).tail
    -- The root has no parent.
    if names.isEmpty then none else some ('/' :: ofSegments (dropIdleEnd names.dropLast))
  else
    let names := dropIdleEndRelative (segments s)
    if names.isEmpty then none else some (ofSegments (dropIdleEndRelative names.dropLast))

end DocSite.Path
