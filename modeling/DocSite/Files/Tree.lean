/-
  DocSite.Files.Tree

  File systems as values: the files and directories below the root. A path leads
  from the root or from a working directory through one directory after the
  other. There are no links, so that a place has one sequence of names.
-/
import DocSite.Path

namespace DocSite

/-- What stands at a place. -/
inductive FileEntry where
  | directory
  /-- A file with its text, or one that cannot be read as text. -/
  | file (text : Option String)
  deriving Repr, DecidableEq

/-- A place: the names that lead to it from the root. -/
abbrev Place := List (List Char)

/-- The files and directories below the root. -/
structure FileTree where
  entries : List (Place × FileEntry)
  deriving Repr, DecidableEq

/-- Why nothing can be done with a path. -/
inductive FileError where
  /-- What the path leads through is not there. -/
  | notFound
  /-- Any other reason: a file on the way, something that stands there already, or
      a place that may not be changed. -/
  | refused
  deriving Repr, DecidableEq

namespace FileTree

/-! ## Places -/

/-- What stands at a place, if something does. -/
def entry? (t : FileTree) (place : Place) : Option FileEntry :=
  if place.isEmpty then some .directory else t.entries.lookup place

/-- Whether a directory stands at a place. -/
def isDirectory (t : FileTree) (place : Place) : Bool := t.entry? place == some .directory

/-- Puts an entry at a place. -/
def put (t : FileTree) (place : Place) (entry : FileEntry) : FileTree :=
  ⟨(place, entry) :: t.entries.filter fun e => e.1 != place⟩

/-- Where a segment leads from a directory. Above the root is the root. -/
def enter (place : Place) (segment : List Char) : Place :=
  if Path.isIdle segment then place
  else if segment == ['.', '.'] then place.dropLast
  else place ++ [segment]

/-- Follows the segments of a path from a place. Only directories can be left
    through a segment. -/
def follow (t : FileTree) (place : Place) : List (List Char) → Except FileError Place
  | [] => .ok place
  | segment :: rest =>
    match t.entry? place with
    | none => .error .notFound
    | some (.file _) => .error .refused
    | some .directory => t.follow (enter place segment) rest

/-- The place that a path leads to, which need not hold anything. Relative paths
    lead from the given directory. -/
def locate (t : FileTree) (directory : Place) (path : List Char) : Except FileError Place :=
  if path.isEmpty then .error .notFound
  -- The system takes the zero character for the end of a path.
  else if path.contains '\x00' then .error .refused
  else t.follow (if Path.isAbsolute path then [] else directory) (Path.segments path)

/-- What a path leads to. -/
def find? (t : FileTree) (directory : Place) (path : List Char) : Option FileEntry :=
  (t.locate directory path).toOption.bind t.entry?

/-! ## Changes -/

section Changes

-- Relative paths lead from `directory`. Only the places that `permits` admits can be
-- changed.
variable (directory : Place) (permits : Place → Bool)

/-- A path without the slashes at its end. -/
def dropSlashes (path : List Char) : List Char := (path.reverse.dropWhile (· == '/')).reverse

/-- Creates a directory in a directory that is there, where nothing stands yet. -/
def createDirectory (t : FileTree) (path : List Char) : Except FileError FileTree :=
  match t.locate directory (dropSlashes path) with
  | .error e => .error e
  | .ok place =>
    if (t.entry? place).isSome || !permits place then .error .refused
    else .ok (t.put place .directory)

/-- Creates a directory with the directories above it. Those that were created
    stay where a later one cannot be created. The fuel bounds the number of
    directories. -/
def createAll : Nat → List Char → FileTree → Bool × FileTree
  | 0, _, t => (false, t)
  | fuel + 1, path, t =>
    match Path.parent? path with
    -- The root is there, and the working directory is not asked for.
    | none => (true, t)
    | some parent =>
      match t.createDirectory directory permits path with
      | .ok t => (true, t)
      | .error .refused => (t.find? directory path == some .directory, t)
      | .error .notFound =>
        match createAll fuel parent t with
        | (false, t) => (false, t)
        | (true, t) =>
          match t.createDirectory directory permits path with
          | .ok t => (true, t)
          | .error _ => (t.find? directory path == some .directory, t)

/-- Writes a text to a file in a directory that is there. -/
def writeFile (t : FileTree) (path : List Char) (text : String) : Bool × FileTree :=
  match t.locate directory path with
  | .error _ => (false, t)
  | .ok place =>
    if t.isDirectory place || !permits place then (false, t)
    else (true, t.put place (.file (some text)))

end Changes

end FileTree

end DocSite
