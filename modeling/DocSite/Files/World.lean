/-
  DocSite.Files.World

  What a program sees of the system it runs on, as a value: the files, where it
  stands among them, what it may change, and the streams it prints to.
-/
import DocSite.Files.Access
import DocSite.Files.Tree

namespace DocSite

/-- The surroundings of a program. -/
structure World where
  /-- The files below the root. -/
  files : FileTree
  /-- The working directory. -/
  directory : Place := []
  /-- The places that may be created or changed. -/
  permits : Place → Bool := fun _ => true
  /-- What has been printed to standard output. -/
  stdout : String := ""
  /-- How many characters standard output takes, if not all. -/
  stdoutLimit : Option Nat := none
  /-- What has been printed to standard error. -/
  stderr : String := ""

namespace World

/-- What a path leads to. -/
def find? (w : World) (path : String) : Option FileEntry := w.files.find? w.directory path.toList

/-- The text of the file that a path leads to. -/
def text? (w : World) (path : String) : Option String :=
  match w.find? path with
  | some (.file text) => text
  | _ => none

/-- What a change of the files answers, in the world after it. -/
def withFiles (w : World) (change : Bool × FileTree) : Bool × World :=
  (change.1, { w with files := change.2 })

/-- Creates a directory with the directories above it. -/
def createAll (w : World) (path : String) : Bool × World :=
  w.withFiles (FileTree.createAll w.directory w.permits (path.length + 1) path.toList w.files)

/-- Writes a text to a file. -/
def writeFile (w : World) (path text : String) : Bool × World :=
  w.withFiles (w.files.writeFile w.directory w.permits path.toList text)

/-- The part of a text that standard output still takes. -/
def printable (w : World) (text : String) : String :=
  match w.stdoutLimit with
  | none => text
  | some limit => String.ofList (text.toList.take (limit - w.stdout.length))

/-- Prints as much of a text to standard output as that takes. Tells whether this was
    the whole text. -/
def print (w : World) (text : String) : Bool × World :=
  (w.printable text == text, { w with stdout := w.stdout ++ w.printable text })

/-- Prints a text to standard error. -/
def printError (w : World) (text : String) : World := { w with stderr := w.stderr ++ text }

end World

instance : FileAccess (StateM World) where
  readText? path := do pure ((← get).text? path)
  pathExists path := do pure ((← get).find? path).isSome
  createDirectories path := modifyGet fun w => w.createAll path
  writeText path text := modifyGet fun w => w.writeFile path text

instance : Console (StateM World) where
  print text := modifyGet fun w => w.print text
  printError text := modify fun w => w.printError text

/-! ## Programs started in the root -/

/-- Does to the files of a tree what a program does that starts in the root. -/
def FileTree.inRoot {α : Type} (x : StateM World α) : StateM FileTree α := do
  let (a, w) := (x.run { files := ← get }).run
  set w.files
  pure a

instance : FileAccess (StateM FileTree) where
  readText? path := FileTree.inRoot (FileAccess.readText? path)
  pathExists path := FileTree.inRoot (FileAccess.pathExists path)
  createDirectories path := FileTree.inRoot (FileAccess.createDirectories path)
  writeText path text := FileTree.inRoot (FileAccess.writeText path text)

end DocSite
