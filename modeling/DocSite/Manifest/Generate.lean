/-
  DocSite.Manifest.Generate

  Writing the navigation manifest of a site's summary.
-/
import DocSite.Files.Access
import DocSite.Manifest.Json
import DocSite.Manifest.Summary
import DocSite.Markdown.Lower

namespace DocSite

/-- A path seen from a directory. -/
def pathIn (directory path : String) : String :=
  String.ofList (Path.join directory.toList path.toList)

/-- The path of the directory that a path leads into, if it names one. -/
def parentOf? (path : String) : Option String := (Path.parent? path.toList).map String.ofList

/-- Where a site's summary and its manifest are. -/
structure ManifestPaths where
  /-- The summary, seen from the directory of the sources. -/
  input : String := "_SUMMARY.md"
  /-- The manifest, seen from the directory of the output. -/
  output : String := "HelpTOC.json"
  deriving Repr, DecidableEq

/-- Why a manifest was not written. -/
inductive ManifestError where
  /-- The document is no summary. -/
  | summary (e : SummaryError)
  /-- The summary cannot be read. -/
  | unreadable (path : String)
  /-- A directory cannot be created. -/
  | noDirectory (path : String)
  /-- The manifest cannot be written. -/
  | unwritable (path : String)
  deriving Repr, DecidableEq

namespace ManifestError

/-- The path that an error is about. -/
def path? : ManifestError → Option String
  | .summary _ => none
  | .unreadable path | .noDirectory path | .unwritable path => some path

/-- The message of an error. -/
def message : ManifestError → String
  | .summary e => e.message
  | .unreadable path | .noDirectory path | .unwritable path => "I/O error on " ++ path

end ManifestError

section Generate

variable {m : Type → Type} [Monad m] [FileAccess m]

/-- Writes a text to a file, after creating the directories above it. -/
def writeManifest (path text : String) : ExceptT ManifestError m Unit := do
  match parentOf? path with
  | some parent =>
    if !(← FileAccess.createDirectories (m := m) parent) then throw (.noDirectory parent)
  | none => pure ()
  if !(← FileAccess.writeText (m := m) path text) then throw (.unwritable path)

/-- Reads the summary of a site and writes its manifest. Returns the manifest's
    path. -/
def generateManifest (sourceDir outputDir : String) (paths : ManifestPaths) :
    ExceptT ManifestError m String := do
  let input := pathIn sourceDir paths.input
  let some text ← FileAccess.readText? (m := m) input | throw (.unreadable input)
  let items ← liftM ((manifestOf (.ofMarkdown text)).mapError ManifestError.summary)
  let output := pathIn outputDir paths.output
  writeManifest output (manifestJson items)
  pure output

end Generate

end DocSite
