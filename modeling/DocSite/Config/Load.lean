/-
  DocSite.Config.Load

  Loading a configuration from files and overrides, and starting a new file.
-/
import DocSite.Config.Decode
import DocSite.Config.Merge
import DocSite.Config.Override

namespace DocSite.Config

/-- Checks what cannot be rendered: a heading level that no heading has. -/
def validate (c : Config) : Except ConfigError Unit :=
  match c.markdown.tocLevels.find? fun level => level < 1 || 6 < level with
  | some level => .error (.badLevel level)
  | none => .ok ()

/-- The template of a format. -/
def templateOf (format : String) : Except ConfigError String :=
  match ConfigFormat.ofAnyCase? format.toList with
  | some format => .ok format.template
  | none => .error (.unknownFormat format)

/-- The names of configuration files that are found without being named, the first
    of which counts. -/
def discoverable : List String := ["webhelp.toml", "webhelp.json", ".webhelp.toml"]

section Files

variable {m : Type → Type} [Monad m] [FileAccess m]

/-- The configuration in a file. -/
def ofFile (path : String) : ExceptT ConfigError m Config := do
  let some text ← FileAccess.readText? (m := m) path | throw (.unreadable path)
  liftM (Config.ofText path text)

/-- The configurations in files merged in order into one. -/
def mergeFiles (c : Config) : List String → ExceptT ConfigError m Config
  | [] => pure c
  | path :: rest => do
    let later ← ofFile path
    mergeFiles (c.merge later) rest

/-- The configuration of files merged in order. -/
def ofFiles : List String → ExceptT ConfigError m Config
  | [] => pure {}
  | path :: rest => do
    let first ← ofFile path
    mergeFiles first rest

/-- The configuration of files and overrides. -/
def load (files overrides : List String) : ExceptT ConfigError m Config := do
  let c ← ofFiles files
  match c.applyOverrides overrides with
  | (some e, _) => throw e
  | (none, c) => do
    liftM c.validate
    pure c

/-- The first of the given paths that leads to something. -/
def firstPresent? : List String → m (Option String)
  | [] => pure none
  | path :: rest => do
    if ← FileAccess.pathExists path then pure (some path) else firstPresent? rest

/-- Writes the template of a format to a file. -/
def writeTemplate (format path : String) : ExceptT ConfigError m Unit := do
  let text ← liftM (templateOf format)
  if !(← FileAccess.writeText (m := m) path text) then throw (.unwritable path)

end Files

end DocSite.Config
