/-
  DocSite.Command.Run

  What the commands do.
-/
import DocSite.Command.Arguments
import DocSite.Config.Load
import DocSite.Files.World
import DocSite.Page.Render

namespace DocSite.Command

/-- Why a command failed. -/
inductive CommandError where
  /-- There is no valid configuration. -/
  | config (e : ConfigError)
  /-- The manifest was not written. -/
  | manifest (input : String) (e : ManifestError)
  /-- The page cannot be read. -/
  | unreadable (file : String)
  /-- The page cannot be rendered. -/
  | rendering (file : String) (e : RenderError)
  /-- There is a configuration file, which must not be replaced. -/
  | present (path : String)
  /-- A directory cannot be created. -/
  | noDirectory (path : String)
  /-- A page cannot be written. -/
  | unwritable (path : String)
  /-- A page cannot be printed. -/
  | unprintable
  /-- A configuration file cannot be written. -/
  | template (path : String) (e : ConfigError)

namespace CommandError

/-- The message of an error, the general part first. -/
def message : CommandError → String
  | config e => "Failed to load configuration: " ++ e.message
  | manifest input e => "Failed to build navigation from " ++ input ++ ": " ++ e.message
  | unreadable file => "Failed to read " ++ file
  | rendering file e => "Failed to render " ++ file ++ ": " ++ e.message
  | present path =>
    "Configuration file already exists: " ++ path ++ ". Use --force to overwrite."
  | noDirectory path => "Failed to create directory: " ++ path
  | unwritable path => "Failed to write " ++ path
  | unprintable => "Failed to write to standard output"
  | template path e => "Failed to generate configuration file: " ++ path ++ ": " ++ e.message

end CommandError

section Run

variable {m : Type → Type} [Monad m] [FileAccess m]

/-- Creates the directory that a path leads into, unless it is the working
    directory or one that may be skipped. -/
def createParent (skip : String → m Bool) (path : String) : ExceptT CommandError m Unit := do
  match parentOf? path with
  | none => pure ()
  | some parent =>
    if parent != "" && !(← skip parent) then
      if !(← FileAccess.createDirectories (m := m) parent) then throw (.noDirectory parent)

/-- Writes a configuration file to begin with. Nothing that exists is replaced
    unless that is forced. -/
def initConfig (output : String) (format : ConfigFormat) (force : Bool) :
    ExceptT CommandError m Unit := do
  if (← FileAccess.pathExists (m := m) output) && !force then throw (.present output)
  createParent FileAccess.pathExists output
  (Config.writeTemplate format.name output).adapt (.template output)

/-- Writes the navigation manifest. -/
def runToc (config : Config) : ExceptT CommandError m Unit := do
  let paths := config.manifestPaths
  let _ ← (generateManifest config.sourceDir config.outputDir paths).adapt
    (.manifest (pathIn config.sourceDir paths.input))

/-- The HTML of a page. -/
def renderPage (library : SyntaxLibrary) (config : Config) (file : String) :
    ExceptT CommandError m String := do
  let some text ← FileAccess.readText? (m := m) file | throw (.unreadable file)
  match (Renderer.ofSettings config.renderSettings library).render (.ofMarkdown text) with
  | .ok page => pure page.html
  | .error e => throw (.rendering file e)

/-- Writes the HTML of a page. -/
def writePage (path html : String) : ExceptT CommandError m Unit := do
  createParent (fun _ => pure false) path
  if !(← FileAccess.writeText (m := m) path html) then throw (.unwritable path)

/-- The configuration of a command line. Without configuration files it is looked
    for in the working directory. -/
def loadConfig (invocation : Invocation) : ExceptT CommandError m Config := do
  -- Files that are named take the place of those that are found.
  let found ← if invocation.configFiles.isEmpty then
      Config.firstPresent? (m := m) Config.discoverable
    else pure none
  let files := invocation.configFiles ++ found.toList
  (Config.load files invocation.overrides).adapt .config

variable [Console m]

/-- Prints the HTML of a page. -/
def printPage (html : String) : ExceptT CommandError m Unit := do
  if !(← Console.print (m := m) html) then throw .unprintable

/-- Does what a command line asks for. -/
def Invocation.run (library : SyntaxLibrary) (invocation : Invocation) :
    ExceptT CommandError m Unit := do
  match invocation.action with
  | .init output format force => initConfig output format force
  | .toc => do
    let config ← loadConfig invocation
    runToc config
  | .render file output => do
    let config ← loadConfig invocation
    let html ← renderPage library config file
    match output with
    | some path => writePage path html
    | none => printPage html

/-! ## The program -/

/-- What the program says about a command line that it does not accept. -/
def usage : String := "Usage: webhelp [OPTIONS] <COMMAND>\n"

/-- What the program says about a result on standard error. Log lines, which tell the time,
    are left out. -/
def report : Except CommandError Unit → String
  | .ok () => ""
  | .error e => "Error: " ++ e.message ++ "\n"

/-- The exit code for a result: zero after a success, 101 if the program broke down, and one
    after any other failure. -/
def exitCode : Except CommandError Unit → Nat
  | .ok () => 0
  | .error (.manifest _ (.summary (.badTarget _))) => 101
  | .error _ => 1

/-- Runs the program with the given arguments. Returns its exit code, which is two
    for a bad command line. -/
def execute (library : SyntaxLibrary) (arguments : List String) : m Nat := do
  match Invocation.read? arguments with
  | none => do
    Console.printError usage
    pure 2
  | some invocation => do
    let result ← (invocation.run library).run
    Console.printError (report result)
    pure (exitCode result)

end Run

/-- Runs the program in a world. Returns its exit code and the world after it. -/
def executeIn (library : SyntaxLibrary) (arguments : List String) (w : World) : Nat × World :=
  ((execute library arguments : StateM World Nat).run w).run

/-- What is seen of a run of the program besides the files. -/
structure Outcome where
  exitCode : Nat
  stdout : String
  stderr : String
  deriving Repr, DecidableEq

/-- Runs the program in the root of a tree. -/
def run (arguments : List String) (library : SyntaxLibrary := .plainText) :
    StateM FileTree Outcome := do
  let (code, w) := executeIn library arguments { files := ← get }
  set w.files
  pure ⟨code, w.stdout, w.stderr⟩

end DocSite.Command
