/-
  DocSite.Main

  The command line program. It reads and writes real files.
-/
import DocSite.Command.Run

namespace DocSite

/-- Whether an action succeeds. -/
def succeeds (action : IO Unit) : IO Bool := do
  try
    action
    pure true
  catch _ => pure false

/-- The files that the process can reach. -/
instance : FileAccess IO where
  readText? path := do
    try
      pure (some (← IO.FS.readFile path))
    catch _ => pure none
  pathExists path := succeeds do discard (IO.FS.Handle.mk path .read)
  createDirectories path := succeeds do
    if path != "" then IO.FS.createDirAll path
  writeText path text := succeeds (IO.FS.writeFile path text)

/-- The streams of the process. -/
instance : Console IO where
  print text := succeeds do
    let stdout ← IO.getStdout
    stdout.putStr text
    stdout.flush
  printError text := do
    let _ ← succeeds do (← IO.getStderr).putStr text

end DocSite

/-- Runs the program with the arguments of the process. Every language is coloured as
    plain text. -/
def main (arguments : List String) : IO UInt32 := do
  let code ← DocSite.Command.execute (m := IO) .plainText arguments
  pure code.toUInt32
