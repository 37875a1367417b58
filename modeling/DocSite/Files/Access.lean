/-
  DocSite.Files.Access

  What the tools ask of the system they run on: files, and the streams they
  print to.
-/
namespace DocSite

/-- Access to files. A relative path leads from the working directory. -/
class FileAccess (m : Type → Type) where
  /-- The text of a file, unless it cannot be read or holds no text. -/
  readText? : String → m (Option String)
  /-- Whether a path leads to a file or a directory. -/
  pathExists : String → m Bool
  /-- Creates a directory and the missing ones above it. Tells whether the
      directory is there now. -/
  createDirectories : String → m Bool
  /-- Writes a text to a file in place of what the file held. Tells whether that
      worked. -/
  writeText : String → String → m Bool

/-- Access to standard output and standard error. -/
class Console (m : Type → Type) where
  /-- Prints to standard output. Tells whether that worked. -/
  print : String → m Bool
  /-- Prints to standard error. -/
  printError : String → m Unit

end DocSite
