import FrontMatter.Session

/-!
# `FrontMatter.Main` — the program

The program checks the docs tree of the working directory. Reading files and variables, and writing
the log and the report, is all that it does besides running a session.

## Contents

* `loadEntry`, `loadTree`: files and directories as a tree.
* `loadEnvironment`: the variables of the process.
* `main`: a session, with its exit code.
-/

namespace FrontMatter

open Text (Path)

/-- A file or directory as a tree; `depth` bounds the levels that are read. -/
def loadEntry : Nat → IO.FS.DirEntry → IO Tree
  | depth, e => do
    if ← e.path.isDir then
      match depth with
      | 0 => return .empty
      | depth + 1 =>
        let entries ← e.path.readDir
        let children ← entries.toList.mapM fun f => do return (f.fileName, ← loadEntry depth f)
        return .directory children
    else return .file (← IO.FS.readBinFile e.path).toList

/-- The part of the working directory that a session needs: the entries to which paths lead, down to
the depth of the deepest document. -/
def loadTree (paths : List Path) : IO Tree := do
  let depth := (paths.map fun p => p.parts.length).foldl max 0 + 4
  let names := paths.map fun p => p.parts.headD ".."
  let entries ← (← IO.currentDir).readDir
  let needed := entries.toList.filter fun e => names.contains ".." || names.contains e.fileName
  return .directory (← needed.mapM fun e => do return (e.fileName, ← loadEntry depth e))

/-- A variable and its value, from a text with an equals sign between them. -/
def splitVariable (bytes : List UInt8) : String × String :=
  let isName := fun (b : UInt8) => b != 0x3D
  (Text.decodeLossy (bytes.takeWhile isName), Text.decodeLossy ((bytes.dropWhile isName).drop 1))

/-- The variables of the process. -/
def loadEnvironment : IO (Entries String) := do
  try
    let bytes ← IO.FS.readBinFile "/proc/self/environ"
    return ((bytes.toList.splitOn 0).filter fun b => !b.isEmpty).map splitVariable
  catch _ => return []

/-- A record as a line of the log. -/
def LogRecord.line (r : LogRecord) : String :=
  r.level.word ++ ":" ++ r.logger ++ ":" ++ r.message

/-- A fault in words. -/
def SessionFault.message : SessionFault → String
  | .settings (.undecodable f) => f.message
  | .settings (.invalid faults) =>
    String.intercalate "\n" (faults.map fun f => f.1 ++ ": " ++ f.2.message)
  | .unknownLevel name => unknownLevelMessage name
  | .version f => f.message
  | .source f => f.message
  | .report f => f.message

/-- Runs a session, prints its report, and gives its exit code. -/
def runProgram : IO UInt32 := do
  let environment ← loadEnvironment
  let settingsTree ← loadTree [envFilePath]
  let settings := (Settings.load settingsTree environment).toOption.getD {}
  let paths := [envFilePath, Path.ofString settings.docsRoot, Path.ofString settings.versionFile]
  let tree ← loadTree paths
  let terminal ← (← IO.getStdout).isTty
  match runSession tree environment terminal with
  | .error f =>
    IO.eprintln f.message
    return 1
  | .ok v =>
    v.log.forM fun r => IO.eprintln r.line
    IO.print v.output
    return UInt32.ofNat v.exit

end FrontMatter

/-- Checks the docs tree of the working directory. -/
def main : IO UInt32 :=
  FrontMatter.runProgram
