import FrontMatter.Report.Json
import FrontMatter.Report.Text
import FrontMatter.Run.Batch
import FrontMatter.Settings.Basic
import FrontMatter.Text.Case
import FrontMatter.Tree.Discovery
import FrontMatter.Tree.Version

/-!
# `FrontMatter.Session` — checking a docs tree

A session reads its settings and the expected version, finds the documents, checks them, and prints
a report. The files, the environment and the terminal are given as values, so a session is a
function. The files are those below one directory. A docs root or version file with an anchor leads
out of it, and is taken for one that is not there.

## Contents

* `SessionFault`: why a session ends without a verdict.
* `Verdict`: what a session gives.
* `checkDocs`: the check of the documents.
* `printed`: what is printed about the findings.
* `runSession`: a whole session.
-/

namespace FrontMatter

open Text (Colour DecodeFault Path styled unstyled)

/-- The version of this program. -/
def programVersion : String := "0.1.0"

/-- Why a session ends without a verdict. -/
inductive SessionFault
  | settings (f : SettingsFault)
  | unknownLevel (name : String)
  | version (f : DecodeFault)
  | source (f : ReadFault)
  | report (f : TooLong)
  deriving Repr, DecidableEq

/-- A name that is no level, in words. -/
def unknownLevelMessage (name : String) : String :=
  "Unknown level: " ++ Text.quote name

/-- What a session gives: the exit code, the printed text, and the log. -/
structure Verdict where
  exit : Nat
  output : String
  log : Log
  deriving Repr, DecidableEq

/-! ## Checking -/

/-- The ids of the tenets: the names of their files without suffix. -/
def tenetIds (found : List Found) : List String :=
  (found.filter fun f => f.kind == .tenet).map fun f => f.path.stem

/-- Checks the documents that have been found; gives the findings and the batch. -/
def checkDocs (tree : Tree) (s : Settings) (version : String) (found : List Found) :
    Except ReadFault (Collector × Batch) := do
  let sources ← readSources tree found
  let (state, batch) := runBatch ⟨version, tenetIds found⟩ s.maxWorkers {} sources
  return (state.collector, batch)

/-! ## Printing -/

/-- The line about a tree without findings. -/
def successLine (count : Nat) : String :=
  "All " ++ toString count ++ " files validated successfully!"

/-- What is printed about the findings, unless a line is too long to be written. Without colours,
escape sequences that came from documents are dropped as well. -/
def printed (s : Settings) (colours : Bool) (count : Nat) (ds : List Diagnostic)
    (contents : Entries String) : Except TooLong String :=
  if s.outputFormat == "json" then jsonReport ds
  else
    let text :=
      if ds.isEmpty then .ok (styled ⟨some .green, false⟩ (successLine count))
      else reportText ⟨colours, s.contextLines⟩ (SourceLines.ofTexts contents) ds
    if colours then text else text.map unstyled

/-! ## Sessions -/

/-- A record of the session. -/
def sessionRecord (level : Level) (message : String) : LogRecord :=
  ⟨level, "tenetlint", message⟩

/-- The record at the start of a session. -/
def openingRecord (s : Settings) : LogRecord :=
  sessionRecord .info ("tenetlint v" ++ programVersion ++ " (docs_root=" ++ s.docsRoot ++ ")")

/-- A session with its settings known; the log holds everything that was told. -/
def runWith (tree : Tree) (terminal : Bool) (s : Settings) : Except SessionFault Verdict :=
  match expectedVersion tree (Path.ofString s.versionFile) with
  | .error (.undecodable f) => .error (.version f)
  | .error f => .ok ⟨1, "", [openingRecord s, sessionRecord .error f.message]⟩
  | .ok version =>
    let root := Path.ofString s.docsRoot
    let found := discover tree root
    match checkDocs tree s version found with
    | .error f => .error (.source f)
    | .ok (collector, batch) =>
      let colours := terminal && !s.noColour
      match printed s colours found.length collector.diagnostics batch.contents with
      | .error f => .error (.report f)
      | .ok text =>
        .ok ⟨if collector.any then 1 else 0, text ++ "\n",
          openingRecord s :: (misplacedLog tree root ++ batch.log)⟩

/-- A whole session in a directory. Records below the configured level are left out. -/
def runSession (tree : Tree) (environment : Entries String) (terminal : Bool) :
    Except SessionFault Verdict :=
  match Settings.load tree environment with
  | .error f => .error (.settings f)
  | .ok s =>
    let name := Text.upper s.logLevel
    match threshold? name with
    | none => .error (.unknownLevel name)
    | some least => (runWith tree terminal s).map fun v => { v with log := v.log.above least }

end FrontMatter
