import FrontMatter.Diagnostic.Collector
import FrontMatter.Rules.Check
import FrontMatter.Run.Log
import FrontMatter.Run.Source

/-!
# `FrontMatter.Run.Batch` — checking many documents

The documents of a batch are taken in the order of their paths. First the blocks of all of them are
read; then each document is checked against the rules, so that of several files that declare an id
the first one by path owns it. A document that cannot be checked becomes a finding of its own.

## Contents

* `checkSource`: the findings about one document.
* `State`, `Batch`: what a run carries along, and what a batch gives.
* `readAll`: the first pass; `checkParsed`: one document of the second.
* `runBatch`: a whole batch.
-/

namespace FrontMatter

/-! ## One document -/

/-- Advice for a document without a block. -/
def missingBlockAdvice (kindName : String) : String :=
  "All " ++ kindName ++ " files must begin with YAML front-matter between triple dashes. Example:\n"
    ++ "  ---\n  id: example-id\n  last_modified: '2025-05-09'\n  ---"

/-- The finding that a document has no block. -/
def missingBlockFinding (s : Source) : Diagnostic :=
  { file := s.path
    kind := .missingField
    message := "No front-matter found"
    suggestion := some (missingBlockAdvice s.kind) }

/-- A finding with its line counted in the content instead of the block. -/
def Diagnostic.shift (offset : Int) (d : Diagnostic) : Diagnostic :=
  { d with line := d.line.map fun n => n + offset }

/-- The findings about a document whose block has been read, and the registry afterwards. -/
def checkSource (context : Context) (s : Source) (doc : Option Document) (registry : Registry) :
    Except RuleFault (List Diagnostic) × Registry :=
  match doc with
  | none => (.ok [missingBlockFinding s], registry)
  | some d =>
    let (found, registry) := checkDocument SchemaTable.standard context s.kind s.path d registry
    (found.map fun ds => ds.map (Diagnostic.shift s.lineOffset), registry)

/-- Why a document cannot be checked by itself. -/
inductive SourceFault
  | foreign (message : String)
  | rule (f : RuleFault)
  deriving Repr, DecidableEq

/-- Reads and checks one document. -/
def validateSource (context : Context) (s : Source) (registry : Registry) :
    Except SourceFault (Option Document × List Diagnostic) × Registry :=
  match s.read with
  | .error message => (.error (.foreign message), registry)
  | .ok reading =>
    let doc := reading.map Document.ofReading
    match checkSource context s doc registry with
    | (.ok ds, registry) => (.ok (doc, ds), registry)
    | (.error f, registry) => (.error (.rule f), registry)

/-! ## Batches -/

/-- What a run carries from batch to batch. -/
structure RunState where
  registry : Registry := {}
  collector : Collector := {}

/-- What a batch gives besides its findings. -/
structure Batch where
  documents : Entries Document := []
  contents : Entries String := []
  log : Log := []

/-- A record of the run. -/
def runRecord (level : Level) (message : String) : LogRecord :=
  ⟨level, "tenetlint.runner", message⟩

/-- The records about reading a block. -/
def readingLog (s : Source) : Except String (Option Reading) → Log
  | .ok (some (.error f)) =>
    (faultNotice? f).toList.map fun message => ⟨.warning, "tenetlint.parser", message⟩
  | .ok _ => []
  | .error _ => [runRecord .error ("failed to parse " ++ s.path)]

/-- A document with what was read. -/
abbrev Parsed := Source × Except String (Option Reading)

/-- Reads the blocks of some documents. -/
def readAll (sources : List Source) : List Parsed :=
  sources.map fun s => (s, s.read)

/-- The finding that a document could not be processed or checked. -/
def failureFinding (s : Source) (what message : String) : Diagnostic :=
  { file := s.path
    kind := .yamlSyntax
    message := "Failed to " ++ what ++ " front-matter: " ++ message }

/-- The contents of files, with the one of a document added if it is known. -/
def addContent (contents : Entries String) (s : Source) : Entries String :=
  match s.content with
  | none => contents
  | some text => contents.put s.path text

/-- The documents, with one added if there is one. -/
def addDocument (documents : Entries Document) (s : Source) (doc : Option Document) :
    Entries Document :=
  match doc with
  | none => documents
  | some d => documents.put s.path d

/-- Checks one document of a batch. -/
def checkParsed (context : Context) (now : RunState × Batch) (p : Parsed) : RunState × Batch :=
  let (state, batch) := now
  let (s, reading) := p
  let contents := addContent batch.contents s
  match reading with
  | .error message =>
    ({ state with collector := state.collector.add (failureFinding s "process" message) },
      { batch with contents })
  | .ok reading =>
    let doc := reading.map Document.ofReading
    let documents := addDocument batch.documents s doc
    match checkSource context s doc state.registry with
    | (.ok ds, registry) =>
      ({ registry, collector := state.collector.extend ds }, { batch with documents, contents })
    | (.error f, registry) =>
      ({ registry, collector := state.collector.add (failureFinding s "validate" f.message) },
        { documents, contents
          log := batch.log ++ [runRecord .error ("failed to validate " ++ s.path)] })

/-- Documents in the order of their paths; those of one path stay in the order given. -/
def sortSources (sources : List Source) : List Source :=
  sources.mergeSort fun a b => !(b.path < a.path)

/-- The record at the start of a batch. -/
def startRecord (count : Nat) (workers : Int) : LogRecord :=
  runRecord .info ("validating " ++ toString count ++ " document(s) with "
    ++ toString (max 1 workers) ++ " worker(s)")

/-- The record at the end of a batch. -/
def endRecord (c : Collector) : LogRecord :=
  runRecord .info ("validation finished: " ++ toString c.count ++ " error(s) in "
    ++ toString c.files.length ++ " file(s)")

/-- Checks the documents of a batch. The number of workers changes nothing but the record of it. -/
def runBatch (context : Context) (workers : Int) (state : RunState) (sources : List Source) :
    RunState × Batch :=
  let parsed := readAll (sortSources sources)
  let reading := parsed.flatMap fun p => readingLog p.1 p.2
  let first := startRecord sources.length workers :: reading
  let (state, batch) := parsed.foldl (checkParsed context) (state, { log := first })
  (state, { batch with log := batch.log ++ [endRecord state.collector] })

end FrontMatter
