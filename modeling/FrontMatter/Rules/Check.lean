import FrontMatter.Diagnostic.Basic
import FrontMatter.Document.Basic
import FrontMatter.Rules.Field
import FrontMatter.Rules.Registry
import FrontMatter.Rules.Schema
import FrontMatter.Value.Text

/-!
# `FrontMatter.Rules.Check` — the rules for a document

Every rule looks at the whole mapping of a document and reports on its own, so one document can have
several findings. One rule claims the id of the document in the registry; the rules after it run
with the claim made. A document that is no mapping has one finding for each error that it was read
with, or else a single one.

## Contents

* `Context`: what all documents of a run are checked against.
* `Subject`, `Subject.finding`: a mapping under check, and a finding about one of its fields.
* `fieldRule`: the rule that one field passes a test.
* `rulesBeforeClaim`, `claimId`, `rulesAfterClaim`: the rules in their order.
* `checkDocument`: all findings about a document, and the registry afterwards.
-/

namespace FrontMatter

open Block (LineMap)

/-- What all documents of a run are checked against. -/
structure Context where
  expectedVersion : String
  tenetIds : List String

/-- A mapping under check. -/
structure Subject where
  file : String
  kind : DocumentKind
  schema : Schema
  context : Context
  entries : Entries Value
  lines : LineMap

/-- A finding about a field, at the line of its key. -/
def Subject.finding (s : Subject) (kind : DiagnosticKind) (field message suggestion : String) :
    Diagnostic :=
  { file := s.file
    kind := kind
    message := message
    line := s.lines.get? field
    field := some field
    suggestion := some suggestion }

/-- A rule gives findings, unless a value is too long to be shown. -/
abbrev Rule := Subject → Except TooLong (List Diagnostic)

/-- Keys as a list in a sentence. -/
def keyList (keys : List String) : String :=
  String.intercalate ", " keys

/-! ## Rules -/

/-- Every required key is there. -/
def requiredKeys : Rule := fun s =>
  .ok ((s.schema.required.filter fun k => !s.entries.holds k).map fun k =>
    s.finding .missingField k ("Missing required key '" ++ k ++ "' in YAML front-matter")
      ("A " ++ s.kind.word ++ " must include: " ++ keyList s.schema.required ++ "."))

/-- The rule for one field: a value that is there has to pass a test, or else it is a finding with a
message and advice of its own. -/
def fieldRule (kind : DiagnosticKind) (field : String) (passes : Subject → Value → Bool)
    (words : Subject → Value → Except TooLong (String × String)) : Rule := fun s =>
  match s.entries.get? field with
  | none => .ok []
  | some v =>
    if passes s v then .ok []
    else (words s v).map fun w => [s.finding kind field w.1 w.2]

/-- The id is a slug. -/
def idFormat : Rule :=
  fieldRule .invalidFormat "id" (fun _ v => v.isSlug) fun _ v =>
    v.text.map fun shown =>
      ("Invalid ID format '" ++ shown ++ "' in YAML front-matter",
        "ID must contain only lowercase letters, numbers, and hyphens (e.g., 'example-id').")

/-- The date of the last change is a day. -/
def lastModified : Rule :=
  fieldRule .invalidFormat "last_modified" (fun _ v => v.isIsoDate) fun _ _ =>
    .ok ("Invalid date format in 'last_modified' field",
      "Date must be a real calendar date in ISO format (YYYY-MM-DD), "
        ++ "enclosed in quotes. Example: last_modified: '2025-05-09'")

/-- Advice for a value that is no version. -/
def versionAdvice (expected : String) : String :=
  "Version must be a quoted semantic version. Expected: version: '" ++ expected ++ "'"

/-- Advice for a version that is not the expected one. -/
def mismatchAdvice (found expected : String) : String :=
  "Document version '" ++ found ++ "' does not match VERSION file '" ++ expected
    ++ "'. Expected: version: '" ++ expected ++ "'"

/-- The version is the expected one. -/
def version : Rule := fun s =>
  let expected := s.context.expectedVersion
  match s.entries.get? "version" with
  | none => .ok []
  | some v =>
    match if v.isSemver then v.str? else none with
    | none => v.text.map fun shown =>
        [s.finding .invalidFormat "version"
          ("Invalid version format '" ++ shown ++ "' in YAML front-matter")
          (versionAdvice expected)]
    | some found =>
      if found == expected then .ok []
      else .ok
        [s.finding .versionMismatch "version" "Version mismatch in YAML front-matter"
          (mismatchAdvice found expected)]

/-- A binding names its tenet by a slug. -/
def derivedFromFormat : Rule :=
  fieldRule .invalidFormat "derived_from" (fun _ v => v.isSlug) fun _ _ =>
    .ok ("Invalid format for 'derived_from' in YAML front-matter",
      "The 'derived_from' field must be a string containing only "
        ++ "lowercase letters, numbers, and hyphens.")

/-- A binding tells what enforces it. -/
def enforcedByFormat : Rule :=
  fieldRule .invalidFormat "enforced_by" (fun _ v => v.isNonEmptyText) fun _ _ =>
    .ok ("Invalid format for 'enforced_by' in YAML front-matter",
      "The 'enforced_by' field must be a non-empty string.")

/-- The tenet that a binding names exists. -/
def tenetReference : Rule :=
  fieldRule .nonexistentReference "derived_from"
    (fun s v => (v.str?.map s.context.tenetIds.contains).getD false) fun _ v =>
      v.text.map fun shown =>
        ("References non-existent tenet '" ++ shown ++ "'",
          "The 'derived_from' field must reference an existing tenet ID. "
            ++ "Check docs/tenets/ for available tenets.")

/-- There are no other keys than the allowed ones. -/
def unknownKeys : Rule := fun s =>
  .ok ((s.entries.keys.filter fun k => !s.schema.allowed.contains k).map fun k =>
    s.finding .unknownKey k ("Unknown key '" ++ k ++ "' in YAML front-matter")
      ("Only these keys are allowed: " ++ keyList s.schema.allowed ++ ". Remove unknown keys."))

/-! ## The order of the rules -/

/-- The rules before the id is claimed. -/
def rulesBeforeClaim : DocumentKind → List Rule
  | .tenet => [requiredKeys, idFormat, lastModified, version]
  | .binding =>
    [requiredKeys, idFormat, lastModified, version, derivedFromFormat, enforcedByFormat]

/-- The rules after the id is claimed. -/
def rulesAfterClaim : DocumentKind → List Rule
  | .tenet => [unknownKeys]
  | .binding => [tenetReference, unknownKeys]

/-- The findings of rules, one after the other. -/
def runRules (rules : List Rule) (s : Subject) : Except TooLong (List Diagnostic) :=
  (rules.mapM fun (r : Rule) => r s).map List.flatten

/-- An id that a file owns already, in words. -/
def duplicateMessage (id owner : String) : String :=
  "Duplicate ID '" ++ id ++ "' in YAML front-matter (already used in " ++ owner ++ ")"

/-- The finding that another file owns the id. -/
def duplicateFinding (s : Subject) (id owner : String) : Diagnostic :=
  s.finding .duplicateId "id" (duplicateMessage id owner)
    "Each document must have a unique ID. Choose a different ID value."

/-- Claims the id for the file. An id that another file owns is a finding. -/
def claimId (s : Subject) (registry : Registry) : List Diagnostic × Registry :=
  match (s.entries.get? "id").bind Value.str? with
  | none => ([], registry)
  | some id =>
    match registry.claim id s.file with
    | (none, registry) => ([], registry)
    | (some owner, registry) => ([duplicateFinding s id owner], registry)

/-- A value that cannot be shown, as a fault of the check. -/
def TooLong.fault (e : TooLong) : RuleFault :=
  .tooLong e.message

/-- All findings about a mapping, and the registry afterwards. -/
def checkMapping (s : Subject) (registry : Registry) :
    Except RuleFault (List Diagnostic) × Registry :=
  match runRules (rulesBeforeClaim s.kind) s with
  | .error e => (.error e.fault, registry)
  | .ok before =>
    let (claimed, registry) := claimId s registry
    match runRules (rulesAfterClaim s.kind) s with
    | .error e => (.error e.fault, registry)
    | .ok after => (.ok (before ++ claimed ++ after), registry)

/-! ## Documents that are no mapping -/

/-- An error that a document was read with, as a finding. -/
def readingFinding (file : String) (e : ParseError) : Diagnostic :=
  { file, kind := .yamlSyntax, message := e.message, line := e.line, suggestion := e.suggestion }

/-- The finding that there is no content. -/
def emptyFinding (file : String) (kind : DocumentKind) (schema : Schema) : Diagnostic :=
  { file
    kind := .missingField
    message := "Empty YAML in front-matter"
    suggestion := some ("Front-matter for a " ++ kind.word ++ " must include: "
      ++ keyList schema.required ++ ".") }

/-- The finding that the content is no mapping. -/
def shapeFinding (file : String) : Diagnostic :=
  { file
    kind := .yamlSyntax
    message := "YAML front-matter must be a mapping of keys to values"
    line := some 1
    suggestion := some "Write front-matter as 'key: value' lines, e.g. id: example-id" }

/-! ## Documents -/

/-- All findings about a document of a known kind, and the registry afterwards. -/
def checkKnown (context : Context) (kind : DocumentKind) (schema : Schema) (file : String)
    (doc : Document) (registry : Registry) : Except RuleFault (List Diagnostic) × Registry :=
  if !doc.errors.isEmpty then (.ok (doc.errors.map (readingFinding file)), registry)
  else
    match doc.content with
    | .absent => (.ok [emptyFinding file kind schema], registry)
    | .mapping entries => checkMapping ⟨file, kind, schema, context, entries, doc.lines⟩ registry
    | _ => (.ok [shapeFinding file], registry)

/-- All findings about a document whose kind is given by name, and the registry afterwards. -/
def checkDocument (schemas : SchemaTable) (context : Context) (kindName file : String)
    (doc : Document) (registry : Registry) : Except RuleFault (List Diagnostic) × Registry :=
  match schemas.find kindName with
  | .error f => (.error f, registry)
  | .ok (kind, schema) => checkKnown context kind schema file doc registry

end FrontMatter
