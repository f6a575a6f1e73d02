/-!
# `FrontMatter.Diagnostic.Basic` — what is wrong with a document

## Contents

* `DiagnosticKind`, `DiagnosticKind.word`, `DiagnosticKind.ofWord?`: the kinds and their names.
* `Diagnostic`: one finding, in a file and, where known, at a line and a field.
-/

namespace FrontMatter

/-- The kinds of findings. -/
inductive DiagnosticKind
  | yamlSyntax
  | missingField
  | invalidFormat
  | duplicateId
  | nonexistentReference
  | unknownKey
  | versionMismatch
  deriving Repr, DecidableEq

namespace DiagnosticKind

/-- The name of a kind. -/
def word : DiagnosticKind → String
  | .yamlSyntax => "yaml_syntax"
  | .missingField => "missing_field"
  | .invalidFormat => "invalid_format"
  | .duplicateId => "duplicate_id"
  | .nonexistentReference => "nonexistent_reference"
  | .unknownKey => "unknown_key"
  | .versionMismatch => "version_mismatch"

/-- All kinds. -/
def all : List DiagnosticKind :=
  [.yamlSyntax, .missingField, .invalidFormat, .duplicateId, .nonexistentReference, .unknownKey,
   .versionMismatch]

/-- The kind of a given name. -/
def ofWord? (s : String) : Option DiagnosticKind :=
  all.find? fun k => k.word == s

/-- A kind is found by its name. -/
theorem ofWord?_word (k : DiagnosticKind) : ofWord? k.word = some k := by
  cases k <;> rfl

end DiagnosticKind

/-- One finding. -/
structure Diagnostic where
  file : String
  kind : DiagnosticKind
  message : String
  line : Option Int := none
  field : Option String := none
  suggestion : Option String := none
  deriving Repr, DecidableEq

end FrontMatter
