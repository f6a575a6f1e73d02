import FrontMatter.Settings.EnvFile
import FrontMatter.Text.Case
import FrontMatter.Text.Lines
import FrontMatter.Text.Utf8
import FrontMatter.Tree.Basic
import FrontMatter.Value.FieldFault

/-!
# `FrontMatter.Settings.Basic` — the settings of a session

Settings come from variables of the environment and of a file. The names of variables are the same
in upper and lower case, variables without a value do not count, and the environment goes before the
file.

## Contents

* `Settings`: the settings, with their defaults.
* `Variables`: the variables that count.
* `typedTruth`: truth values as people type them.
* `Settings.ofVariables`: the settings, or the faults of all fields.
* `Settings.load`: the settings of a session in a directory.
-/

namespace FrontMatter

open Text (DecodeFault Path)

/-- The settings of a session. -/
structure Settings where
  logLevel : String := "INFO"
  docsRoot : String := "docs"
  versionFile : String := "VERSION"
  maxWorkers : Int := 1
  contextLines : Int := 2
  noColour : Bool := false
  outputFormat : String := "text"
  deriving Repr, DecidableEq

/-! ## Variables -/

/-- The variables of one source, by their names in lower case. A variable that is there without a
value hides an earlier one; one with an empty value is not there. -/
def foldNames (given : List (String × Option String)) : Entries (Option String) :=
  Table.ofList ((given.filter fun e => e.2 != some "").map fun e => (Text.lower e.1, e.2))

/-- The variables of the environment and of the file. -/
structure Variables where
  environment : Entries (Option String)
  file : Entries (Option String)

/-- The variables that are given, with their names as they are. -/
def Variables.make (environment : Entries String) (file : Entries (Option String)) : Variables :=
  ⟨foldNames (environment.map fun e => (e.1, some e.2)), foldNames file⟩

/-- The value of a variable. -/
def Variables.get? (vs : Variables) (name : String) : Option String :=
  ((vs.environment.get? name).join).orElse fun _ => (vs.file.get? name).join

/-- The value of the variable of a field. -/
def Variables.field? (vs : Variables) (field : String) : Option String :=
  vs.get? ("tenetlint_" ++ field)

/-! ## Values -/

/-- A truth value as people type it, in upper or lower case. -/
def typedTruth (s : String) : Except FieldFault Bool :=
  let word := String.ofList (s.toList.map Char.toLower)
  if ["1", "true", "t", "yes", "y", "on"].contains word then .ok true
  else if ["0", "false", "f", "no", "n", "off"].contains word then .ok false
  else .error .noTruthValue

/-- The value of a field that has to be read, or its default. -/
def readField {α : Type} (read : String → Except FieldFault α) (default : α)
    (given : Option String) : Except FieldFault α :=
  (given.map read).getD (.ok default)

/-! ## Settings -/

/-- The settings that variables give, or the faults of their fields. -/
def Settings.ofVariables (vs : Variables) : Except FieldFaults Settings :=
  let base : Settings := {}
  let workers := readField typedInt base.maxWorkers (vs.field? "max_workers")
  let context := readField typedInt base.contextLines (vs.field? "context_lines")
  let noColour :=
    readField typedTruth base.noColour
      ((vs.get? "no_color").orElse fun _ => vs.field? "no_color")
  match workers, context, noColour with
  | .ok maxWorkers, .ok contextLines, .ok noColour =>
    .ok
      { logLevel := (vs.field? "log_level").getD base.logLevel
        docsRoot := (vs.field? "docs_root").getD base.docsRoot
        versionFile := (vs.field? "version_file").getD base.versionFile
        maxWorkers, contextLines, noColour
        outputFormat := (vs.field? "output_format").getD base.outputFormat }
  | _, _, _ =>
    .error (faultOf "max_workers" workers ++ faultOf "context_lines" context
      ++ faultOf "no_color" noColour)

/-- Why there are no settings: the file is no text, or fields have faults. -/
inductive SettingsFault
  | undecodable (f : DecodeFault)
  | invalid (faults : FieldFaults)
  deriving Repr, DecidableEq

/-- The file with variables. -/
def envFilePath : Path := { parts := [".env"] }

/-- The variables of the file, if there is one. -/
def fileVariables (tree : Tree) (environment : Entries String) :
    Except DecodeFault (Entries (Option String)) :=
  match tree.fileAt? envFilePath with
  | none => .ok []
  | some bytes =>
    (Text.decode bytes).map fun t => EnvFile.readVariables environment (Text.unifyBreaks t)

/-- The settings of a session in a directory. -/
def Settings.load (tree : Tree) (environment : Entries String) : Except SettingsFault Settings :=
  match fileVariables tree environment with
  | .error f => .error (.undecodable f)
  | .ok file =>
    match Settings.ofVariables (Variables.make environment file) with
    | .error faults => .error (.invalid faults)
    | .ok s => .ok s

end FrontMatter
