import FrontMatter.Text.Integer

/-!
# `FrontMatter.Value.FieldFault` — what is wrong with the fields of a record

A record may be given as loose fields. Every field is checked by itself, and every fault is told
with the name of its field.

## Contents

* `FieldFault`: what is wrong with a field.
* `FieldFault.code`, `FieldFault.message`: its short name and its words.
* `typedInt`: a field that is typed as a whole number.
* `FieldFaults`, `faultOf`: faults with their fields.
-/

namespace FrontMatter

/-- What is wrong with a field. -/
inductive FieldFault
  | missing
  | noText
  | noChoice (choices : List String)
  | noTruthValue
  | noWholeNumber
  | unreadableNumber
  | longNumber
  | fraction
  | infinite
  deriving Repr, DecidableEq

/-- The short name of a fault. -/
def FieldFault.code : FieldFault → String
  | .missing => "missing"
  | .noText => "string_type"
  | .noChoice _ => "enum"
  | .noTruthValue => "bool_parsing"
  | .noWholeNumber => "int_type"
  | .unreadableNumber => "int_parsing"
  | .longNumber => "int_parsing_size"
  | .fraction => "int_from_float"
  | .infinite => "finite_number"

/-- Words in single quotes as a list of alternatives. -/
def alternatives (words : List String) : String :=
  let quoted := words.map fun w => "'" ++ w ++ "'"
  String.intercalate ", " quoted.dropLast ++ " or " ++ quoted.getLastD ""

/-- A fault in words. -/
def FieldFault.message : FieldFault → String
  | .missing => "Field required"
  | .noText => "Input should be a valid string"
  | .noChoice choices => "Input should be " ++ alternatives choices
  | .noTruthValue => "Input should be a valid boolean, unable to interpret input"
  | .noWholeNumber => "Input should be a valid integer"
  | .unreadableNumber =>
    "Input should be a valid integer, unable to parse string as an integer"
  | .longNumber => "Unable to parse input string as an integer, exceeded maximum size"
  | .fraction => "Input should be a valid integer, got a number with a fractional part"
  | .infinite => "Input should be a finite number"

/-- The whole number that is typed in a field. -/
def typedInt (s : String) : Except FieldFault Int :=
  match Text.readInt s with
  | .ok n => .ok n
  | .error .unreadable => .error .unreadableNumber
  | .error .tooLong => .error .longNumber

/-- Faults with the fields they are of. -/
abbrev FieldFaults := List (String × FieldFault)

/-- The fault of a field, with its name. -/
def faultOf {α : Type} (name : String) : Except FieldFault α → FieldFaults
  | .ok _ => []
  | .error f => [(name, f)]

end FrontMatter
