import FrontMatter.Diagnostic.Basic
import FrontMatter.Value.FieldFault
import FrontMatter.Value.Text

/-!
# `FrontMatter.Diagnostic.Draft` — findings from loose fields

A finding may be given as fields of any type. Each field is checked by itself, in a fixed order.

## Contents

* `Draft`: the fields as they were given.
* `requiredText`, `optionalText`, `requiredKind`, `optionalInt`: the fields one by one.
* `Draft.check`: the finding, or the faults of its fields.
* `Draft.checkCall`: the same, where only fields may be named, some of them have to be, and the file
  may be of any type.
-/

namespace FrontMatter

/-- The fields of a finding as they were given. -/
abbrev Draft := Entries Value

/-! ## Fields -/

/-- The whole number that a double is, if it is one and its magnitude is less than `2 ^ 63`. -/
def wholeOf (x : Float) : Except FieldFault Int :=
  match Decimal.Parts.ofFloat? x with
  | none => .error .infinite
  | some p =>
    let scale := Decimal.powerOfTwo (-p.exponent).toNat
    let m := p.mantissa * Decimal.powerOfTwo p.exponent.toNat
    if m % scale != 0 then .error .fraction
    else if Decimal.powerOfTwo 63 ≤ m / scale then .error .longNumber
    else .ok (if p.negative then -((m / scale : Nat) : Int) else (m / scale : Nat))

/-- A field that has to be a text. -/
def requiredText (v : Option Value) : Except FieldFault String :=
  match v with
  | none => .error .missing
  | some (.scalar (.str s)) => .ok s
  | some _ => .error .noText

/-- A field that may be a text. -/
def optionalText (v : Option Value) : Except FieldFault (Option String) :=
  match v with
  | none | some (.scalar .null) => .ok none
  | some (.scalar (.str s)) => .ok (some s)
  | some _ => .error .noText

/-- The fault of a field that names no kind. -/
def noKind : FieldFault :=
  .noChoice (DiagnosticKind.all.map DiagnosticKind.word)

/-- The field that has to name a kind. -/
def requiredKind (v : Option Value) : Except FieldFault DiagnosticKind :=
  match v with
  | none => .error .missing
  | some (.scalar (.str s)) =>
    match DiagnosticKind.ofWord? s with
    | some k => .ok k
    | none => .error noKind
  | some _ => .error noKind

/-- A field that may be a whole number, as a number, a truth value or a text. -/
def optionalInt (v : Option Value) : Except FieldFault (Option Int) :=
  match v with
  | none | some (.scalar .null) => .ok none
  | some (.scalar (.int n)) => .ok (some n)
  | some (.scalar (.bool b)) => .ok (some (if b then 1 else 0))
  | some (.scalar (.float x)) => (wholeOf x).map some
  | some (.scalar (.str s)) => (typedInt s).map some
  | some _ => .error .noWholeNumber

/-- The finding that a draft gives, or the faults of its fields. -/
def Draft.check (d : Draft) : Except FieldFaults Diagnostic :=
  let file := requiredText (d.get? "file")
  let kind := requiredKind (d.get? "kind")
  let message := requiredText (d.get? "message")
  let line := optionalInt (d.get? "line")
  let field := optionalText (d.get? "field")
  let suggestion := optionalText (d.get? "suggestion")
  match file, kind, message, line, field, suggestion with
  | .ok file, .ok kind, .ok message, .ok line, .ok field, .ok suggestion =>
    .ok { file, kind, message, line, field, suggestion }
  | _, _, _, _, _, _ =>
    .error (faultOf "file" file ++ faultOf "kind" kind ++ faultOf "message" message
      ++ faultOf "line" line ++ faultOf "field" field ++ faultOf "suggestion" suggestion)

/-- The findings that drafts give, or the faults of the first one that has any. -/
def Draft.checkAll (ds : List Draft) : Except FieldFaults (List Diagnostic) :=
  ds.mapM Draft.check

/-! ## Calls -/

/-- Why a call with named fields is turned down: there is no field of some name, some fields have to
be named and are not, a file cannot be shown, or fields have faults. -/
inductive CallFault
  | unknown (name : String)
  | absent (names : List String)
  | tooLong (message : String)
  | invalid (faults : FieldFaults)
  deriving Repr, DecidableEq

/-- The fields of a finding. -/
def Draft.fields : List String := ["file", "kind", "message", "line", "field", "suggestion"]

/-- The fields that have to be named. -/
def Draft.named : List String := ["file", "kind", "message"]

/-- The first name that is no field. -/
def Draft.unknown? (d : Draft) : Option String :=
  d.keys.find? fun name => !Draft.fields.contains name

/-- A name that is no field, in words; `self` is the collector, which every call gives already. -/
def unknownMessage (name : String) : String :=
  "ErrorCollector.add_error() got "
    ++ (if name == "self" then "multiple values for argument" else "an unexpected keyword argument")
    ++ " '" ++ name ++ "'"

/-- Names in single quotes, with an `and` before the last one. -/
def enumeration (names : List String) : String :=
  match names.map fun n => "'" ++ n ++ "'" with
  | [] => ""
  | [a] => a
  | [a, b] => a ++ " and " ++ b
  | many => String.intercalate ", " many.dropLast ++ ", and " ++ many.getLastD ""

/-- The names that a call lacks, in words. -/
def absentMessage (names : List String) : String :=
  "ErrorCollector.add_error() missing " ++ toString names.length
    ++ " required keyword-only argument" ++ (if names.length == 1 then "" else "s")
    ++ ": " ++ enumeration names

/-- The finding that a call gives whose names are those of fields; the file may be of any type and
is shown as text. -/
def Draft.checkNamed (d : Draft) : Except CallFault Diagnostic :=
  match Draft.named.filter fun n => !d.holds n with
  | [] =>
    match ((d.get? "file").getD (.scalar .null)).text with
    | .error e => .error (.tooLong e.message)
    | .ok file =>
      match Draft.check (d.put "file" (.str file)) with
      | .ok diagnostic => .ok diagnostic
      | .error faults => .error (.invalid faults)
  | names => .error (.absent names)

/-- The finding that a call with named fields gives. -/
def Draft.checkCall (d : Draft) : Except CallFault Diagnostic :=
  match d.unknown? with
  | some name => .error (.unknown name)
  | none => d.checkNamed

end FrontMatter
