import FrontMatter.Document.Kind
import FrontMatter.Value.Table

/-!
# `FrontMatter.Rules.Schema` — the keys that a kind of document has

## Contents

* `Schema`, `Schema.allowed`: the keys that must be there and those that may.
* `SchemaTable`, `SchemaTable.standard`: the schemas of the kinds.
* `RuleFault`: why a document cannot be checked at all.
* `SchemaTable.find`: the schema of a kind given by name.
-/

namespace FrontMatter

/-- The keys that must be there, and those that may be there as well. -/
structure Schema where
  required : List String
  optional : List String := []
  deriving Repr, DecidableEq

/-- All keys that may be there. -/
def Schema.allowed (s : Schema) : List String :=
  s.required ++ s.optional

/-- The schemas of the kinds. -/
abbrev SchemaTable := Table DocumentKind Schema

/-- The schemas of a docs tree. -/
def SchemaTable.standard : SchemaTable :=
  [(.tenet, { required := ["id", "last_modified", "version"] }),
   (.binding, { required := ["id", "last_modified", "derived_from", "enforced_by", "version"] })]

/-- Why a document cannot be checked: its kind is none, its kind has no schema, or a value of it
is a number too long to be shown. -/
inductive RuleFault
  | unknownKind (name : String)
  | noSchema (kind : DocumentKind)
  | tooLong (message : String)
  deriving Repr, DecidableEq

/-- A fault in words. -/
def RuleFault.message : RuleFault → String
  | .unknownKind name => FrontMatter.unknownKind name
  | .noSchema .tenet => "<DocumentKind.TENET: 'tenet'>"
  | .noSchema .binding => "<DocumentKind.BINDING: 'binding'>"
  | .tooLong message => message

/-- The kind of a given name, or the fault that it is none. -/
def kindOfName (name : String) : Except RuleFault DocumentKind :=
  match DocumentKind.ofWord? name with
  | some k => .ok k
  | none => .error (.unknownKind name)

/-- A kind given by name, with its schema. -/
def SchemaTable.find (t : SchemaTable) (name : String) :
    Except RuleFault (DocumentKind × Schema) := do
  let kind ← kindOfName name
  match t.get? kind with
  | some s => return (kind, s)
  | none => throw (.noSchema kind)

/-- The table of schemas given by the names of their kinds; the standard one if none is given. -/
def SchemaTable.ofNames (given : List (String × Schema)) : Except RuleFault SchemaTable := do
  let entries ← given.mapM fun e => do return (← kindOfName e.1, e.2)
  return if entries.isEmpty then SchemaTable.standard else Table.ofList entries

end FrontMatter
