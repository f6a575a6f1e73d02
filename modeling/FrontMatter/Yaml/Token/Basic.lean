import FrontMatter.Yaml.Fault

/-!
# `FrontMatter.Yaml.Token.Basic` — tokens

## Contents

* `Version`: the version that a directive names.
* `RawTag`, `Directive`: what tag and directive tokens carry.
* `Token.Kind`, `Token`: a token and its place; `Token.Kind.name` is how messages call it.
* `Cursor.fault`: a fault at a cursor. Reading a part of a token gives what was read and the cursor
  after it, or a fault.
* `isHexDigit`, `hexNumber`, `isWordEnd`: common parts of several tokens.
-/

namespace FrontMatter.Yaml

/-- A version of the format. -/
structure Version where
  major : Nat
  minor : Nat
  deriving Repr, DecidableEq

/-- The version of a text without a directive. -/
def Version.current : Version := ⟨1, 2⟩

/-- Version 1.1 has its own rules for scalars and flow collections. -/
def Version.isOld (v : Version) : Bool :=
  v == ⟨1, 1⟩

/-- Whether the version is later than 1.1. -/
def Version.isNew (v : Version) : Bool :=
  1 < v.major || (v.major == 1 && 1 < v.minor)

/-- A tag as written: a handle, unless it is verbatim, and a suffix. -/
structure RawTag where
  handle : Option String
  suffix : String
  deriving Repr, DecidableEq

/-- What a directive line declares. -/
inductive Directive
  | version (v : Version)
  | handle (name uri : String)
  | other
  deriving Repr, DecidableEq

/-- The kinds of tokens. -/
inductive Token.Kind
  | directive (d : Directive)
  | documentStart
  | documentEnd
  | blockSequenceStart
  | blockMappingStart
  | blockEnd
  | flowSequenceStart
  | flowSequenceEnd
  | flowMappingStart
  | flowMappingEnd
  | flowEntry
  | blockEntry
  | key
  | value
  | alias (name : String)
  | anchor (name : String)
  | tag (t : RawTag)
  | scalar (text : String) (plain : Bool)
  | streamEnd
  deriving Repr, DecidableEq

/-- A token, with the places where it starts and stops. -/
structure Token where
  kind : Token.Kind
  start : Mark
  stop : Mark
  deriving Repr, DecidableEq

/-- How a token is called in messages. -/
def Token.Kind.name : Token.Kind → String
  | .directive _ => "<directive>"
  | .documentStart => "<document start>"
  | .documentEnd => "<document end>"
  | .blockSequenceStart => "<block sequence start>"
  | .blockMappingStart => "<block mapping start>"
  | .blockEnd => "<block end>"
  | .flowSequenceStart => "["
  | .flowSequenceEnd => "]"
  | .flowMappingStart => "\x7b"
  | .flowMappingEnd => "\x7d"
  | .flowEntry => ","
  | .blockEntry => "-"
  | .key => "?"
  | .value => ":"
  | .alias _ => "<alias>"
  | .anchor _ => "<anchor>"
  | .tag _ => "<tag>"
  | .scalar _ _ => "<scalar>"
  | .streamEnd => "<stream end>"

/-- A fault at a cursor. -/
def Cursor.fault {α : Type} (c : Cursor) (cause : Cause) : Except Fault α :=
  .error (.malformed cause c.mark)

/-- A hexadecimal digit. -/
def isHexDigit (c : Char) : Bool :=
  c.isDigit || ('a' ≤ c && c ≤ 'f') || ('A' ≤ c && c ≤ 'F')

/-- The value of a hexadecimal digit. -/
def hexValue (c : Char) : Nat :=
  if c.isDigit then c.toNat - '0'.toNat
  else if 'a' ≤ c then c.toNat - 'a'.toNat + 10
  else c.toNat - 'A'.toNat + 10

/-- The number that a run of hexadecimal digits denotes. -/
def hexNumber (cs : List Char) : Nat :=
  cs.foldl (fun n c => n * 16 + hexValue c) 0

/-- A line break, the end or a space: what ends a word on a line of directives or tags. -/
def isWordEnd (c : Char) : Bool :=
  isEnd c || c == ' '

end FrontMatter.Yaml
