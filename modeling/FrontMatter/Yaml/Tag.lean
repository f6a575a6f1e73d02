import FrontMatter.Yaml.Scalar.Number
import FrontMatter.Yaml.Token.Basic

/-!
# `FrontMatter.Yaml.Tag` — the types of nodes

A tag says how a node is read. The known tags have a constructor each; every other tag is kept as
it is written.

## Contents

* `Tag`, `Tag.uri`, `Tag.ofUri`: tags and their names; `Tag.isOpen` is the tag without a meaning.
* `Handles`: the names that tag handles stand for.
* `decodeSuffix`: the text of a suffix.
* `RawTag.resolve`: a written tag as a tag.
-/

namespace FrontMatter.Yaml

/-- The type of a node. -/
inductive Tag
  | null
  | bool
  | int
  | float
  | binary
  | timestamp
  | omap
  | pairs
  | set
  | str
  | seq
  | map
  | merge
  | value
  | other (uri : String)
  deriving Repr, DecidableEq

namespace Tag

/-- What the names of the known tags begin with. -/
def family : String := "tag:yaml.org,2002:"

/-- The known tags with the last part of their names. -/
def known : List (String × Tag) :=
  [("null", .null), ("bool", .bool), ("int", .int), ("float", .float), ("binary", .binary),
    ("timestamp", .timestamp), ("omap", .omap), ("pairs", .pairs), ("set", .set), ("str", .str),
    ("seq", .seq), ("map", .map), ("merge", .merge), ("value", .value)]

/-- The tag of a name. -/
def ofUri (uri : String) : Tag :=
  match known.find? fun e => family ++ e.1 == uri with
  | some e => e.2
  | none => .other uri

/-- The name of a tag. -/
def uri : Tag → String
  | .other u => u
  | t =>
    match known.find? fun e => e.2 == t with
    | some e => family ++ e.1
    | none => ""

/-- The tag `!`, which leaves the type open. -/
def isOpen (t : Tag) : Bool :=
  t == .other "!"

end Tag

/-- The names that tag handles stand for. -/
abbrev Handles := List (String × String)

/-- The handles that need no directive. -/
def Handles.standard : Handles :=
  [("!", "!"), ("!!", Tag.family)]

/-! ## Written tags -/

/-- The character of a number in base sixteen, which is read as leniently as any other number. -/
def numberedChar (digits : List Char) : Except Refusal Char := do
  let n ← wholeNumber 16 (String.ofList digits)
  if n < 0 then throw .noCharacter
  return Char.ofNat n.toNat

/-- A suffix in which `%` and the two characters after it, or as many as there are, stand for the
character with that number. -/
def decodeSuffix : List Char → Except Refusal (List Char)
  | [] => .ok []
  | '%' :: a :: b :: rest => do return (← numberedChar [a, b]) :: (← decodeSuffix rest)
  | ['%', a] => do return [← numberedChar [a]]
  | ['%'] => do return [← numberedChar []]
  | c :: rest => do return c :: (← decodeSuffix rest)

/-- Why a written tag stands for none: its handle has no meaning, or its suffix cannot be read. -/
inductive TagFault
  | undefined (handle : String)
  | refused (refusal : Refusal)

/-- The tag that a written tag stands for. -/
def RawTag.resolve (hs : Handles) (t : RawTag) : Except TagFault Tag :=
  let named (meaning : String) :=
    match decodeSuffix t.suffix.toList with
    | .ok cs => .ok (Tag.ofUri (meaning ++ String.ofList cs))
    | .error r => .error (.refused r)
  match t.handle with
  | none => named ""
  | some h =>
    match hs.lookup h with
    | some meaning => named meaning
    | none => .error (.undefined h)

end FrontMatter.Yaml
