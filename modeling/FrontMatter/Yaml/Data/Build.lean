import FrontMatter.Yaml.Data.Basic
import FrontMatter.Yaml.Data.Outcome
import FrontMatter.Yaml.Node.Basic
import FrontMatter.Yaml.Scalar.Base64
import FrontMatter.Yaml.Scalar.Implicit
import FrontMatter.Yaml.Scalar.Number

/-!
# `FrontMatter.Yaml.Data.Build` — data from nodes

The tag of a node says what is made of it. Before a mapping is made, its merge keys are resolved:
the entries of the mappings they name come first, and the mapping's own entries are set over them.
A mapping without merge keys keeps the first of several entries with one key; one with merge keys
keeps the last of its own.

## Contents

* `Node.scalarText`: the text of a node that is read as a scalar.
* `buildScalar?`: what the tags of scalars make.
* `flatten`: the entries of a mapping with its merge keys resolved.
* `putNew`, `putLast`: adding an entry to a mapping.
* `build`: any node.
-/

namespace FrontMatter.Yaml

/-! ## Scalars -/

/-- A fault at a node. -/
def Node.fault {α : Type} (n : Node) (cause : BuildCause) : Except Fault α :=
  .error (.unbuildable cause n.start)

/-- The text of a node that is read as a scalar: a mapping stands for the value of its first key
`=`, if it has one. -/
def Node.scalarText : Nat → Node → Except Fault String
  | _, .scalar _ s _ => .ok s
  | fuel + 1, n@(.mapping _ entries _) =>
    match entries.find? fun e => e.1.tag == .value with
    | some e => scalarText fuel e.2
    | none => n.fault (.wrongKind .scalar .mapping)
  | _, n => n.fault (.wrongKind .scalar n.kind)

/-- A refusal as a fault. -/
def refuse {α : Type} : Except Refusal α → Except Fault α
  | .ok a => .ok a
  | .error r => .error (.refused r)

/-- The words for truth values, in lower case. -/
def boolValue? (word : String) : Option Bool :=
  if ["yes", "y", "true", "on"].contains word then some true
  else if ["no", "n", "false", "off"].contains word then some false
  else none

/-- A truth value. -/
def buildBool (text : String) : Except Fault Data :=
  let word := Text.lower text
  match boolValue? word with
  | some b => .ok (.scalar (.bool b))
  | none => .error (.refused (.badBool word))

/-- A double. -/
def buildFloat (v : Version) (text : String) : Except Fault Data := do
  match ← refuse (floatValue v text) with
  | .notANumber => return .notANumber
  | .double x => return .scalar (.float x)

/-- Bytes. -/
def buildBinary (n : Node) (text : String) : Except Fault Data :=
  match firstWide? text.toList with
  | some (c, start, stop) => n.fault (.wideBase64 c start stop)
  | none =>
    match decodeBase64 text.toList with
    | .ok bs => .ok (.bytes bs)
    | .error f => n.fault (.badBase64 f)

/-- A day or a moment; a timestamp that names none stays a text. -/
def buildTimestamp (fuel : Nat) (n : Node) : Except Fault Data :=
  let stamp? :=
    match n with
    | .scalar _ s _ => Stamp.ofText? s
    | _ => none
  match stamp? with
  | none => n.fault (.badTimestamp n.content)
  | some s =>
    match s.value with
    | some r => (refuse r).map Data.scalar
    | none => (n.scalarText fuel).map fun t => .scalar (.str t)

/-- What a node makes whose tag is that of a scalar. -/
def buildScalar? (v : Version) (fuel : Nat) (n : Node) : Option (Except Fault Data) :=
  let text := n.scalarText fuel
  match n.tag with
  | .null => some (text.map fun _ => .scalar .null)
  | .bool => some (text >>= buildBool)
  | .int => some (text >>= fun t => (refuse (intValue v t)).map fun i => .scalar (.int i))
  | .float => some (text >>= buildFloat v)
  | .binary => some (text >>= buildBinary n)
  | .timestamp => some (buildTimestamp fuel n)
  | .str => some (text.map fun t => .scalar (.str t))
  | _ => none

/-! ## Merge keys -/

/-- The entries of a mapping: those that merge keys bring, and its own. -/
structure Flattened where
  merged : List (Node × Node)
  own : List (Node × Node)

/-- All entries, merged ones first. -/
def Flattened.all (f : Flattened) : List (Node × Node) :=
  f.merged ++ f.own

/-- The entries that the value of a merge key brings: those of a mapping, or those of a list of
mappings, later ones first. `inside` gives the entries of one mapping. -/
def mergeEntries (inside : List (Node × Node) → Except Fault Flattened) (value : Node) :
    Except Fault (List (Node × Node)) :=
  match value with
  | .mapping _ entries _ => (inside entries).map Flattened.all
  | .sequence _ items _ => do
    let parts ← items.mapM fun item =>
      match item with
      | .mapping _ entries _ => (inside entries).map Flattened.all
      | other => .error (.unbuildable (.mergeItem other.kind) other.start)
    return parts.reverse.flatten
  | .scalar _ _ m => .error (.unbuildable (.mergeSource .scalar) m)

/-- Goes through the entries of a mapping; `own` holds its own so far, last first. Once a merge key
has brought entries, another one is dropped, and the entry after it is left as it is. A key `=` is a
text. -/
def flattenFrom (source : Node → Except Fault (List (Node × Node)))
    (merged own : List (Node × Node)) : List (Node × Node) → Except Fault Flattened
  | [] => .ok ⟨merged, own.reverse⟩
  | (k, v) :: rest =>
    if k.tag == .merge then
      if merged.isEmpty then
        match source v with
        | .ok es => flattenFrom source es own rest
        | .error f => .error f
      else
        match rest with
        | [] => .ok ⟨merged, own.reverse⟩
        | e :: rest => flattenFrom source merged (e :: own) rest
    else if k.tag == .value then flattenFrom source merged ((k.withTag .str, v) :: own) rest
    else flattenFrom source merged ((k, v) :: own) rest

/-- The entries of a mapping with its merge keys resolved. -/
def flatten : Nat → List (Node × Node) → Except Fault Flattened
  | 0, entries => .ok ⟨[], entries⟩
  | fuel + 1, entries => flattenFrom (mergeEntries fun es => flatten fuel es) [] [] entries

/-! ## Mappings -/

/-- Whether a key is there. -/
def hasKey (entries : List (Data × Data)) (k : Data) : Bool :=
  entries.any fun e => e.1.same k

/-- Adds an entry to entries that stand last first, unless its key is there. -/
def putNew (entries : List (Data × Data)) (e : Data × Data) : List (Data × Data) :=
  if hasKey entries e.1 then entries else e :: entries

/-- Adds an entry to entries that stand last first; the value of a key that is there is replaced. -/
def putLast (entries : List (Data × Data)) (e : Data × Data) : List (Data × Data) :=
  if hasKey entries e.1 then entries.map fun f => if f.1.same e.1 then (f.1, e.2) else f
  else e :: entries

/-- A list as a key is a tuple. -/
def asKey : Data → Data
  | .list items => .tuple items
  | d => d

/-- Why a key cannot be one: a mapping or a set is none, at the key's place. -/
def keyFault? (start : Mark) (k : Data) : Option Fault :=
  match k with
  | .map _ _ | .set _ => some (.unbuildable .unhashableKey start)
  | _ => none

/-- Why a key cannot be looked up: a tuple may hold what is no key. -/
def hashFault? (k : Data) : Option Fault :=
  k.unhashable?.map fun name => .refused (.unhashable name)

/-- The type of the collection that a tag makes, if it makes one. -/
def Tag.collectionName? : Tag → Option String
  | .seq | .pairs => some "list"
  | .map => some "dict"
  | .set => some "set"
  | .omap => some "ordereddict"
  | _ => none

/-! ## Any node -/

/-- One entry of a mapping. The key is made whole at once; the value is made by `value`. -/
def buildEntry (key value : Node → Outcome Data) (e : Node × Node) : Outcome (Data × Data) :=
  match (key e.1).map asKey with
  | .fault l f => .fault l f
  | .ok k =>
    match keyFault? e.1.start k with
    | some f => .fault 0 f
    | none => ((value e.2).check (hashFault? k)).map fun v => (k, v)

/-- The single entry of an item of a sequence of pairs. -/
def singleEntry (what : PairList) (item : Node) : Except Fault (Node × Node) :=
  match item with
  | .mapping _ [e] _ => .ok e
  | .mapping _ entries m => .error (.unbuildable (.notSingle what entries.length) m)
  | other => .error (.unbuildable (.notMapping what other.kind) other.start)

/-- One item of an ordered mapping, whose key must be new; `seen` are the keys before it. -/
def buildOrderedItem (part : Node → Outcome Data) (seen : List Data) (item : Node) :
    Outcome (Data × Data) :=
  match singleEntry .omap item with
  | .error f => .fault 0 f
  | .ok (key, value) =>
    match part key, key.tag.collectionName? with
    | .fault 0 f, _ => .fault 0 f
    | _, some name => .fault 0 (.refused (.unhashable name))
    | .fault l f, none => .fault l f
    | .ok k, none =>
      if seen.any fun d => d.same k then .fault 0 (.refused .repeatedKey)
      else (part value).map fun v => (k, v)

/-- The items of an ordered mapping; `done` holds their outcomes, last first. -/
def buildOrderedItems (part : Node → Outcome Data) (seen : List Data)
    (done : List (Outcome (Data × Data))) : List Node → List (Outcome (Data × Data))
  | [] => done.reverse
  | item :: rest =>
    let o := buildOrderedItem part seen item
    let seen := (o.value?.map fun e => e.1 :: seen).getD seen
    buildOrderedItems part seen (o :: done) rest

/-- One item of a list of pairs. -/
def buildPair (part : Node → Outcome Data) (item : Node) : Outcome Data :=
  match singleEntry .pairs item with
  | .error f => .fault 0 f
  | .ok (key, value) => ((part key).both (part value)).map fun p => .tuple [p.1, p.2]

/-- The items of a sequence of pairs, or the fault that there is no sequence. -/
def pairItems (what : PairList) (n : Node) : Except Fault (List Node) :=
  match n with
  | .sequence _ items _ => .ok items
  | other => other.fault (.notSequence what other.kind)

/-- The entries of a mapping as data. -/
def buildEntries (key value : Node → Outcome Data) (f : Flattened) : Outcome (List (Data × Data)) :=
  (Outcome.all (f.all.map (buildEntry key value))).map fun entries =>
    (entries.foldl (if f.merged.isEmpty then putNew else putLast) []).reverse

/-- The entries of a node that is read as a mapping; `fuel` bounds the nesting of merge keys. -/
def buildMapping (fuel : Nat) (key value : Node → Outcome Data) (n : Node) :
    Outcome (List (Data × Data)) :=
  match n with
  | .mapping _ entries _ =>
    match flatten fuel entries with
    | .ok f => buildEntries key value f
    | .error f => .fault 0 f
  | other => .ofExcept (other.fault (.wrongKind .mapping other.kind))

/-- What a node denotes. If `deep`, all its parts are made at once, as for a key; otherwise the
parts of a collection are one level below it. -/
def build (v : Version) : Nat → Bool → Node → Outcome Data
  | 0, _, n => .fault 0 (.unbuildable (.unknownTag n.tag.uri) n.start)
  | fuel + 1, deep, n =>
    let part := build v fuel deep
    let level {α : Type} (o : Outcome α) : Outcome α := if deep then o else o.below
    let entries (_ : Unit) := buildMapping fuel (build v fuel true) part n
    match buildScalar? v fuel n with
    | some r => .ofExcept r
    | none =>
      match n.tag with
      | .seq =>
        match n with
        | .sequence _ items _ => level ((Outcome.all (items.map part)).map Data.list)
        | other => level (.ofExcept (other.fault (.wrongKind .sequence other.kind)))
      | .map => level ((entries ()).map (Data.map false))
      | .set => level ((entries ()).map fun es => Data.set (es.map Prod.fst))
      | .omap =>
        match pairItems .omap n with
        | .error f => level (.fault 0 f)
        | .ok items =>
          level ((Outcome.all (buildOrderedItems part [] [] items)).map (Data.map true))
      | .pairs =>
        match pairItems .pairs n with
        | .error f => level (.fault 0 f)
        | .ok items => level ((Outcome.all (items.map (buildPair part))).map Data.list)
      | t => .fault 0 (.unbuildable (.unknownTag t.uri) n.start)

/-- What the root of a document denotes. -/
def Data.ofNode (v : Version) (n : Node) : Except Fault Data :=
  (build v (n.height + 1) false n).toExcept

end FrontMatter.Yaml
