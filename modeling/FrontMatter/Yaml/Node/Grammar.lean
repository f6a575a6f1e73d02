import FrontMatter.Yaml.Node.Basic
import FrontMatter.Yaml.Scalar.Implicit
import FrontMatter.Yaml.Token.Stream

/-!
# `FrontMatter.Yaml.Node.Grammar` — nodes from tokens

A recursive descent over the tokens. Where the grammar allows nothing to be written, an empty scalar
stands at that place. A node with an anchor, and an alias, is turned down as soon as it is met.

## Contents

* `Prologue`: the version and the tag handles of a document.
* `Properties`: anchor and tag before a node.
* `parseNode`, `parseBlockSequence`, `parseBlockMapping`, `parseFlowSequence`, `parseFlowMapping`:
  the grammar of nodes.
-/

namespace FrontMatter.Yaml

/-- What the directives of a document say. -/
structure Prologue where
  version : Version
  handles : Handles

/-- Where a node may stand: in block or flow context; after a mapping key at the same column, where
a sequence needs no further indentation. -/
inductive Position
  | block
  | blockOrFlat
  | flow
  deriving Repr, DecidableEq

/-- Whether the position is in block context. -/
def Position.inBlock : Position → Bool
  | .flow => false
  | _ => true

/-! ## Small steps -/

/-- An empty scalar at a place. -/
def emptyNode (m : Mark) : Node :=
  .scalar .null "" m

/-- Whether the next token is of a kind. -/
def TokenStream.nextIs (ts : TokenStream) (kind : Token.Kind) : Except Fault Bool := do
  return (← ts.peek).kind == kind

/-- A fault at a token. -/
def Token.fault {α : Type} (t : Token) (cause : String → Cause) : Except Fault α :=
  .error (.malformed (cause t.kind.name) t.start)

/-- What stands before a node: the anchor, the tag, whether any was written, and the place. -/
structure Properties where
  anchor : Option String
  tag : Option Tag
  written : Bool
  start : Mark

/-- The tag of a token at a place. -/
def resolveTag (hs : Handles) (raw : RawTag) (m : Mark) : Except Fault Tag :=
  match raw.resolve hs with
  | .ok t => .ok t
  | .error (.undefined h) => .error (.malformed (.undefinedHandle h) m)
  | .error (.refused r) => .error (.refused r)

/-- Reads an anchor and a tag, in either order. A tag is looked up when both are read; its place, if
an anchor follows, is taken to be that of the anchor. -/
def parseProperties (hs : Handles) (ts : TokenStream) :
    Except Fault (Properties × TokenStream) := do
  let t ← ts.peek
  match t.kind with
  | .anchor name =>
    let ts := ts.tail
    let u ← ts.peek
    match u.kind with
    | .tag raw =>
      let tag ← resolveTag hs raw u.start
      return (⟨some name, some tag, true, t.start⟩, ts.tail)
    | _ => return (⟨some name, none, true, t.start⟩, ts)
  | .tag raw =>
    let ts := ts.tail
    let u ← ts.peek
    match u.kind with
    | .anchor name =>
      let tag ← resolveTag hs raw u.start
      return (⟨some name, some tag, true, u.start⟩, ts.tail)
    | _ =>
      let tag ← resolveTag hs raw t.start
      return (⟨none, some tag, true, t.start⟩, ts)
  | _ => return (⟨none, none, false, t.start⟩, ts)

namespace Properties

/-- A node with an anchor is turned down. -/
def checkAnchor (p : Properties) : Except Fault Unit :=
  match p.anchor with
  | some name => .error (.violation (.shared false name) (some p.start))
  | none => .ok ()

/-- The tag of a scalar: as written, or as its form gives if it is plain or has the open tag, or
text. -/
def scalarTag (p : Properties) (v : Version) (text : String) (plain : Bool) : Tag :=
  match p.tag with
  | some t => if t.isOpen then Tag.ofPlain v text else t
  | none => if plain then Tag.ofPlain v text else .str

/-- The tag of a collection: as written, or the given one. -/
def collectionTag (p : Properties) (default : Tag) : Tag :=
  match p.tag with
  | some t => if t.isOpen then default else t
  | none => default

end Properties

/-! ## The grammar -/

/-- The kinds of tokens after which an item of a flow sequence or mapping ends. -/
def endsFlowItem (close : Token.Kind) (k : Token.Kind) : Bool :=
  k == .flowEntry || k == close

mutual

/-- Reads a node. -/
def parseNode (s : Prologue) : Nat → Position → TokenStream → Except Fault (Node × TokenStream)
  | 0, _, ts => do
    let t ← ts.peek
    t.fault (.noContent true)
  | fuel + 1, pos, ts => do
    let t ← ts.peek
    match t.kind with
    | .alias name => throw (.violation (.shared true name) (some t.start))
    | _ =>
      let (p, ts) ← parseProperties s.handles ts
      let t ← ts.peek
      match t.kind with
      | .scalar text plain =>
        p.checkAnchor
        return (.scalar (p.scalarTag s.version text plain) text p.start, ts.tail)
      | .flowSequenceStart =>
        p.checkAnchor
        let (items, ts) ← parseFlowSequence s fuel true [] ts.tail
        return (.sequence (p.collectionTag .seq) items p.start, ts)
      | .flowMappingStart =>
        p.checkAnchor
        let (entries, ts) ← parseFlowMapping s fuel true [] ts.tail
        return (.mapping (p.collectionTag .map) entries p.start, ts)
      | kind =>
        if pos == .blockOrFlat && kind == .blockEntry then
          p.checkAnchor
          let (items, ts) ← parseFlatSequence s fuel [] ts
          return (.sequence (p.collectionTag .seq) items p.start, ts)
        else if pos.inBlock && kind == .blockSequenceStart then
          p.checkAnchor
          let (items, ts) ← parseBlockSequence s fuel [] ts.tail
          return (.sequence (p.collectionTag .seq) items p.start, ts)
        else if pos.inBlock && kind == .blockMappingStart then
          p.checkAnchor
          let (entries, ts) ← parseBlockMapping s fuel [] ts.tail
          return (.mapping (p.collectionTag .map) entries p.start, ts)
        else if p.written then
          p.checkAnchor
          return (.scalar (p.scalarTag s.version "" true) "" p.start, ts)
        else t.fault (.noContent pos.inBlock)

/-- Reads the items of a block sequence up to its end; `done` holds them, last first. -/
def parseBlockSequence (s : Prologue) :
    Nat → List Node → TokenStream → Except Fault (List Node × TokenStream)
  | 0, _, ts => do
    let t ← ts.peek
    t.fault .blockSequence
  | fuel + 1, done, ts => do
    let t ← ts.peek
    match t.kind with
    | .blockEntry =>
      let ts := ts.tail
      let u ← ts.peek
      if u.kind == .blockEntry || u.kind == .blockEnd then
        parseBlockSequence s fuel (emptyNode t.stop :: done) ts
      else
        let (n, ts) ← parseNode s fuel .block ts
        parseBlockSequence s fuel (n :: done) ts
    | .blockEnd => return (done.reverse, ts.tail)
    | _ => t.fault .blockSequence

/-- Reads the items of a sequence at the column of the mapping around it. -/
def parseFlatSequence (s : Prologue) :
    Nat → List Node → TokenStream → Except Fault (List Node × TokenStream)
  | 0, done, ts => return (done.reverse, ts)
  | fuel + 1, done, ts => do
    let t ← ts.peek
    if t.kind == .blockEntry then
      let ts := ts.tail
      let u ← ts.peek
      if u.kind == .blockEntry || u.kind == .key || u.kind == .value || u.kind == .blockEnd then
        parseFlatSequence s fuel (emptyNode t.stop :: done) ts
      else
        let (n, ts) ← parseNode s fuel .block ts
        parseFlatSequence s fuel (n :: done) ts
    else return (done.reverse, ts)

/-- Reads the entries of a block mapping up to its end; `done` holds them, last first. -/
def parseBlockMapping (s : Prologue) :
    Nat → List (Node × Node) → TokenStream → Except Fault (List (Node × Node) × TokenStream)
  | 0, _, ts => do
    let t ← ts.peek
    t.fault .blockMapping
  | fuel + 1, done, ts => do
    let t ← ts.peek
    match t.kind with
    | .key =>
      let ts := ts.tail
      let u ← ts.peek
      let (k, ts) ←
        if u.kind == .key || u.kind == .value || u.kind == .blockEnd then
          pure (emptyNode t.stop, ts)
        else parseNode s fuel .blockOrFlat ts
      let (v, ts) ← parseBlockValue s fuel ts
      parseBlockMapping s fuel ((k, v) :: done) ts
    | .value =>
      if s.version.isOld then t.fault .blockMapping
      else
        let (v, ts) ← parseBlockValue s fuel ts
        parseBlockMapping s fuel ((emptyNode t.start, v) :: done) ts
    | .blockEnd => return (done.reverse, ts.tail)
    | _ => t.fault .blockMapping

/-- Reads the value of an entry of a block mapping; none need be written. -/
def parseBlockValue (s : Prologue) : Nat → TokenStream → Except Fault (Node × TokenStream)
  | 0, ts => do
    let t ← ts.peek
    t.fault .blockMapping
  | fuel + 1, ts => do
    let t ← ts.peek
    if t.kind == .value then
      let ts := ts.tail
      let u ← ts.peek
      if u.kind == .key || u.kind == .value || u.kind == .blockEnd then
        return (emptyNode u.stop, ts)
      else parseNode s fuel .blockOrFlat ts
    else return (emptyNode t.start, ts)

/-- Reads the items of a flow sequence up to its end; `first` tells whether none is read yet. -/
def parseFlowSequence (s : Prologue) :
    Nat → Bool → List Node → TokenStream → Except Fault (List Node × TokenStream)
  | 0, _, _, ts => do
    let t ← ts.peek
    t.fault .flowSequence
  | fuel + 1, first, done, ts => do
    let t ← ts.peek
    if t.kind == .flowSequenceEnd then return (done.reverse, ts.tail)
    else
      let ts ←
        if first then pure ts
        else if t.kind == .flowEntry then pure ts.tail
        else t.fault .flowSequence
      let t ← ts.peek
      if t.kind == .key then
        let (n, ts) ← parseFlowPair s fuel t ts.tail
        parseFlowSequence s fuel false (n :: done) ts
      else if t.kind == .flowSequenceEnd then return (done.reverse, ts.tail)
      else
        let (n, ts) ← parseNode s fuel .flow ts
        parseFlowSequence s fuel false (n :: done) ts

/-- Reads an item of a flow sequence that is a single key and value, after its key token. -/
def parseFlowPair (s : Prologue) :
    Nat → Token → TokenStream → Except Fault (Node × TokenStream)
  | 0, t, _ => t.fault .flowSequence
  | fuel + 1, t, ts => do
    let u ← ts.peek
    let (k, ts) ←
      if u.kind == .value || endsFlowItem .flowSequenceEnd u.kind then pure (emptyNode t.stop, ts)
      else parseNode s fuel .flow ts
    let (v, ts) ← parseFlowValue s fuel .flowSequenceEnd ts
    return (.mapping .map [(k, v)] t.start, ts)

/-- Reads the entries of a flow mapping up to its end; `first` tells whether none is read yet. -/
def parseFlowMapping (s : Prologue) :
    Nat → Bool → List (Node × Node) → TokenStream → Except Fault (List (Node × Node) × TokenStream)
  | 0, _, _, ts => do
    let t ← ts.peek
    t.fault .flowMapping
  | fuel + 1, first, done, ts => do
    let t ← ts.peek
    if t.kind == .flowMappingEnd then return (done.reverse, ts.tail)
    else
      let ts ←
        if first then pure ts
        else if t.kind == .flowEntry then pure ts.tail
        else t.fault .flowMapping
      let t ← ts.peek
      if t.kind == .key then
        let ts := ts.tail
        let u ← ts.peek
        let (k, ts) ←
          if u.kind == .value || endsFlowItem .flowMappingEnd u.kind then
            pure (emptyNode t.stop, ts)
          else parseNode s fuel .flow ts
        let (v, ts) ← parseFlowValue s fuel .flowMappingEnd ts
        parseFlowMapping s fuel false ((k, v) :: done) ts
      else if !s.version.isOld && t.kind == .value then
        let (v, ts) ← parseFlowValue s fuel .flowMappingEnd ts
        parseFlowMapping s fuel false ((emptyNode t.stop, v) :: done) ts
      else if t.kind == .flowMappingEnd then return (done.reverse, ts.tail)
      else
        let (k, ts) ← parseNode s fuel .flow ts
        let u ← ts.peek
        parseFlowMapping s fuel false ((k, emptyNode u.start) :: done) ts

/-- Reads the value of a key in a flow collection that `close` ends; none need be written. -/
def parseFlowValue (s : Prologue) :
    Nat → Token.Kind → TokenStream → Except Fault (Node × TokenStream)
  | 0, _, ts => do
    let t ← ts.peek
    t.fault .flowMapping
  | fuel + 1, close, ts => do
    let t ← ts.peek
    if t.kind == .value then
      let ts := ts.tail
      let u ← ts.peek
      if endsFlowItem close u.kind then return (emptyNode t.stop, ts)
      else parseNode s fuel .flow ts
    else return (emptyNode t.start, ts)

end

end FrontMatter.Yaml
