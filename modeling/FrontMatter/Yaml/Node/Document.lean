import FrontMatter.Yaml.Node.Grammar

/-!
# `FrontMatter.Yaml.Node.Document` — the documents of a text

A text is a stream of documents, each with its directives and markers. A block has at most one. All
documents are read before a second one is turned down, so a fault anywhere in the text is found
first.

## Contents

* `isReadable`, `findUnreadable?`: the characters that may stand in a text.
* `parseDirectives`: the lines before a document.
* `parseDocuments`: all documents.
* `Document`, `Document.ofText?`: a document, and the one document of a text.
-/

namespace FrontMatter.Yaml

/-! ## Characters -/

/-- A character that may stand in a text. -/
def isReadable (c : Char) : Bool :=
  let n := c.toNat
  n == 0x09 || n == 0x0A || n == 0x0D || (0x20 ≤ n && n ≤ 0x7E) || n == 0x85
    || (0xA0 ≤ n && n ≤ 0xD7FF) || (0xE000 ≤ n && n ≤ 0xFFFD) || 0x10000 ≤ n

/-- The first character, from place `i` on, that may not stand in a text. -/
def findUnreadable? (i : Nat) : List Char → Option (Char × Nat)
  | [] => none
  | c :: rest => if isReadable c then findUnreadable? (i + 1) rest else some (c, i)

/-! ## Directives -/

/-- What the directives of one document have declared so far. -/
structure Declared where
  version : Option Version
  handles : Handles

/-- Reads directives. A version may be given once, and a handle once. -/
def parseDirectives : Nat → Declared → TokenStream → Except Fault (Declared × TokenStream)
  | 0, d, ts => .ok (d, ts)
  | fuel + 1, d, ts => do
    let t ← ts.peek
    match t.kind with
    | .directive (.version v) =>
      if d.version.isSome then throw (.malformed .secondVersion t.start)
      else if v.major != 1 then throw (.malformed .foreignVersion t.start)
      else parseDirectives fuel { d with version := some v } ts.tail
    | .directive (.handle name uri) =>
      if d.handles.any fun h => h.1 == name then throw (.malformed (.secondHandle name) t.start)
      else parseDirectives fuel { d with handles := d.handles ++ [(name, uri)] } ts.tail
    | .directive .other => parseDirectives fuel d ts.tail
    | _ => return (d, ts)

/-- Only the versions 1.1 and 1.2 are read. -/
def checkVersion (v : Version) : Except Fault Unit :=
  if v.minor == 1 || v.minor == 2 then .ok () else .error (.refused (.minorVersion v.major v.minor))

/-! ## Documents -/

/-- Whether a document with markers, or the end of the text, starts with the token. -/
def startsExplicit : Token.Kind → Bool
  | .directive _ | .documentStart | .streamEnd => true
  | _ => false

/-- Moves over document ends. -/
def skipDocumentEnds : Nat → TokenStream → Except Fault TokenStream
  | 0, ts => .ok ts
  | fuel + 1, ts => do
    if ← ts.nextIs .documentEnd then skipDocumentEnds fuel ts.tail else return ts

/-- Enough steps for each part of a stream: at most two for each token. -/
def TokenStream.steps (ts : TokenStream) : Nat :=
  2 * ts.tokens.length + 4

/-- Reads the end of a document; the flag tells whether it is marked. Nothing else may stand on the
line of the marker. -/
def parseDocumentEnd (ts : TokenStream) : Except Fault (Bool × TokenStream) := do
  let t ← ts.peek
  if t.kind == .documentEnd then
    let u ← ts.tail.peek
    if u.kind != .streamEnd && t.stop.line == u.start.line then u.fault .afterDocumentEnd
    else return (true, ts.tail)
  else return (false, ts)

/-- A document: where it starts, its version and its root. -/
structure Document where
  start : Mark
  version : Version
  root : Node

/-- Reads a document that starts with its content. -/
def parseImplicit (steps : Nat) (version : Version) (ts : TokenStream) :
    Except Fault (Document × TokenStream) := do
  let t ← ts.peek
  let (root, ts) ← parseNode ⟨version, Handles.standard⟩ steps .block ts
  return (⟨t.start, version, root⟩, ts)

/-- Reads a document that starts with directives and a marker. -/
def parseExplicit (steps : Nat) (version : Version) (ts : TokenStream) :
    Except Fault (Document × TokenStream) := do
  let (d, ts) ← parseDirectives steps ⟨none, []⟩ ts
  (d.version.map checkVersion).getD (.ok ())
  let version := d.version.getD version
  let t ← ts.peek
  if t.kind != .documentStart then t.fault .documentStart
  else
    let ts := ts.tail
    let u ← ts.peek
    if startsExplicit u.kind || u.kind == .documentEnd then
      return (⟨t.start, version, emptyNode u.start⟩, ts)
    else
      let (root, ts) ← parseNode ⟨version, d.handles ++ Handles.standard⟩ steps .block ts
      return (⟨t.start, version, root⟩, ts)

/-- Reads all documents; `done` holds them, last first, and `steps` bounds the parts of each. The
first one, and from version 1.2 on each one after a marked end, may start with its content. A
version stays in force until the next one. -/
def parseDocuments (steps : Nat) :
    Nat → Version → Bool → List Document → TokenStream → Except Fault (List Document)
  | 0, _, _, done, _ => .ok done.reverse
  | fuel + 1, version, implicitAllowed, done, ts => do
    let t ← ts.peek
    if implicitAllowed && !startsExplicit t.kind then
      let (d, ts) ← parseImplicit steps version ts
      let (marked, ts) ← parseDocumentEnd ts
      parseDocuments steps fuel version (marked && !version.isOld) (d :: done) ts
    else
      let ts ← skipDocumentEnds steps ts
      if ← ts.nextIs .streamEnd then return done.reverse
      else
        let (d, ts) ← parseExplicit steps version ts
        let (marked, ts) ← parseDocumentEnd ts
        parseDocuments steps fuel d.version (marked && !d.version.isOld) (d :: done) ts

/-- The documents of a text. -/
def documents (text : String) : Except Fault (List Document) :=
  match findUnreadable? 0 text.toList with
  | some (c, i) => .error (.unreadable c i)
  | none =>
    let ts := TokenStream.ofText text
    parseDocuments ts.steps ts.steps Version.current true [] ts

/-- The one document of a text; none if the text has none. -/
def Document.ofText? (text : String) : Except Fault (Option Document) := do
  match ← documents text with
  | [] => return none
  | [d] => return some d
  | _ :: d :: _ => throw (.malformed .secondDocument d.start)

end FrontMatter.Yaml
