import FrontMatter.Yaml.Token.BlockText
import FrontMatter.Yaml.Token.Plain

/-!
# `FrontMatter.Yaml.Token.Lexer` — from characters to tokens

The lexer stands at a cursor and knows which collections are open around it: block collections by
their columns, flow collections by their brackets. A mapping key without `?` is recognised only by
the `:` after it, so where one may have started the lexer remembers the place; when the `:` comes, a
key token is put there. The tokens from the earliest such place on are held back.

## Contents

* `PendingKey`, `FlowLevel`, `Lexer`: the state.
* `Lexer.dropStale`: places whose `:` can no longer come.
* `Lexer.release`: the tokens that are settled.
* `Lexer.skipToToken`, `Lexer.fetch`: the next token.
* `Lexer.step`: the tokens that are settled, and the next one.
-/

namespace FrontMatter.Yaml

/-! ## The state -/

/-- A place where a key may have started: `number` tokens come before it. A required one, at the
column of the block mapping around it, must turn out to be a key. -/
structure PendingKey where
  number : Nat
  required : Bool
  mark : Mark
  deriving Repr, DecidableEq

/-- An open flow collection, with the pending key of the level around it. -/
structure FlowLevel where
  isSequence : Bool
  outerKey : Option PendingKey
  deriving Repr, DecidableEq

/-- The state of the lexer. -/
structure Lexer where
  cursor : Cursor
  version : Version
  /-- The open flow collections, innermost first. -/
  flow : List FlowLevel
  /-- The columns of the open block collections, innermost first. -/
  indents : List Nat
  /-- Whether a key may start at the next token. -/
  keyAllowed : Bool
  /-- The pending key of the current level. -/
  key : Option PendingKey
  /-- The tokens that are held back. -/
  held : List Token
  /-- The number of tokens that are released. -/
  released : Nat

namespace Lexer

/-- The lexer before a text. -/
def ofText (s : String) : Lexer :=
  { cursor := Cursor.ofText s, version := Version.current, flow := [], indents := [],
    keyAllowed := true, key := none, held := [], released := 0 }

/-- Whether a flow collection is open. -/
def inFlow (l : Lexer) : Bool :=
  !l.flow.isEmpty

/-- The column of the innermost block collection, `-1` if there is none. -/
def indent (l : Lexer) : Int :=
  match l.indents with
  | [] => -1
  | n :: _ => n

/-- The least column of what belongs to the innermost block collection. -/
def contentIndent (l : Lexer) : Nat :=
  match l.indents with
  | [] => 0
  | n :: _ => n + 1

/-- Adds tokens. -/
def push (l : Lexer) (ts : List Token) : Lexer :=
  { l with held := l.held ++ ts }

/-- A fault at the lexer's place. -/
def fault {α : Type} (l : Lexer) (cause : Cause) : Except Fault α :=
  l.cursor.fault cause

/-! ## Pending keys -/

/-- The furthest distance from the start of a key to its `:`. -/
def keyReach : Nat := 1024

/-- Whether the `:` of a key can no longer come: it has to stand on the same line and near. -/
def isStale (m : Mark) (k : PendingKey) : Bool :=
  k.mark.line != m.line || keyReach < m.index - k.mark.index

/-- A pending key, unless it is stale; a stale one that is required is a fault. -/
def stillPending (m : Mark) (k : Option PendingKey) : Except Fault (Option PendingKey) :=
  match k with
  | none => .ok none
  | some k =>
    if !isStale m k then .ok (some k)
    else if k.required then .error (.malformed .unfinishedKey m)
    else .ok none

/-- Forgets the stale keys of all levels. -/
def dropStale (l : Lexer) : Except Fault Lexer := do
  let m := l.cursor.mark
  let key ← stillPending m l.key
  let flow ← l.flow.mapM fun f => do
    let k ← stillPending m f.outerKey
    return { f with outerKey := k }
  return { l with key := key, flow := flow }

/-- Forgets the pending key of the current level; it is a fault if it was required. -/
def dropKey (l : Lexer) : Except Fault Lexer :=
  match l.key with
  | none => .ok l
  | some k => if k.required then l.fault .unfinishedKey else .ok { l with key := none }

/-- Remembers that a key may start here. -/
def saveKey (l : Lexer) : Except Fault Lexer :=
  if !l.keyAllowed then .ok l
  else do
    let l ← l.dropKey
    let required := !l.inFlow && l.indent == (l.cursor.column : Int)
    let key := ⟨l.released + l.held.length, required, l.cursor.mark⟩
    return { l with key := some key }

/-- The number of tokens before the earliest pending key, of any level. -/
def firstPending (l : Lexer) : Option Nat :=
  (l.key :: l.flow.map FlowLevel.outerKey).reduceOption.map PendingKey.number |>.min?

/-- The tokens before the earliest pending key, and the lexer without them. -/
def release (l : Lexer) : List Token × Lexer :=
  match l.firstPending with
  | none => (l.held, { l with held := [], released := l.released + l.held.length })
  | some n =>
    let count := n - l.released
    (l.held.take count,
      { l with held := l.held.drop count, released := l.released + min count l.held.length })

/-! ## Block collections -/

/-- Opens a block collection at a column, if it is further right than the open ones. -/
def openBlock (l : Lexer) (column : Nat) : Bool × Lexer :=
  if l.indent < (column : Int) then (true, { l with indents := column :: l.indents })
  else (false, l)

/-- Closes the block collections further right than a column, outside flow collections. -/
def closeBlocks (l : Lexer) (column : Int) : Lexer :=
  if l.inFlow then l
  else
    let m := l.cursor.mark
    let closed := l.indents.takeWhile fun (n : Nat) => column < (n : Int)
    { l with
      indents := l.indents.drop closed.length
      held := l.held ++ closed.map fun _ => ⟨.blockEnd, m, m⟩ }

/-! ## Between tokens -/

/-- Skips blanks, comments and line breaks. In block context a line break allows a key. -/
def skipBlanks (inFlow : Bool) : List Char → Bool → Cursor → Bool × Cursor
  | [], allowed, c => (allowed, c)
  | _ :: steps, allowed, c =>
    let c := c.skipWhile fun x => x == ' ' || (inFlow && x == '\t')
    let c := if c.peek == '#' then c.skipLine else c
    match c.takeBreak with
    | some (_, c) => skipBlanks inFlow steps (allowed || !inFlow) c
    | none => (allowed, c)

/-- Goes to the next token. A byte order mark at the start of the text is skipped. -/
def skipToToken (l : Lexer) : Lexer :=
  let c := l.cursor
  let c := if c.mark.index == 0 && c.peek == '\uFEFF' then c.advance else c
  let (allowed, c) := skipBlanks l.inFlow c.steps l.keyAllowed c
  { l with cursor := c, keyAllowed := allowed }

/-! ## Tokens -/

/-- Adds a token of `n` characters. -/
def take (l : Lexer) (n : Nat) (kind : Token.Kind) : Lexer :=
  let c := l.cursor.skip n
  { l.push [⟨kind, l.cursor.mark, c.mark⟩] with cursor := c }

/-- Adds a token that ends at a cursor. -/
def takeTo (l : Lexer) (c : Cursor) (kind : Token.Kind) : Lexer :=
  { l.push [⟨kind, l.cursor.mark, c.mark⟩] with cursor := c }

/-- Closes all block collections, before something that ends a document. -/
def endDocument (l : Lexer) : Except Fault Lexer := do
  let l ← (l.closeBlocks (-1)).dropKey
  return { l with keyAllowed := false }

/-- A directive line. -/
def fetchDirective (l : Lexer) : Except Fault Lexer := do
  let l ← l.endDocument
  let ((d, stop), c) ← scanDirective l.version l.cursor
  let version :=
    match d with
    | .version v => v
    | _ => l.version
  let token : Token := ⟨.directive d, l.cursor.mark, stop⟩
  return { l.push [token] with cursor := c, version := version }

/-- A document marker. -/
def fetchMarker (l : Lexer) (kind : Token.Kind) : Except Fault Lexer := do
  let l ← l.endDocument
  return l.take 3 kind

/-- The start of a flow collection, which may be a key itself. -/
def fetchFlowStart (l : Lexer) (isSequence : Bool) : Except Fault Lexer := do
  let l ← l.saveKey
  let l := l.take 1 (if isSequence then .flowSequenceStart else .flowMappingStart)
  return { l with flow := ⟨isSequence, l.key⟩ :: l.flow, key := none, keyAllowed := true }

/-- The end of a flow collection. -/
def fetchFlowEnd (l : Lexer) (kind : Token.Kind) : Except Fault Lexer := do
  let l ← l.dropKey
  let l :=
    match l.flow with
    | [] => l
    | f :: flow => { l with flow := flow, key := f.outerKey }
  return { l with keyAllowed := false }.take 1 kind

/-- A comma between the items of a flow collection. -/
def fetchFlowEntry (l : Lexer) : Except Fault Lexer := do
  let l ← { l with keyAllowed := true }.dropKey
  return l.take 1 .flowEntry

/-- In block context: opens a collection at the current column if needed, where one may start. -/
def openHere (l : Lexer) (cause : Cause) (kind : Token.Kind) : Except Fault Lexer :=
  if l.inFlow then .ok l
  else if !l.keyAllowed then l.fault cause
  else
    let m := l.cursor.mark
    let (opened, l) := l.openBlock l.cursor.column
    .ok (if opened then l.push [⟨kind, m, m⟩] else l)

/-- The dash before an item of a block sequence. -/
def fetchBlockEntry (l : Lexer) : Except Fault Lexer := do
  let l ← l.openHere .entryNotAllowed .blockSequenceStart
  let l ← { l with keyAllowed := true }.dropKey
  return l.take 1 .blockEntry

/-- The question mark before a key. -/
def fetchKey (l : Lexer) : Except Fault Lexer := do
  let l ← l.openHere .keyNotAllowed .blockMappingStart
  let l ← { l with keyAllowed := !l.inFlow }.dropKey
  return l.take 1 .key

/-- Puts tokens before the held token with a number. -/
def insertAt (l : Lexer) (number : Nat) (ts : List Token) : Lexer :=
  let place := number - l.released
  { l with held := l.held.take place ++ ts ++ l.held.drop place }

/-- The colon before a value. If a key is pending, it was one: a key token is put before it, and in
block context the start of the mapping if the key opens one. -/
def fetchValue (l : Lexer) : Except Fault Lexer := do
  match l.key with
  | some k =>
    let keyToken : Token := ⟨.key, k.mark, k.mark⟩
    let (opened, l') := if l.inFlow then (false, l) else l.openBlock k.mark.column
    let ts := if opened then [⟨.blockMappingStart, k.mark, k.mark⟩, keyToken] else [keyToken]
    let l' := { l'.insertAt k.number ts with key := none, keyAllowed := false }
    return l'.take 1 .value
  | none =>
    let l ← l.openHere .valueNotAllowed .blockMappingStart
    let l ← { l with keyAllowed := !l.inFlow }.dropKey
    return l.take 1 .value

/-- An alias or an anchor. -/
def fetchName (l : Lexer) (isAlias : Bool) : Except Fault Lexer := do
  let l ← l.saveKey
  let (name, c) ← scanName isAlias l.cursor
  return { l with keyAllowed := false }.takeTo c (if isAlias then .alias name else .anchor name)

/-- A tag. -/
def fetchTag (l : Lexer) : Except Fault Lexer := do
  let l ← l.saveKey
  let (tag, c) ← scanTag l.version l.cursor
  return { l with keyAllowed := false }.takeTo c (.tag tag)

/-- A literal or folded scalar. -/
def fetchBlockText (l : Lexer) (folded : Bool) : Except Fault Lexer := do
  let l ← { l with keyAllowed := true }.dropKey
  let (text, c) ← scanBlockText folded l.contentIndent l.cursor
  return l.takeTo c (.scalar text false)

/-- A scalar in quotes. -/
def fetchQuoted (l : Lexer) (double : Bool) : Except Fault Lexer := do
  let l ← l.saveKey
  let (text, c) ← scanQuoted double l.cursor
  return { l with keyAllowed := false }.takeTo c (.scalar text false)

/-- A scalar without quotes. If a line ends after it, a key may follow. -/
def fetchPlain (l : Lexer) : Except Fault Lexer := do
  let l ← l.saveKey
  let ((text, endsLine), c) := scanPlain ⟨l.version, l.inFlow⟩ l.contentIndent l.cursor
  return { l with keyAllowed := endsLine }.takeTo c (.scalar text true)

/-! ## One step -/

/-- Whether a `:` here, before `next`, stands before a value. Inside flow mappings it always does,
unless the token before is such a colon itself. -/
def isValue (l : Lexer) (next : Char) : Bool :=
  match l.flow with
  | [] => isStop next
  | f :: _ =>
    if l.version.isOld then true
    else if f.isSequence || (l.held.getLast?.map Token.kind) == some .value then isStop next
    else true

/-- Reads the token at the cursor, which is not the end of the text. -/
def fetchToken (l : Lexer) : Except Fault Lexer :=
  let c := l.cursor
  let x := c.peek
  let next := c.peekAt 1
  if x == '%' && c.column == 0 then l.fetchDirective
  else if c.column == 0 && c.atTriple '-' then l.fetchMarker .documentStart
  else if c.column == 0 && c.atTriple '.' then l.fetchMarker .documentEnd
  else if x == '[' then l.fetchFlowStart true
  else if x == '\x7b' then l.fetchFlowStart false
  else if x == ']' then l.fetchFlowEnd .flowSequenceEnd
  else if x == '\x7d' then l.fetchFlowEnd .flowMappingEnd
  else if x == ',' then l.fetchFlowEntry
  else if x == '-' && isStop next then l.fetchBlockEntry
  else if x == '?' && (l.inFlow || isStop next) then l.fetchKey
  else if x == ':' && l.isValue next then l.fetchValue
  else if x == '*' then l.fetchName true
  else if x == '&' then l.fetchName false
  else if x == '!' then l.fetchTag
  else if x == '|' && !l.inFlow then l.fetchBlockText false
  else if x == '>' && !l.inFlow then l.fetchBlockText true
  else if x == '\'' then l.fetchQuoted false
  else if x == '"' then l.fetchQuoted true
  else if startsPlain ⟨l.version, l.inFlow⟩ x next then l.fetchPlain
  else l.fault (.badStart x)

/-- The result of a step: the lexer goes on, or has come to the end of the text. -/
inductive Step
  | next (l : Lexer)
  | finished (l : Lexer)

/-- Goes to the next token and reads it. -/
def fetch (l : Lexer) : Except Fault Step := do
  let l ← l.skipToToken.dropStale
  let l := l.closeBlocks l.cursor.column
  if l.cursor.atEnd then
    let l ← l.endDocument
    return .finished l
  else
    let l ← l.fetchToken
    return .next l

/-- One step: the tokens that are settled by now, and how the lexer goes on after them. -/
def step (l : Lexer) : List Token × Except Fault Step :=
  match l.dropStale with
  | .error fault => ([], .error fault)
  | .ok l => (l.release.1, l.release.2.fetch)

end Lexer

end FrontMatter.Yaml
