import FrontMatter.Proofs.TokenPlaces
import FrontMatter.Yaml.Node.Document

/-!
# `FrontMatter.Proofs.NodePlaces` — the places of nodes

A node starts where one of the tokens it is read from starts or stops, and a fault of the grammar is
at the start of a token. The functions of the grammar call each other, so all of them are looked at
together: if each of them keeps to the places of its tokens with some fuel, each of them does with
one step more.

## Contents

* `Node.IsAt`: all nodes of a tree at places with a property.
* `Grammar.KeepsTo`: all functions of the grammar keep to the places of their tokens, with
  `Grammar.keepsTo`.
* `parses_directives`, `parses_explicit`, `yields_documents`: directives and documents.
* `yields_document_ofText?`: the one document of a text.
-/

namespace FrontMatter.Yaml

/-! ## Nodes -/

/-- All nodes of a tree start at places with a property. -/
inductive Node.IsAt (p : Mark → Prop) : Node → Prop
  | scalar {tag : Tag} {text : String} {m : Mark} (start : p m) : IsAt p (.scalar tag text m)
  | sequence {tag : Tag} {items : List Node} {m : Mark} (start : p m)
    (parts : ∀ n ∈ items, IsAt p n) : IsAt p (.sequence tag items m)
  | mapping {tag : Tag} {entries : List (Node × Node)} {m : Mark} (start : p m)
    (keys : ∀ e ∈ entries, IsAt p e.1) (values : ∀ e ∈ entries, IsAt p e.2) :
    IsAt p (.mapping tag entries m)

/-- Keys and values at places with a property. -/
structure EntryIsAt (p : Mark → Prop) (e : Node × Node) : Prop where
  key : e.1.IsAt p
  value : e.2.IsAt p

section Nodes

variable {p : Mark → Prop}

/-- A node is at its own place. -/
theorem Node.IsAt.start {n : Node} (h : n.IsAt p) : p n.start := by
  cases h with
  | scalar start => exact start
  | sequence start _ => exact start
  | mapping start _ _ => exact start

/-- A mapping of entries. -/
theorem isAt_mapping {tag : Tag} {entries : List (Node × Node)} {m : Mark} (hm : p m)
    (h : ∀ e ∈ entries, EntryIsAt p e) : (Node.mapping tag entries m).IsAt p :=
  .mapping hm (fun e he => (h e he).key) fun e he => (h e he).value

/-- Nothing, at a place. -/
theorem isAt_emptyNode {m : Mark} (hm : p m) : (emptyNode m).IsAt p :=
  .scalar hm

/-! ## Streams -/

/-- The next token. -/
theorem TokenStream.IsAt.yields_peek {ts : TokenStream} (h : ts.IsAt p) :
    Yields p (Token.IsAt p) ts.peek := by
  unfold TokenStream.peek
  split
  · rename_i t _ heq
    exact .ok (h.tokens t (heq ▸ List.mem_cons_self))
  · exact h.ending.map fun m hm => ⟨hm, hm⟩

/-- The stream after the next token. -/
theorem TokenStream.IsAt.tail {ts : TokenStream} (h : ts.IsAt p) : ts.tail.IsAt p :=
  ⟨fun t ht => h.tokens t (List.mem_of_mem_tail ht), h.ending⟩

/-- Whether the next token is of a kind. -/
theorem TokenStream.IsAt.yields_nextIs {ts : TokenStream} (h : ts.IsAt p) (kind : Token.Kind) :
    FailsAt p (ts.nextIs kind) :=
  h.yields_peek.bind fun _ _ => .ok trivial

/-- A fault at a token. -/
theorem Token.IsAt.yields_fault {α : Type} {q : α → Prop} {t : Token} (h : t.IsAt p)
    (cause : String → Cause) : Yields p q (t.fault cause) :=
  .error (Fault.isAt_of_mark rfl h.start)

/-- A part of the grammar: what is read has a property, and the stream after it keeps to the same
places. -/
def Parses {α : Type} (p : Mark → Prop) (q : α → Prop)
    (x : Except Fault (α × TokenStream)) : Prop :=
  Yields p (fun r => q r.1 ∧ r.2.IsAt p) x

/-- A part of the grammar that goes on after another one. -/
theorem Parses.bind {α β : Type} {q : α → Prop} {r : β → Prop} {x : Except Fault (α × TokenStream)}
    {f : α × TokenStream → Except Fault β} (hx : Parses p q x)
    (hf : ∀ a ts, q a → ts.IsAt p → Yields p r (f (a, ts))) : Yields p r (x >>= f) :=
  Yields.bind hx fun a ha => hf a.1 a.2 ha.1 ha.2

end Nodes

/-! ## Properties -/

section Grammar

variable {p : Mark → Prop} {s : Prologue} {fuel : Nat} {ts : TokenStream}

/-- The tag of a token. -/
theorem yields_resolveTag (hs : Handles) (raw : RawTag) {m : Mark} (hm : p m) :
    FailsAt p (resolveTag hs raw m) := by
  unfold resolveTag
  split
  · exact .ok trivial
  · exact .error (Fault.isAt_of_mark rfl hm)
  · exact .error (Fault.isAt_of_no_mark rfl)

/-- Anchor and tag. -/
theorem parses_properties (hs : Handles) (h : ts.IsAt p) :
    Parses p (fun props => p props.start) (parseProperties hs ts) := by
  unfold parseProperties
  refine h.yields_peek.bind fun t ht => ?_
  split
  · refine h.tail.yields_peek.bind fun u hu => ?_
    split
    · exact (yields_resolveTag hs _ hu.start).bind fun _ => .ok ⟨ht.start, h.tail.tail⟩
    · exact .ok ⟨ht.start, h.tail⟩
  · refine h.tail.yields_peek.bind fun u hu => ?_
    split
    · exact (yields_resolveTag hs _ hu.start).bind fun _ => .ok ⟨hu.start, h.tail.tail⟩
    · exact (yields_resolveTag hs _ ht.start).bind fun _ => .ok ⟨ht.start, h.tail⟩
  · exact .ok ⟨ht.start, h⟩

/-- A node with an anchor is turned down at its place. -/
theorem yields_checkAnchor {props : Properties} (h : p props.start) :
    FailsAt p props.checkAnchor := by
  unfold Properties.checkAnchor
  split
  · exact .error (Fault.isAt_of_mark rfl h)
  · exact .ok trivial

/-! ## The grammar -/

/-- With some fuel, every function of the grammar keeps to the places of its tokens. -/
structure Grammar.KeepsTo (p : Mark → Prop) (s : Prologue) (fuel : Nat) : Prop where
  node (pos : Position) {ts : TokenStream} : ts.IsAt p →
    Parses p (Node.IsAt p) (parseNode s fuel pos ts)
  blockSequence {done : List Node} {ts : TokenStream} : (∀ n ∈ done, n.IsAt p) → ts.IsAt p →
    Parses p (fun ns => ∀ n ∈ ns, n.IsAt p) (parseBlockSequence s fuel done ts)
  flatSequence {done : List Node} {ts : TokenStream} : (∀ n ∈ done, n.IsAt p) → ts.IsAt p →
    Parses p (fun ns => ∀ n ∈ ns, n.IsAt p) (parseFlatSequence s fuel done ts)
  blockMapping {done : List (Node × Node)} {ts : TokenStream} : (∀ e ∈ done, EntryIsAt p e) →
    ts.IsAt p → Parses p (fun es => ∀ e ∈ es, EntryIsAt p e) (parseBlockMapping s fuel done ts)
  blockValue {ts : TokenStream} : ts.IsAt p → Parses p (Node.IsAt p) (parseBlockValue s fuel ts)
  flowSequence (first : Bool) {done : List Node} {ts : TokenStream} : (∀ n ∈ done, n.IsAt p) →
    ts.IsAt p → Parses p (fun ns => ∀ n ∈ ns, n.IsAt p) (parseFlowSequence s fuel first done ts)
  flowPair {t : Token} {ts : TokenStream} : t.IsAt p → ts.IsAt p →
    Parses p (Node.IsAt p) (parseFlowPair s fuel t ts)
  flowMapping (first : Bool) {done : List (Node × Node)} {ts : TokenStream} :
    (∀ e ∈ done, EntryIsAt p e) → ts.IsAt p →
    Parses p (fun es => ∀ e ∈ es, EntryIsAt p e) (parseFlowMapping s fuel first done ts)
  flowValue (close : Token.Kind) {ts : TokenStream} : ts.IsAt p →
    Parses p (Node.IsAt p) (parseFlowValue s fuel close ts)

/-- A sequence after its properties. -/
theorem parses_sequence {props : Properties} {x : Except Fault (List Node × TokenStream)}
    (hprops : p props.start) (hx : Parses p (fun ns => ∀ n ∈ ns, n.IsAt p) x) :
    Parses p (Node.IsAt p) (do
      props.checkAnchor
      let (items, ts) ← x
      return (.sequence (props.collectionTag .seq) items props.start, ts)) :=
  (yields_checkAnchor hprops).bind fun _ => hx.bind fun _ _ hitems hts =>
    .ok ⟨.sequence hprops hitems, hts⟩

/-- A mapping after its properties. -/
theorem parses_mapping {props : Properties} {x : Except Fault (List (Node × Node) × TokenStream)}
    (hprops : p props.start) (hx : Parses p (fun es => ∀ e ∈ es, EntryIsAt p e) x) :
    Parses p (Node.IsAt p) (do
      props.checkAnchor
      let (entries, ts) ← x
      return (.mapping (props.collectionTag .map) entries props.start, ts)) :=
  (yields_checkAnchor hprops).bind fun _ => hx.bind fun _ _ hentries hts =>
    .ok ⟨isAt_mapping hprops hentries, hts⟩

namespace Grammar.KeepsTo

/-- A node. -/
theorem node_succ (h : KeepsTo p s fuel) (pos : Position) (hts : ts.IsAt p) :
    Parses p (Node.IsAt p) (parseNode s (fuel + 1) pos ts) := by
  simp only [parseNode]
  refine hts.yields_peek.bind fun t ht => ?_
  split
  · exact .error (Fault.isAt_of_mark rfl ht.start)
  · refine (parses_properties s.handles hts).bind fun props ts hprops hts => ?_
    refine hts.yields_peek.bind fun t ht => ?_
    dsimp only
    split
    · exact (yields_checkAnchor hprops).bind fun _ => .ok ⟨.scalar hprops, hts.tail⟩
    · exact parses_sequence hprops (h.flowSequence true (List.forall_mem_nil _) hts.tail)
    · exact parses_mapping hprops (h.flowMapping true (List.forall_mem_nil _) hts.tail)
    · exact .ite (parses_sequence hprops (h.flatSequence (List.forall_mem_nil _) hts))
        <| .ite (parses_sequence hprops (h.blockSequence (List.forall_mem_nil _) hts.tail))
        <| .ite (parses_mapping hprops (h.blockMapping (List.forall_mem_nil _) hts.tail))
        <| .ite ((yields_checkAnchor hprops).bind fun _ => .ok ⟨.scalar hprops, hts⟩)
        <| ht.yields_fault _

/-- The items of a block sequence. -/
theorem blockSequence_succ (h : KeepsTo p s fuel) {done : List Node}
    (hdone : ∀ n ∈ done, n.IsAt p) (hts : ts.IsAt p) :
    Parses p (fun ns => ∀ n ∈ ns, n.IsAt p) (parseBlockSequence s (fuel + 1) done ts) := by
  simp only [parseBlockSequence]
  refine hts.yields_peek.bind fun t ht => ?_
  split
  · refine hts.tail.yields_peek.bind fun u hu => ?_
    refine .ite
      (h.blockSequence (List.forall_mem_cons.mpr ⟨isAt_emptyNode ht.stop, hdone⟩) hts.tail)
      <| (h.node .block hts.tail).bind fun n ts hn hts => ?_
    exact h.blockSequence (List.forall_mem_cons.mpr ⟨hn, hdone⟩) hts
  · exact .ok ⟨fun n hn => hdone n (List.mem_reverse.mp hn), hts.tail⟩
  · exact ht.yields_fault _

/-- The items of a sequence at the column of the mapping around it. -/
theorem flatSequence_succ (h : KeepsTo p s fuel) {done : List Node}
    (hdone : ∀ n ∈ done, n.IsAt p) (hts : ts.IsAt p) :
    Parses p (fun ns => ∀ n ∈ ns, n.IsAt p) (parseFlatSequence s (fuel + 1) done ts) := by
  simp only [parseFlatSequence]
  refine hts.yields_peek.bind fun t ht => ?_
  split
  · refine hts.tail.yields_peek.bind fun u hu => ?_
    refine .ite (h.flatSequence (List.forall_mem_cons.mpr ⟨isAt_emptyNode ht.stop, hdone⟩) hts.tail)
      <| (h.node .block hts.tail).bind fun n ts hn hts => ?_
    exact h.flatSequence (List.forall_mem_cons.mpr ⟨hn, hdone⟩) hts
  · exact .ok ⟨fun n hn => hdone n (List.mem_reverse.mp hn), hts⟩

/-- The value of an entry of a block mapping whose key has been read, and the entries after it. -/
theorem parses_blockEntry (h : KeepsTo p s fuel) {done : List (Node × Node)}
    (hdone : ∀ e ∈ done, EntryIsAt p e) (k : Node) (ts : TokenStream) (hk : k.IsAt p)
    (hts : ts.IsAt p) :
    Parses p (fun es => ∀ e ∈ es, EntryIsAt p e) (do
      let (v, ts) ← parseBlockValue s fuel ts
      parseBlockMapping s fuel ((k, v) :: done) ts) :=
  (h.blockValue hts).bind fun _ _ hv hts =>
    h.blockMapping (List.forall_mem_cons.mpr ⟨⟨hk, hv⟩, hdone⟩) hts

/-- The entries of a block mapping. -/
theorem blockMapping_succ (h : KeepsTo p s fuel) {done : List (Node × Node)}
    (hdone : ∀ e ∈ done, EntryIsAt p e) (hts : ts.IsAt p) :
    Parses p (fun es => ∀ e ∈ es, EntryIsAt p e) (parseBlockMapping s (fuel + 1) done ts) := by
  have hvalue := h.parses_blockEntry hdone
  simp only [parseBlockMapping]
  refine hts.yields_peek.bind fun t ht => ?_
  split
  · refine hts.tail.yields_peek.bind fun u hu => ?_
    exact .ite (hvalue _ _ (isAt_emptyNode ht.stop) hts.tail)
      ((h.node .blockOrFlat hts.tail).bind hvalue)
  · exact .ite (ht.yields_fault _) (hvalue _ _ (isAt_emptyNode ht.start) hts)
  · exact .ok ⟨fun e he => hdone e (List.mem_reverse.mp he), hts.tail⟩
  · exact ht.yields_fault _

/-- The value of an entry of a block mapping. -/
theorem blockValue_succ (h : KeepsTo p s fuel) (hts : ts.IsAt p) :
    Parses p (Node.IsAt p) (parseBlockValue s (fuel + 1) ts) := by
  simp only [parseBlockValue]
  refine hts.yields_peek.bind fun t ht => ?_
  split
  · refine hts.tail.yields_peek.bind fun u hu => ?_
    exact .ite (.ok ⟨isAt_emptyNode hu.stop, hts.tail⟩) (h.node .blockOrFlat hts.tail)
  · exact .ok ⟨isAt_emptyNode ht.start, hts⟩

/-- An item of a flow sequence, and what comes after it. -/
theorem parses_flowItem (h : KeepsTo p s fuel) {done : List Node}
    (hdone : ∀ n ∈ done, n.IsAt p) (ts : TokenStream) (hts : ts.IsAt p) :
    Parses p (fun ns => ∀ n ∈ ns, n.IsAt p) (do
      let t ← ts.peek
      if t.kind == .key then
        let (n, ts) ← parseFlowPair s fuel t ts.tail
        parseFlowSequence s fuel false (n :: done) ts
      else if t.kind == .flowSequenceEnd then return (done.reverse, ts.tail)
      else
        let (n, ts) ← parseNode s fuel .flow ts
        parseFlowSequence s fuel false (n :: done) ts) := by
  refine hts.yields_peek.bind fun t ht => ?_
  have hnext : ∀ (n : Node) (ts : TokenStream), n.IsAt p → ts.IsAt p →
      Parses p (fun ns => ∀ n ∈ ns, n.IsAt p) (parseFlowSequence s fuel false (n :: done) ts) :=
    fun n ts hn hts => h.flowSequence false (List.forall_mem_cons.mpr ⟨hn, hdone⟩) hts
  exact .ite ((h.flowPair ht hts.tail).bind hnext)
    <| .ite (.ok ⟨fun n hn => hdone n (List.mem_reverse.mp hn), hts.tail⟩)
    <| (h.node .flow hts).bind hnext

/-- The items of a flow sequence. -/
theorem flowSequence_succ (h : KeepsTo p s fuel) (first : Bool) {done : List Node}
    (hdone : ∀ n ∈ done, n.IsAt p) (hts : ts.IsAt p) :
    Parses p (fun ns => ∀ n ∈ ns, n.IsAt p) (parseFlowSequence s (fuel + 1) first done ts) := by
  simp only [parseFlowSequence]
  refine hts.yields_peek.bind fun t ht => ?_
  exact .ite (.ok ⟨fun n hn => hdone n (List.mem_reverse.mp hn), hts.tail⟩)
    <| .ite (h.parses_flowItem hdone ts hts)
    <| .ite (h.parses_flowItem hdone ts.tail hts.tail)
    <| Yields.bind (ht.yields_fault .flowSequence) (h.parses_flowItem hdone)

/-- A single key and value. -/
theorem flowPair_succ (h : KeepsTo p s fuel) {t : Token} (ht : t.IsAt p) (hts : ts.IsAt p) :
    Parses p (Node.IsAt p) (parseFlowPair s (fuel + 1) t ts) := by
  have hvalue : ∀ (k : Node) (ts : TokenStream), k.IsAt p → ts.IsAt p →
      Parses p (Node.IsAt p) (do
        let (v, ts) ← parseFlowValue s fuel .flowSequenceEnd ts
        return (.mapping .map [(k, v)] t.start, ts)) := fun k ts hk hts =>
    (h.flowValue .flowSequenceEnd hts).bind fun v ts hv hts =>
      .ok ⟨isAt_mapping ht.start (List.forall_mem_singleton.mpr ⟨hk, hv⟩), hts⟩
  simp only [parseFlowPair]
  refine hts.yields_peek.bind fun u hu => ?_
  exact .ite (hvalue _ _ (isAt_emptyNode ht.stop) hts) ((h.node .flow hts).bind hvalue)

/-- An entry of a flow mapping, and what comes after it. -/
theorem parses_flowEntry (h : KeepsTo p s fuel) {done : List (Node × Node)}
    (hdone : ∀ e ∈ done, EntryIsAt p e) (ts : TokenStream) (hts : ts.IsAt p) :
    Parses p (fun es => ∀ e ∈ es, EntryIsAt p e) (do
      let t ← ts.peek
      if t.kind == .key then
        let ts := ts.tail
        let u ← ts.peek
        let (k, ts) ←
          if u.kind == .value || endsFlowItem .flowMappingEnd u.kind then
            pure (emptyNode t.stop, ts)
          else parseNode s fuel .flow ts
        let (v, ts) ← parseFlowValue s fuel .flowMappingEnd ts
        parseFlowMapping s fuel false ((k, v) :: done) ts
      else if !s.version.isOld && t.kind == .value then
        let (v, ts) ← parseFlowValue s fuel .flowMappingEnd ts
        parseFlowMapping s fuel false ((emptyNode t.stop, v) :: done) ts
      else if t.kind == .flowMappingEnd then return (done.reverse, ts.tail)
      else
        let (k, ts) ← parseNode s fuel .flow ts
        let u ← ts.peek
        parseFlowMapping s fuel false ((k, emptyNode u.start) :: done) ts) := by
  have hnext : ∀ (k v : Node) (ts : TokenStream), k.IsAt p → v.IsAt p → ts.IsAt p →
      Parses p (fun es => ∀ e ∈ es, EntryIsAt p e)
        (parseFlowMapping s fuel false ((k, v) :: done) ts) :=
    fun k v ts hk hv hts => h.flowMapping false (List.forall_mem_cons.mpr ⟨⟨hk, hv⟩, hdone⟩) hts
  have hvalue : ∀ (k : Node) (ts : TokenStream), k.IsAt p → ts.IsAt p →
      Parses p (fun es => ∀ e ∈ es, EntryIsAt p e) (do
        let (v, ts) ← parseFlowValue s fuel .flowMappingEnd ts
        parseFlowMapping s fuel false ((k, v) :: done) ts) := fun k ts hk hts =>
    (h.flowValue .flowMappingEnd hts).bind fun v ts hv hts => hnext k v ts hk hv hts
  refine hts.yields_peek.bind fun t ht => ?_
  split
  · refine hts.tail.yields_peek.bind fun u hu => ?_
    exact .ite (hvalue _ _ (isAt_emptyNode ht.stop) hts.tail)
      ((h.node .flow hts.tail).bind hvalue)
  · exact .ite (hvalue _ _ (isAt_emptyNode ht.stop) hts)
      <| .ite (.ok ⟨fun e he => hdone e (List.mem_reverse.mp he), hts.tail⟩)
      <| (h.node .flow hts).bind fun k ts hk hts =>
        hts.yields_peek.bind fun u hu => hnext k _ ts hk (isAt_emptyNode hu.start) hts

/-- The entries of a flow mapping. -/
theorem flowMapping_succ (h : KeepsTo p s fuel) (first : Bool) {done : List (Node × Node)}
    (hdone : ∀ e ∈ done, EntryIsAt p e) (hts : ts.IsAt p) :
    Parses p (fun es => ∀ e ∈ es, EntryIsAt p e) (parseFlowMapping s (fuel + 1) first done ts) := by
  simp only [parseFlowMapping]
  refine hts.yields_peek.bind fun t ht => ?_
  exact .ite (.ok ⟨fun e he => hdone e (List.mem_reverse.mp he), hts.tail⟩)
    <| .ite (h.parses_flowEntry hdone ts hts)
    <| .ite (h.parses_flowEntry hdone ts.tail hts.tail)
    <| Yields.bind (ht.yields_fault .flowMapping) (h.parses_flowEntry hdone)

/-- The value of a key in a flow collection. -/
theorem flowValue_succ (h : KeepsTo p s fuel) (close : Token.Kind) (hts : ts.IsAt p) :
    Parses p (Node.IsAt p) (parseFlowValue s (fuel + 1) close ts) := by
  simp only [parseFlowValue]
  refine hts.yields_peek.bind fun t ht => ?_
  split
  · refine hts.tail.yields_peek.bind fun u hu => ?_
    exact .ite (.ok ⟨isAt_emptyNode ht.stop, hts.tail⟩) (h.node .flow hts.tail)
  · exact .ok ⟨isAt_emptyNode ht.start, hts⟩

end Grammar.KeepsTo

/-- Without fuel, the functions of the grammar fail at the next token or stop. -/
theorem Grammar.keepsTo_zero (p : Mark → Prop) (s : Prologue) : KeepsTo p s 0 where
  node _ _ hts := hts.yields_peek.bind fun _ ht => ht.yields_fault _
  blockSequence _ hts := hts.yields_peek.bind fun _ ht => ht.yields_fault _
  flatSequence hdone hts := .ok ⟨fun n hn => hdone n (List.mem_reverse.mp hn), hts⟩
  blockMapping _ hts := hts.yields_peek.bind fun _ ht => ht.yields_fault _
  blockValue hts := hts.yields_peek.bind fun _ ht => ht.yields_fault _
  flowSequence _ _ _ _ hts := hts.yields_peek.bind fun _ ht => ht.yields_fault _
  flowPair ht _ := ht.yields_fault _
  flowMapping _ _ _ _ hts := hts.yields_peek.bind fun _ ht => ht.yields_fault _
  flowValue _ _ hts := hts.yields_peek.bind fun _ ht => ht.yields_fault _

/-- The functions of the grammar keep to the places of their tokens, whatever the fuel. -/
theorem Grammar.keepsTo (p : Mark → Prop) (s : Prologue) (fuel : Nat) : KeepsTo p s fuel := by
  induction fuel with
  | zero => exact keepsTo_zero p s
  | succ fuel ih =>
    exact {
      node := fun pos _ => ih.node_succ pos
      blockSequence := ih.blockSequence_succ
      flatSequence := ih.flatSequence_succ
      blockMapping := ih.blockMapping_succ
      blockValue := ih.blockValue_succ
      flowSequence := fun first _ _ => ih.flowSequence_succ first
      flowPair := ih.flowPair_succ
      flowMapping := fun first _ _ => ih.flowMapping_succ first
      flowValue := fun close _ => ih.flowValue_succ close }

end Grammar

/-! ## Documents -/

/-- A document whose start and whose nodes are at places with a property. -/
structure Document.IsAt (p : Mark → Prop) (d : Document) : Prop where
  start : p d.start
  root : d.root.IsAt p

section Documents

variable {p : Mark → Prop} {ts : TokenStream}

/-- Directives. -/
theorem parses_directives (fuel : Nat) (d : Declared) (hts : ts.IsAt p) :
    Parses p (fun _ => True) (parseDirectives fuel d ts) := by
  induction fuel generalizing d ts with
  | zero => exact .ok ⟨trivial, hts⟩
  | succ fuel ih =>
    simp only [parseDirectives]
    refine hts.yields_peek.bind fun t ht => ?_
    split
    · exact .ite (.error (Fault.isAt_of_mark rfl ht.start))
        <| .ite (.error (Fault.isAt_of_mark rfl ht.start))
        <| ih _ hts.tail
    · exact .ite (.error (Fault.isAt_of_mark rfl ht.start)) (ih _ hts.tail)
    · exact ih _ hts.tail
    · exact .ok ⟨trivial, hts⟩

/-- A version that is not read has no place. -/
theorem yields_checkVersion (p : Mark → Prop) (v : Version) :
    FailsAt p (checkVersion v) :=
  .ite (.ok trivial) (.error (Fault.isAt_of_no_mark rfl))

/-- Document ends. -/
theorem yields_skipDocumentEnds (fuel : Nat) (hts : ts.IsAt p) :
    Yields p (TokenStream.IsAt p) (skipDocumentEnds fuel ts) := by
  induction fuel generalizing ts with
  | zero => exact .ok hts
  | succ fuel ih =>
    exact (hts.yields_nextIs .documentEnd).bind fun _ => .ite (ih hts.tail) (.ok hts)

/-- The end of a document. -/
theorem parses_documentEnd (hts : ts.IsAt p) :
    Parses p (fun _ => True) (parseDocumentEnd ts) := by
  refine hts.yields_peek.bind fun t ht => ?_
  refine .ite (hts.tail.yields_peek.bind fun u hu => ?_) (.ok ⟨trivial, hts⟩)
  exact .ite (hu.yields_fault _) (.ok ⟨trivial, hts.tail⟩)

/-- A document that starts with its content. -/
theorem parses_implicit (steps : Nat) (version : Version) (hts : ts.IsAt p) :
    Parses p (Document.IsAt p) (parseImplicit steps version ts) :=
  hts.yields_peek.bind fun _ ht => ((Grammar.keepsTo p _ steps).node .block hts).bind
    fun _ _ hroot hts => .ok ⟨⟨ht.start, hroot⟩, hts⟩

/-- A document that starts with directives and a marker. -/
theorem parses_explicit (steps : Nat) (version : Version) (hts : ts.IsAt p) :
    Parses p (Document.IsAt p) (parseExplicit steps version ts) := by
  unfold parseExplicit
  refine (parses_directives steps _ hts).bind fun d ts _ hts => ?_
  have hversion : FailsAt p ((d.version.map checkVersion).getD (.ok ())) := by
    cases d.version with
    | none => exact .ok trivial
    | some v => exact yields_checkVersion p v
  refine hversion.bind fun _ => hts.yields_peek.bind fun t ht => ?_
  refine .ite (ht.yields_fault _) (hts.tail.yields_peek.bind fun u hu => ?_)
  exact .ite (.ok ⟨⟨ht.start, isAt_emptyNode hu.start⟩, hts.tail⟩)
    (((Grammar.keepsTo p _ steps).node .block hts.tail).bind fun _ _ hroot hts =>
      .ok ⟨⟨ht.start, hroot⟩, hts⟩)

/-- The end of a document, and the documents after it. -/
theorem yields_furtherDocuments {steps fuel : Nat} {version : Version} {done : List Document}
    (hfurther : ∀ (implicitAllowed : Bool) (ts : TokenStream), ts.IsAt p →
      Yields p (fun ds => ∀ d ∈ ds, d.IsAt p)
        (parseDocuments steps fuel version implicitAllowed done ts)) (hts : ts.IsAt p) :
    Yields p (fun ds => ∀ d ∈ ds, d.IsAt p) (do
      let (marked, ts) ← parseDocumentEnd ts
      parseDocuments steps fuel version (marked && !version.isOld) done ts) :=
  (parses_documentEnd hts).bind fun _ ts _ hts => hfurther _ ts hts

/-- All documents. -/
theorem yields_parseDocuments (steps fuel : Nat) (version : Version) (implicitAllowed : Bool)
    {done : List Document} (hdone : ∀ d ∈ done, d.IsAt p) (hts : ts.IsAt p) :
    Yields p (fun ds => ∀ d ∈ ds, d.IsAt p)
      (parseDocuments steps fuel version implicitAllowed done ts) := by
  induction fuel generalizing version implicitAllowed done ts with
  | zero => exact .ok fun d hd => hdone d (List.mem_reverse.mp hd)
  | succ fuel ih =>
    have hmore : ∀ d : Document, d.IsAt p → ∀ e ∈ d :: done, e.IsAt p :=
      fun d hd => List.forall_mem_cons.mpr ⟨hd, hdone⟩
    simp only [parseDocuments]
    refine hts.yields_peek.bind fun t _ => .ite ?_ ?_
    · exact (parses_implicit steps version hts).bind fun d ts hd hts =>
        yields_furtherDocuments (fun _ ts hts => ih _ _ (hmore d hd) hts) hts
    · refine (yields_skipDocumentEnds steps hts).bind fun ts hts => ?_
      refine (hts.yields_nextIs .streamEnd).bind fun _ => .ite ?_ ?_
      · exact .ok fun d hd => hdone d (List.mem_reverse.mp hd)
      · exact (parses_explicit steps version hts).bind fun d ts hd hts =>
          yields_furtherDocuments (fun _ ts hts => ih _ _ (hmore d hd) hts) hts

/-- The documents of a text are at places of the text. -/
theorem yields_documents (text : String) :
    Yields (Cursor.ofText text).Ahead (fun ds => ∀ d ∈ ds, d.IsAt (Cursor.ofText text).Ahead)
      (documents text) := by
  unfold documents
  split
  · exact .error (Fault.isAt_of_no_mark rfl)
  · have hts := isAt_tokenStream text
    generalize TokenStream.ofText text = ts at hts ⊢
    exact yields_parseDocuments ts.steps ts.steps Version.current true (List.forall_mem_nil _) hts

/-- The one document of a text is at places of the text, and so is the fault if there are more. -/
theorem yields_document_ofText? (text : String) :
    Yields (Cursor.ofText text).Ahead
      (fun d? => ∀ d, d? = some d → d.IsAt (Cursor.ofText text).Ahead)
      (Document.ofText? text) := by
  refine (yields_documents text).bind fun ds hds => ?_
  match ds, hds with
  | [], _ => exact .ok fun d hd => nomatch hd
  | [d], hds => exact .ok fun d' hd' => Option.some.inj hd' ▸ hds d List.mem_cons_self
  | _ :: d :: _, hds =>
    exact .error (Fault.isAt_of_mark rfl (hds d (List.mem_cons_of_mem _ List.mem_cons_self)).start)

end Documents

end FrontMatter.Yaml
