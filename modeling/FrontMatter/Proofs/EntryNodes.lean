import FrontMatter.Proofs.EntryTokens
import FrontMatter.Yaml.Node.Document

/-!
# `FrontMatter.Proofs.EntryNodes` — the document of a block of entries

A block mapping whose keys and values are scalars has four tokens for each entry. They make one
document, whose root is a mapping with the keys and values in order.

## Contents

* `ScalarText.node`, `IsEntryNode`: the nodes of an entry.
* `parseNode_scalar`, `parseBlockValue_scalar`, `parseBlockMapping_scalars`: reading one entry.
* `exists_nodes_of_kinds`: reading all of them, by induction.
* `parseDocuments_implicit`: a text that is one node.
* `exists_document_of_kinds`, `exists_document_of_lines`: the one document of a block.
-/

namespace FrontMatter.Yaml

/-! ## One entry -/

/-- The type of a scalar without a tag: that of its form without quotes, and text in quotes. -/
def ScalarText.tag (v : Version) (t : ScalarText) : Tag :=
  if t.plain then Tag.ofPlain v t.text else .str

/-- The node of a scalar. -/
def ScalarText.node (v : Version) (t : ScalarText) (m : Mark) : Node :=
  .scalar (t.tag v) t.text m

/-- The nodes of an entry. -/
def IsEntryNode (v : Version) (e : ScalarText × ScalarText) (entry : Node × Node) : Prop :=
  ∃ m₁ m₂, entry = (e.1.node v m₁, e.2.node v m₂)

section OneEntry

variable (s : Prologue) (fuel : Nat) {k t : ScalarText} {keyToken key colon value : Token}
  (ts : List Token) (ending : Except Fault Mark)

/-- A scalar token is a scalar node. -/
theorem parseNode_scalar (pos : Position) (hvalue : value.kind = t.kind) :
    parseNode s (fuel + 1) pos ⟨value :: ts, ending⟩
      = .ok (t.node s.version value.start, ⟨ts, ending⟩) := by
  obtain ⟨kind, start, stop⟩ := value
  obtain rfl : kind = .scalar t.text t.plain := hvalue
  rw [parseNode]
  rfl

/-- A colon and a scalar are a value. -/
theorem parseBlockValue_scalar (hcolon : colon.kind = .value) (hvalue : value.kind = t.kind) :
    parseBlockValue s (fuel + 2) ⟨colon :: value :: ts, ending⟩
      = .ok (t.node s.version value.start, ⟨ts, ending⟩) := by
  have hnode := parseNode_scalar s fuel ts ending .blockOrFlat hvalue
  obtain ⟨kind, start, stop⟩ := value
  obtain rfl : kind = .scalar t.text t.plain := hvalue
  obtain ⟨kind, start, stop⟩ := colon
  obtain rfl : kind = .value := hcolon
  rw [parseBlockValue]
  exact hnode

/-- A key and a value are an entry. -/
theorem parseBlockMapping_scalars (done : List (Node × Node)) (hkeyToken : keyToken.kind = .key)
    (hkey : key.kind = k.kind) (hcolon : colon.kind = .value) (hvalue : value.kind = t.kind) :
    parseBlockMapping s (fuel + 3) done ⟨keyToken :: key :: colon :: value :: ts, ending⟩
      = parseBlockMapping s (fuel + 2)
        ((k.node s.version key.start, t.node s.version value.start) :: done) ⟨ts, ending⟩ := by
  have hknode := parseNode_scalar s (fuel + 1) (colon :: value :: ts) ending .blockOrFlat hkey
  have hvnode := parseBlockValue_scalar s fuel ts ending hcolon hvalue
  obtain ⟨kind, start, stop⟩ := keyToken
  obtain rfl : kind = .key := hkeyToken
  obtain ⟨kind, start, stop⟩ := key
  obtain rfl : kind = .scalar k.text k.plain := hkey
  rw [parseBlockMapping]
  simp [TokenStream.peek, TokenStream.tail, bind, Except.bind, hknode, hvnode]

end OneEntry

/-! ## All entries -/

/-- Every entry has four tokens. -/
theorem length_flatMap_entryKinds (es : List (ScalarText × ScalarText)) :
    (es.flatMap entryKinds).length = 4 * es.length := by
  induction es with
  | nil => rfl
  | cons e es ih =>
    have hfour : (entryKinds e).length = 4 := rfl
    rw [List.flatMap_cons, List.length_append, List.length_cons, ih, hfour]
    omega

/-- The entries are read one after the other, up to the end of the mapping. -/
theorem exists_nodes_of_kinds (s : Prologue) (fuel : Nat) {es : List (ScalarText × ScalarText)}
    {ts : List Token} (hkinds : ts.map Token.kind = es.flatMap entryKinds ++ [.blockEnd])
    (ending : Except Fault Mark) (done : List (Node × Node)) :
    ∃ nodes, List.Forall₂ (IsEntryNode s.version) es nodes ∧
      parseBlockMapping s (es.length + (fuel + 2)) done ⟨ts, ending⟩
        = .ok (done.reverse ++ nodes, ⟨[], ending⟩) := by
  induction es generalizing ts done with
  | nil =>
    obtain ⟨⟨kind, start, stop⟩, ts, rfl, hend, hrest⟩ := List.map_eq_cons_iff.mp hkinds
    obtain rfl : kind = .blockEnd := hend
    obtain rfl := List.map_eq_nil_iff.mp hrest
    refine ⟨[], .nil, ?_⟩
    rw [List.length_nil, Nat.zero_add, List.append_nil, parseBlockMapping]
    rfl
  | cons e es ih =>
    obtain ⟨keyToken, ts, rfl, hkeyToken, hkinds⟩ := List.map_eq_cons_iff.mp hkinds
    obtain ⟨key, ts, rfl, hkey, hkinds⟩ := List.map_eq_cons_iff.mp hkinds
    obtain ⟨colon, ts, rfl, hcolon, hkinds⟩ := List.map_eq_cons_iff.mp hkinds
    obtain ⟨value, ts, rfl, hvalue, hkinds⟩ := List.map_eq_cons_iff.mp hkinds
    obtain ⟨nodes, hnodes, hparse⟩ := ih hkinds
      ((e.1.node s.version key.start, e.2.node s.version value.start) :: done)
    refine ⟨_ :: nodes, .cons ⟨key.start, value.start, rfl⟩ hnodes, ?_⟩
    have hfuel : (e :: es).length + (fuel + 2) = (es.length + fuel) + 3 := by
      rw [List.length_cons]
      omega
    rw [hfuel, parseBlockMapping_scalars s _ ts ending done hkeyToken hkey hcolon hvalue,
      Nat.add_assoc, hparse]
    simp

/-! ## The document -/

/-- A block mapping of scalars is one node. -/
theorem exists_root_of_kinds (s : Prologue) (fuel : Nat) {es : List (ScalarText × ScalarText)}
    {ts : List Token}
    (hkinds : ts.map Token.kind = .blockMappingStart :: (es.flatMap entryKinds ++ [.blockEnd]))
    (ending : Except Fault Mark) :
    ∃ t more nodes, ts = t :: more ∧ t.kind = .blockMappingStart ∧
      List.Forall₂ (IsEntryNode s.version) es nodes ∧
      parseNode s (es.length + (fuel + 3)) .block ⟨ts, ending⟩
        = .ok (.mapping .map nodes t.start, ⟨[], ending⟩) := by
  obtain ⟨⟨kind, start, stop⟩, ts, rfl, hstart, hentries⟩ := List.map_eq_cons_iff.mp hkinds
  obtain rfl : kind = .blockMappingStart := hstart
  obtain ⟨nodes, hnodes, hparse⟩ := exists_nodes_of_kinds s fuel hentries ending []
  refine ⟨_, ts, nodes, rfl, rfl, hnodes, ?_⟩
  have hfuel : es.length + (fuel + 3) = es.length + (fuel + 2) + 1 := rfl
  rw [hfuel]
  generalize es.length + (fuel + 2) = n at hparse ⊢
  rw [parseNode]
  simp [TokenStream.peek, TokenStream.tail, parseProperties, Properties.checkAnchor,
    Properties.collectionTag, Position.inBlock, bind, Except.bind, pure, Except.pure, hparse]

/-- Where a node takes all tokens, it is the one document. -/
theorem parseDocuments_implicit (steps fuel : Nat) (v : Version) {t : Token}
    (ht : startsExplicit t.kind = false) {more : List Token} {m : Mark} {root : Node}
    (hroot : parseNode ⟨v, .standard⟩ steps .block ⟨t :: more, .ok m⟩ = .ok (root, ⟨[], .ok m⟩)) :
    parseDocuments steps (fuel + 2) v true [] ⟨t :: more, .ok m⟩
      = .ok [⟨t.start, v, root⟩] := by
  have hskip : skipDocumentEnds steps ⟨[], .ok m⟩ = .ok ⟨[], .ok m⟩ := by
    cases steps with
    | zero => rfl
    | succ n =>
      rw [skipDocumentEnds]
      rfl
  have himplicit : parseImplicit steps v ⟨t :: more, .ok m⟩
      = .ok (⟨t.start, v, root⟩, ⟨[], .ok m⟩) := by
    unfold parseImplicit
    simp only [TokenStream.peek, bind, Except.bind, hroot]
    rfl
  rw [parseDocuments]
  simp only [TokenStream.peek, bind, Except.bind, ht, himplicit, Bool.not_false, Bool.and_self,
    if_true]
  show parseDocuments steps (fuel + 1) v false _ ⟨[], .ok m⟩ = _
  rw [parseDocuments]
  simp only [TokenStream.peek, bind, Except.bind, Bool.false_and, hskip]
  rfl

/-- A text of printable characters and line feeds can be read. -/
theorem findUnreadable?_eq_none {cs : List Char} (h : ∀ c ∈ cs, IsPrintable c ∨ c = '\n')
    (i : Nat) : findUnreadable? i cs = none := by
  induction cs generalizing i with
  | nil => rfl
  | cons c cs ih =>
    have hc : isReadable c = true := by
      rcases h c List.mem_cons_self with ⟨hl, hu⟩ | rfl
      · simp [isReadable, hl, hu]
      · decide
    rw [findUnreadable?, hc, if_pos rfl]
    exact ih (fun d hd => h d (List.mem_cons_of_mem c hd)) (i + 1)

/-- A text with the tokens of a block mapping of scalars is one document, with that mapping. -/
theorem exists_document_of_kinds {text : String} {ts : List Token} {m : Mark}
    (htokens : TokenStream.ofText text = ⟨ts, .ok m⟩) {es : List (ScalarText × ScalarText)}
    (hkinds : ts.map Token.kind = .blockMappingStart :: (es.flatMap entryKinds ++ [.blockEnd]))
    (hreadable : ∀ c ∈ text.toList, IsPrintable c ∨ c = '\n') :
    ∃ m nodes, List.Forall₂ (IsEntryNode .current) es nodes ∧
      Document.ofText? text = .ok (some ⟨m, .current, .mapping .map nodes m⟩) := by
  obtain ⟨fuel, hfuel⟩ : ∃ fuel, 2 * ts.length + 4 = es.length + (fuel + 3) := by
    have hlength := congrArg List.length hkinds
    rw [List.length_map, List.length_cons, List.length_append, length_flatMap_entryKinds] at hlength
    exact ⟨2 * ts.length + 1 - es.length, by omega⟩
  obtain ⟨t, more, nodes, rfl, ht, hnodes, hroot⟩ :=
    exists_root_of_kinds ⟨.current, .standard⟩ fuel hkinds (.ok m)
  rw [← hfuel] at hroot
  refine ⟨t.start, nodes, hnodes, ?_⟩
  have hdocuments : documents text = .ok [⟨t.start, .current, .mapping .map nodes t.start⟩] := by
    unfold documents
    rw [findUnreadable?_eq_none hreadable, htokens]
    exact parseDocuments_implicit _ _ .current (by rw [ht]; rfl) hroot
  unfold Document.ofText?
  rw [hdocuments]
  rfl

/-- A block of entries is one document, a mapping with the entries of the lines. -/
theorem exists_document_of_lines {lines : List EntryLine} (hne : lines ≠ [])
    (h : ∀ e ∈ lines, e.IsRead) {text : String} (htext : EntryLine.IsBlockOf lines text) :
    ∃ m nodes, List.Forall₂ (IsEntryNode .current) (lines.map EntryLine.entry) nodes ∧
      Document.ofText? text = .ok (some ⟨m, .current, .mapping .map nodes m⟩) := by
  obtain ⟨ts, mark, htokens, hkinds⟩ := EntryLine.exists_tokens_of_lines hne h htext
  exact exists_document_of_kinds htokens hkinds fun c => EntryLine.isPrintable_or_lineFeed h htext

end FrontMatter.Yaml
