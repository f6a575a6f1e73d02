import FrontMatter.Document.Read
import FrontMatter.Proofs.EntryNodes
import FrontMatter.Proofs.KeyLines
import FrontMatter.Proofs.PlainValues
import FrontMatter.Proofs.StoredEntries
import FrontMatter.Proofs.TextLines
import Mathlib.Data.List.Forall2

/-!
# `FrontMatter.Proofs.EntryValues` — reading a block of entries

A block with an entry in each line is read as the mapping of its keys to the values of their first
lines, and a key is found at its first line. In particular texts are read back from single quotes.

## Contents

* `ofPlain_key`: a plain key is a text.
* `ScalarText.Makes`: the value that a scalar makes.
* `written_of_isEntryNode`, `stored_asData`, `restrict_scalars`: from nodes to values.
* `EntryLine.firstLine?_block`, `EntryLine.get?_block`: the lines of the keys.
* `reading_of_document`, `exists_reading_of_block`: reading a block of entries.
* `reading_quotedText`: reading a block of texts in single quotes.
-/

namespace FrontMatter.Yaml

/-! ## Keys -/

/-- The words of keys that are no texts. -/
def valueWords : List String :=
  ["true", "false", "null"]

/-- No line feed is at the end of characters of keys. -/
theorem dropFinalBreak_of_isPlainKeyChar {cs : List Char} (h : ∀ c ∈ cs, IsPlainKeyChar c) :
    dropFinalBreak cs = cs := by
  have hlast : ¬ (cs.getLast? == some '\n') = true := by
    intro hlast
    have hmem := List.mem_of_getLast? (beq_iff_eq.mp hlast)
    exact absurd (h _ hmem) (by decide)
  unfold dropFinalBreak
  rw [if_neg hlast]

/-- A key is another text than a word for a value, and than every word that starts otherwise. -/
theorem key_beq_word {first : Char} {rest : List Char} (hfirst : IsLowercase first)
    (hkey : String.ofList (first :: rest) ∉ valueWords) (word : String)
    (hword : word ∈ valueWords ∨
      (word.toList.head?.any fun x => decide (IsLowercase x)) = false) :
    (String.ofList (first :: rest) == word) = false := by
  rw [beq_eq_false_iff_ne]
  rintro rfl
  rcases hword with hmem | hhead
  · exact hkey hmem
  · rw [String.toList_ofList] at hhead
    exact of_decide_eq_false hhead hfirst

/-- The form of a plain key that is no word for a value gives no type. -/
theorem ofForm?_key {first : Char} {rest : List Char} (hfirst : IsLowercase first)
    (hkey : String.ofList (first :: rest) ∉ valueWords) :
    Tag.ofForm? .current first (first :: rest) = none := by
  have hdigit : first.isDigit = false := by
    rw [Bool.eq_false_iff, ne_eq, Char.isDigit_iff_toNat]
    rintro ⟨-, hle⟩
    exact absurd (Nat.le_trans (le_iff_toNat_le.mp hfirst.1) hle) (by decide)
  have hsign : ∀ d, ¬ IsLowercase d → (first == d) = false := fun d hd => by
    simpa using hfirst.ne hd
  have hother := key_beq_word hfirst hkey
  have hbool : (boolWords .current).contains (String.ofList (first :: rest)) = false := by
    have hcurrent : boolWords .current
        = ["true", "True", "TRUE", "false", "False", "FALSE"] := rfl
    rw [hcurrent]
    simp only [List.contains_cons, List.contains_nil, hother "true" (by decide),
      hother "True" (by decide), hother "TRUE" (by decide), hother "false" (by decide),
      hother "False" (by decide), hother "FALSE" (by decide), Bool.or_self]
  have hnull : nullWords.contains (String.ofList (first :: rest)) = false := by
    unfold nullWords
    simp only [List.contains_cons, List.contains_nil, hother "null" (by decide),
      hother "" (by decide), hother "~" (by decide), hother "Null" (by decide),
      hother "NULL" (by decide), Bool.or_self]
  unfold Tag.ofForm?
  simp only [hbool, hnull, hdigit, hsign '+' (by decide), hsign '-' (by decide),
    hsign '.' (by decide), hother "<<" (by decide), hother "=" (by decide),
    hother "!" (by decide), hother "&" (by decide), hother "*" (by decide), Bool.or_self,
    Bool.false_and, Bool.false_eq_true, if_false]

/-- A plain key that is no word for a value is a text. -/
theorem ofPlain_key {key : List Char} (hkey : IsPlainKey key)
    (hword : String.ofList key ∉ valueWords) : Tag.ofPlain .current (String.ofList key) = .str := by
  have hbreak := dropFinalBreak_of_isPlainKeyChar hkey.isPlainKeyChar
  cases hkey with
  | mk hfirst hrest =>
    unfold Tag.ofPlain
    rw [String.toList_ofList]
    dsimp only
    rw [hbreak, ofForm?_key hfirst hword]
    rfl

/-! ## Data -/

/-- The text of a scalar node. -/
theorem scalarText_scalar (fuel : Nat) (t : Tag) (text : String) (m : Mark) :
    Node.scalarText fuel (.scalar t text m) = .ok text := by
  cases fuel <;> rfl

/-- A node makes the data that its tag makes of it as a scalar. -/
theorem build_of_buildScalar? {v : Version} {fuel : Nat} {n : Node} {d : Data}
    (h : buildScalar? v fuel n = some (.ok d)) (deep : Bool) :
    build v (fuel + 1) deep n = .ok d := by
  unfold build
  rw [h]
  rfl

/-- A node with the tag of texts makes its text. -/
theorem build_str (v : Version) (fuel : Nat) (deep : Bool) (text : String) (m : Mark) :
    build v (fuel + 1) deep (.scalar .str text m) = .ok (.scalar (.str text)) := by
  apply build_of_buildScalar?
  unfold buildScalar?
  rw [scalarText_scalar]
  rfl

/-- A node with the tag of whole numbers makes its number. -/
theorem build_int {v : Version} {text : String} {i : Int} (h : intValue v text = .ok i) (fuel : Nat)
    (deep : Bool) (m : Mark) :
    build v (fuel + 1) deep (.scalar .int text m) = .ok (.scalar (.int i)) := by
  apply build_of_buildScalar?
  unfold buildScalar?
  rw [scalarText_scalar]
  simp only [Node.tag, bind, Except.bind, h]
  rfl

/-- A scalar makes a value in a version, however much may be made of it. -/
def ScalarText.Makes (v : Version) (deep : Bool) (t : ScalarText) (s : Scalar) : Prop :=
  ∀ fuel m, build v (fuel + 1) deep (t.node v m) = .ok (.scalar s)

namespace ScalarText

/-- The node of a plain scalar has the type of its form. -/
theorem node_of_ofPlain {v : Version} {text : String} {t : Tag} (h : Tag.ofPlain v text = t)
    (m : Mark) : node v ⟨text, true⟩ m = .scalar t text m := by
  unfold node tag
  rw [if_pos rfl, h]

/-- A scalar in quotes makes its text. -/
theorem makes_quoted (v : Version) (deep : Bool) (text : String) :
    Makes v deep ⟨text, false⟩ (.str text) :=
  fun fuel m => build_str v fuel deep text m

/-- So does a plain scalar with the form of a text. -/
theorem makes_plain {v : Version} {text : String} (h : Tag.ofPlain v text = .str) (deep : Bool) :
    Makes v deep ⟨text, true⟩ (.str text) := by
  intro fuel m
  rw [node_of_ofPlain h]
  exact build_str v fuel deep text m

/-- A plain scalar with the form of a whole number makes that number. -/
theorem makes_int {v : Version} {text : String} {i : Int} (h : Tag.ofPlain v text = .int)
    (hvalue : intValue v text = .ok i) (deep : Bool) : Makes v deep ⟨text, true⟩ (.int i) := by
  intro fuel m
  rw [node_of_ofPlain h]
  exact build_int hvalue fuel deep m

end ScalarText

/-- An entry whose key is neither a merge key nor `=` is made as it stands. -/
theorem buildEntry_of_isEntryNode {v : Version} {e : ScalarText × ScalarText} {entry : Node × Node}
    (hentry : IsEntryNode v e entry) (htag : e.1.tag v ≠ .merge ∧ e.1.tag v ≠ .value)
    {key value : Scalar} (hkey : e.1.Makes v true key) (hvalue : e.2.Makes v false value)
    (fuel : Nat) : entry.1.tag ≠ .merge ∧
      buildEntry (build v (fuel + 1) true) (build v (fuel + 1) false) (asOwn entry)
        = .ok (.scalar key, .scalar value) := by
  obtain ⟨m₁, m₂, rfl⟩ := hentry
  have hnode : (e.1.node v m₁).tag = e.1.tag v := rfl
  have hown : asOwn (e.1.node v m₁, e.2.node v m₂) = (e.1.node v m₁, e.2.node v m₂) := by
    unfold asOwn
    rw [hnode, if_neg (by simpa using htag.2)]
  rw [hown]
  exact ⟨htag.1, buildEntry_scalar (hkey fuel m₁) (hvalue fuel m₂)⟩

/-- The nodes of some entries make their keys and values. -/
theorem written_of_isEntryNode {v : Version} {es : List (ScalarText × ScalarText)}
    {nodes : List (Node × Node)} (hnodes : List.Forall₂ (IsEntryNode v) es nodes)
    (htags : ∀ e ∈ es, e.1.tag v ≠ .merge ∧ e.1.tag v ≠ .value)
    {key value : ScalarText → Scalar} (hkeys : ∀ e ∈ es, e.1.Makes v true (key e.1))
    (hvalues : ∀ e ∈ es, e.2.Makes v false (value e.2)) :
    (∀ entry ∈ nodes, entry.1.tag ≠ .merge) ∧
      written v nodes = .ok (es.map fun e => (.scalar (key e.1), .scalar (value e.2))) := by
  unfold written
  dsimp only
  rw [Outcome.all_eq_ok_iff]
  generalize Node.heightEntries nodes = fuel
  induction hnodes with
  | nil => exact ⟨by simp, rfl⟩
  | @cons e entry es nodes hentry _ ih =>
    obtain ⟨htag, hbuilt⟩ := buildEntry_of_isEntryNode hentry (htags e List.mem_cons_self)
      (hkeys e List.mem_cons_self) (hvalues e List.mem_cons_self) fuel
    obtain ⟨hrest, hall⟩ := ih (fun d hd => htags d (List.mem_cons_of_mem e hd))
      (fun d hd => hkeys d (List.mem_cons_of_mem e hd))
      fun d hd => hvalues d (List.mem_cons_of_mem e hd)
    refine ⟨?_, ?_⟩
    · rintro d (_ | ⟨_, hd⟩)
      · exact htag
      · exact hrest d hd
    · rw [List.map_cons, List.map_cons, List.map_cons, List.map_cons, hbuilt, hall]

/-! ## Scalars under keys -/

/-- An entry of data is a key with a text, and a scalar. -/
def IsScalarEntry (e : Data × Data) (p : String × Scalar) : Prop :=
  e.1.entryKey = .ok p.1 ∧ e.2 = .scalar p.2

/-- Scalars are walked over one by one. -/
theorem restrictEntries_scalars {es : List (Data × Data)} {ps : List (String × Scalar)}
    (h : List.Forall₂ IsScalarEntry es ps) {seen : Nat} (hseen : seen + ps.length ≤ maxParts) :
    Data.restrictEntries seen 1 es
      = .ok (ps.map fun p => (p.1, .scalar p.2), seen + ps.length) := by
  induction h generalizing seen with
  | nil => rfl
  | @cons e p es ps hp _ ih =>
    obtain ⟨k, d⟩ := e
    obtain ⟨hkey, rfl⟩ : k.entryKey = .ok p.1 ∧ d = .scalar p.2 := hp
    rw [List.length_cons] at hseen
    have hcheck : checkPart (seen + 1) 1 = .ok () := by
      unfold checkPart
      rw [if_neg (by omega), if_neg (by decide)]
    have hvalue : Data.restrictFrom seen 1 (.scalar p.2) = .ok (.scalar p.2, seen + 1) := by
      rw [Data.restrictFrom, hcheck]
      rfl
    have hcount : seen + (p :: ps).length = seen + 1 + ps.length := by
      rw [List.length_cons]
      omega
    rw [Data.restrictEntries, hkey, hcount]
    simp only [bind, Except.bind, hvalue, @ih (seen + 1) (by omega)]
    rfl

/-- A mapping of scalars, not too many of them, is a value. -/
theorem restrict_scalars {es : List (Data × Data)} {ps : List (String × Scalar)}
    (h : List.Forall₂ IsScalarEntry es ps) (hcount : ps.length < maxParts) :
    (Data.map false es).restrict
      = .ok (.map (Table.ofList (ps.map fun p => (p.1, .scalar p.2)))) := by
  have hcheck : checkPart (0 + 1) 0 = .ok () := by decide
  have hentries := @restrictEntries_scalars es ps h (0 + 1) (by omega)
  unfold Data.restrict
  rw [Data.restrictFrom, hcheck]
  simp only [bind, Except.bind, hentries]
  rfl

/-- A text and a scalar as data. -/
def asData (p : String × Scalar) : Data × Data :=
  (.scalar (.str p.1), .scalar p.2)

/-- They are an entry of that text and scalar. -/
theorem isScalarEntry_asData (p : String × Scalar) : IsScalarEntry (asData p) p :=
  ⟨rfl, rfl⟩

/-- The stored entries of texts are the first ones of each key. -/
theorem stored_asData (ps : List (String × Scalar)) :
    stored (ps.map asData) = (Table.firsts ps).map asData := by
  have hsame : ∀ p q : String × Scalar, (asData q).1.same (asData p).1 = (p.1 == q.1) :=
    fun p q => BEq.comm
  unfold stored Table.firsts
  rw [eraseDupsBy_map]
  simp only [hsame]

/-- The nodes of some lines make their keys, as texts, and their values. -/
theorem written_of_lines {lines : List EntryLine} {nodes : List (Node × Node)}
    (hnodes : List.Forall₂ (IsEntryNode .current) (lines.map EntryLine.entry) nodes)
    (h : ∀ e ∈ lines, IsPlainKey e.key ∧ e.name ∉ valueWords) {value : ScalarText → Scalar}
    (hvalues : ∀ e ∈ lines, e.value.Makes .current false (value e.value)) :
    (∀ e ∈ nodes, e.1.tag ≠ .merge) ∧
      written .current nodes = .ok (lines.map fun e => asData (e.name, value e.value)) := by
  have hform : ∀ e ∈ lines, Tag.ofPlain .current e.name = .str :=
    fun e he => ofPlain_key (h e he).1 (h e he).2
  have htags : ∀ d ∈ lines.map EntryLine.entry,
      d.1.tag .current ≠ .merge ∧ d.1.tag .current ≠ .value := by
    intro d hd
    obtain ⟨e, he, rfl⟩ := List.mem_map.mp hd
    have htag : e.entry.1.tag .current = .str := hform e he
    rw [htag]
    exact ⟨Tag.noConfusion, Tag.noConfusion⟩
  have hkeys : ∀ d ∈ lines.map EntryLine.entry, d.1.Makes .current true (.str d.1.text) := by
    intro d hd
    obtain ⟨e, he, rfl⟩ := List.mem_map.mp hd
    exact ScalarText.makes_plain (hform e he) true
  have hentryValues : ∀ d ∈ lines.map EntryLine.entry,
      d.2.Makes .current false (value d.2) := by
    intro d hd
    obtain ⟨e, he, rfl⟩ := List.mem_map.mp hd
    exact hvalues e he
  obtain ⟨hmerge, hwritten⟩ := @written_of_isEntryNode .current _ nodes hnodes htags
    (fun t => .str t.text) value hkeys hentryValues
  refine ⟨hmerge, ?_⟩
  rw [hwritten, List.map_map]
  rfl

/-! ## Lines -/

namespace EntryLine

/-- The characters of plain keys are those of keys that are found. -/
theorem isKeyChar_of_isPlainKeyChar {c : Char} (h : IsPlainKeyChar c) :
    Block.isKeyChar c = true := by
  unfold Block.isKeyChar Char.isAlphanum Char.isAlpha
  rcases h with ⟨hl, hu⟩ | ⟨hl, hu⟩ | rfl | rfl
  · have hlower : c.isLower = true :=
      Bool.and_eq_true_iff.mpr ⟨decide_eq_true hl, decide_eq_true hu⟩
    simp [hlower]
  · have hdigit : c.isDigit = true :=
      Char.isDigit_iff_toNat.mpr ⟨le_iff_toNat_le.mp hl, le_iff_toNat_le.mp hu⟩
    simp [hdigit]
  · decide
  · decide

/-- The line of a block starts with its key. -/
theorem keyOfLine?_chars {e : EntryLine} (h : e.IsRead) :
    Block.keyOfLine? e.chars = some e.name := by
  rw [Block.keyOfLine?_eq_some_iff]
  unfold name chars
  rw [String.toList_ofList]
  exact ⟨h.key.ne_nil, fun c hc => isKeyChar_of_isPlainKeyChar (h.key.isPlainKeyChar c hc),
    ' ' :: e.written, rfl⟩

/-- A line of a block has no line feed. -/
theorem lineFeed_not_mem_chars {e : EntryLine} (h : e.IsRead) : '\n' ∉ e.chars :=
  fun hmem => absurd (h.isPrintable _ hmem) (by decide)

/-- Looking for the line that starts with a key is looking for the line with that key. -/
theorem findIdx?_chars {lines : List EntryLine} (h : ∀ e ∈ lines, e.IsRead) (k : String) :
    (lines.map chars).findIdx? (fun l => Block.keyOfLine? l == some k)
      = lines.findIdx? fun e => e.name == k := by
  induction lines with
  | nil => rfl
  | cons e lines ih =>
    have hrest := ih fun d hd => h d (List.mem_cons_of_mem e hd)
    rw [List.map_cons, List.findIdx?_cons, List.findIdx?_cons, hrest,
      keyOfLine?_chars (h e List.mem_cons_self), Option.some_beq_some]

/-- A block of entries is not blank. -/
theorem not_isBlankText {e : EntryLine} (h : e.IsRead) {lines : List EntryLine} {text : String}
    (htext : IsBlockOf (e :: lines) text) : Text.isBlankText text = false := by
  obtain ⟨ending, -, htext⟩ := htext
  obtain ⟨key, written, value, plain⟩ := e
  cases h.key with
  | @mk first rest hfirst hrest =>
    have hlower : 97 ≤ first.toNat := le_iff_toNat_le.mp hfirst.1
    have hupper : first.toNat ≤ 122 := le_iff_toNat_le.mp hfirst.2
    have hblank : Text.isBlank first = false := by
      unfold Text.isBlank
      simp only [Bool.or_eq_false_iff, Bool.and_eq_false_iff, decide_eq_false_iff_not,
        beq_eq_false_iff_ne]
      omega
    unfold Text.isBlankText
    rw [htext, joinLines_cons]
    simp [chars, hblank]

/-- The lines of a block are those of its entries, and no key is in the empty line after the last
line feed. -/
theorem firstLine?_block {lines : List EntryLine} (hne : lines ≠ []) (h : ∀ e ∈ lines, e.IsRead)
    {text : String} (htext : IsBlockOf lines text) (k : String) :
    Block.firstLine? k 1 (Text.splitLines text.toList)
      = (lines.findIdx? fun e => e.name == k).map fun i => ((i + 1 : Nat) : Int) := by
  have hfeeds : ∀ l ∈ lines.map chars, '\n' ∉ l := by
    intro l hl
    obtain ⟨e, he, rfl⟩ := List.mem_map.mp hl
    exact lineFeed_not_mem_chars (h e he)
  have hsplit := Text.splitLines_joinLines _ hfeeds (by simpa using hne)
  have hindex : (Text.splitLines text.toList).findIdx? (fun l => Block.keyOfLine? l == some k)
      = lines.findIdx? fun e => e.name == k := by
    obtain ⟨ending, hending, htext⟩ := htext
    rw [htext]
    cases hending with
    | none => rw [List.append_nil, hsplit, findIdx?_chars h]
    | feed =>
      have hempty : (Block.keyOfLine? [] == some k) = false := rfl
      rw [splitLines_append_feed, hsplit, splitLines_nil, List.findIdx?_append,
        findIdx?_chars h, List.findIdx?_singleton, hempty]
      simp
  unfold Block.firstLine?
  rw [hindex]
  congr 1
  funext i
  rw [Nat.add_comm]

/-- A key of a block is found at its first line. -/
theorem get?_block {lines : List EntryLine} (hne : lines ≠ []) (h : ∀ e ∈ lines, e.IsRead)
    {text : String} (htext : IsBlockOf lines text) {isKey : String → Bool}
    (hkeys : ∀ e ∈ lines, isKey e.name = true) (k : String) :
    (Block.LineMap.ofText text isKey).get? k
      = (lines.findIdx? fun e => e.name == k).map fun i => ((i + 1 : Nat) : Int) := by
  rw [Block.get?_ofText, firstLine?_block hne h htext]
  split
  · rfl
  · next hkey =>
    -- A key of no line is not found at any.
    have hnone : (lines.findIdx? fun e => e.name == k) = none := by
      rw [List.findIdx?_eq_none_iff]
      intro e he
      rw [beq_eq_false_iff_ne]
      rintro rfl
      exact hkey (hkeys e he)
    rw [hnone]
    rfl

/-- So it is where no line feed is after the last line. -/
theorem get?_lines {lines : List EntryLine} (hne : lines ≠ []) (h : ∀ e ∈ lines, e.IsRead)
    {text : String} (htext : text.toList = Text.joinLines (lines.map chars))
    {isKey : String → Bool} (hkeys : ∀ e ∈ lines, isKey e.name = true) (k : String) :
    (Block.LineMap.ofText text isKey).get? k
      = (lines.findIdx? fun e => e.name == k).map fun i => ((i + 1 : Nat) : Int) :=
  get?_block hne h (isBlockOf_of_toList htext) hkeys k

end EntryLine

end FrontMatter.Yaml

namespace FrontMatter

open Yaml (EntryLine ScalarText)

/-! ## Blocks -/

/-- A text that is one mapping of scalars is read as the mapping that its stored entries are. -/
theorem reading_of_document {text : String} {start : Yaml.Mark} {v : Yaml.Version}
    {nodes : List (Yaml.Node × Yaml.Node)} {m : Yaml.Mark}
    (hdocument : Yaml.Document.ofText? text = .ok (some ⟨start, v, .mapping .map nodes m⟩))
    (hblank : Text.isBlankText text = false) (hlength : text.length ≤ Yaml.maxLength)
    (htags : ∀ e ∈ nodes, e.1.tag ≠ .merge) {ws : List (Yaml.Data × Yaml.Data)}
    (hwritten : Yaml.written v nodes = .ok ws) {ps : List (String × Scalar)}
    (hstored : List.Forall₂ Yaml.IsScalarEntry (Yaml.stored ws) ps)
    (hcount : ps.length < Yaml.maxParts) {entries : Entries Value}
    (hentries : entries = Table.ofList (ps.map fun p => (p.1, .scalar p.2))) :
    Reading.ofText text
      = .ok { content := .mapping entries,
              lines := Block.LineMap.ofText text entries.holds } := by
  have hdata : Yaml.Data.ofNode v (.mapping .map nodes m) = .ok (.map false (Yaml.stored ws)) := by
    rw [Yaml.ofNode_mapping v htags m, hwritten]
    rfl
  have hvalue : valueOfText text = .ok (.map entries) := by
    rw [valueOfText_eq hlength, dataOfText_of_document hdocument, hdata, hentries]
    exact Yaml.restrict_scalars hstored hcount
  unfold Reading.ofText
  rw [hblank, hvalue]
  rfl

/-- A block of entries is read as the mapping of its keys to their first values. -/
theorem exists_reading_of_block {lines : List EntryLine} (hne : lines ≠ [])
    (h : ∀ e ∈ lines, e.IsRead) (hwords : ∀ e ∈ lines, e.name ∉ Yaml.valueWords)
    {value : ScalarText → Scalar}
    (hvalues : ∀ e ∈ lines, e.value.Makes .current false (value e.value))
    (hcount : lines.length < Yaml.maxParts) {text : String} (htext : EntryLine.IsBlockOf lines text)
    (hlength : text.length ≤ Yaml.maxLength) :
    ∃ entries : Entries Value,
      Reading.ofText text = .ok { content := .mapping entries,
                                  lines := Block.LineMap.ofText text entries.holds } ∧
      entries.keys = (lines.map EntryLine.name).eraseDups ∧
      ∀ k, entries.get? k
        = (Table.get? (lines.map fun e => (e.name, value e.value)) k).map Value.scalar := by
  obtain ⟨m, nodes, hnodes, hdocument⟩ := Yaml.exists_document_of_lines hne h htext
  let pairs := lines.map fun e => (e.name, value e.value)
  obtain ⟨htags, hwritten⟩ := Yaml.written_of_lines hnodes
    (fun e he => ⟨(h e he).key, hwords e he⟩) hvalues
  have hpairs : (lines.map fun e => Yaml.asData (e.name, value e.value))
      = pairs.map Yaml.asData := by
    simp [pairs, Function.comp_def]
  rw [hpairs] at hwritten
  have hstored : List.Forall₂ Yaml.IsScalarEntry (Yaml.stored (pairs.map Yaml.asData))
      (Table.firsts pairs) := by
    rw [Yaml.stored_asData, List.forall₂_map_left_iff, List.forall₂_same]
    exact fun p _ => Yaml.isScalarEntry_asData p
  have hfirsts : (Table.firsts pairs).length < Yaml.maxParts := by
    have hle := Table.length_firsts_le pairs
    rw [List.length_map] at hle
    exact Nat.lt_of_le_of_lt hle hcount
  let entries : Entries Value := (Table.firsts pairs).map fun p => (p.1, .scalar p.2)
  have hkeys : entries.keys = (Table.firsts pairs).keys := by
    simp [entries, Table.keys, Function.comp_def]
  have hentries : entries = Table.ofList entries :=
    (Table.ofList_of_nodup (hkeys ▸ Table.nodup_keys_firsts pairs)).symm
  have hblank : Text.isBlankText text = false := by
    obtain ⟨e, rest, rfl⟩ := List.exists_cons_of_ne_nil hne
    exact EntryLine.not_isBlankText (h e List.mem_cons_self) htext
  refine ⟨entries, reading_of_document hdocument hblank hlength htags hwritten hstored hfirsts
    hentries, ?_, ?_⟩
  · rw [hkeys, Table.keys_firsts]
    simp [pairs, Table.keys, Function.comp_def]
  · intro k
    rw [Table.get?_map_values, Table.get?_firsts]

/-- So is one without a line feed after its last line. -/
theorem exists_reading_of_lines {lines : List EntryLine} (hne : lines ≠ [])
    (h : ∀ e ∈ lines, e.IsRead) (hwords : ∀ e ∈ lines, e.name ∉ Yaml.valueWords)
    {value : ScalarText → Scalar}
    (hvalues : ∀ e ∈ lines, e.value.Makes .current false (value e.value))
    (hcount : lines.length < Yaml.maxParts) {text : String}
    (htext : text.toList = Text.joinLines (lines.map EntryLine.chars))
    (hlength : text.length ≤ Yaml.maxLength) :
    ∃ entries : Entries Value,
      Reading.ofText text = .ok { content := .mapping entries,
                                  lines := Block.LineMap.ofText text entries.holds } ∧
      entries.keys = (lines.map EntryLine.name).eraseDups ∧
      ∀ k, entries.get? k
        = (Table.get? (lines.map fun e => (e.name, value e.value)) k).map Value.scalar :=
  exists_reading_of_block hne h hwords hvalues hcount (EntryLine.isBlockOf_of_toList htext) hlength

/-! ## Texts in quotes -/

/-- A key as people write it: a lower-case letter and at most a thousand letters, digits,
underscores and hyphens, but no word for a value of any version. -/
structure IsWrittenKey (key : String) : Prop where
  plain : Yaml.IsPlainKey key.toList
  length : key.length ≤ 1001
  noWord : key ∉ ["true", "false", "null", "yes", "no", "on", "off", "y", "n"]

/-- The line of a key and a text in single quotes. -/
def quotedLine (p : String × String) : List Char :=
  p.1.toList ++ ": '".toList ++ Yaml.doubled p.2.toList ++ ['\'']

/-- The block with such a line for each pair. -/
def quotedText (pairs : List (String × String)) : String :=
  String.ofList (Text.joinLines (pairs.map quotedLine))

/-- The line of a key and a text in single quotes, with what it is read as. -/
def quotedEntry (p : String × String) : EntryLine :=
  ⟨p.1.toList, '\'' :: Yaml.quotedRest p.2.toList [], ⟨p.2, false⟩⟩

/-- The characters of a line are those of its entry. -/
theorem chars_quotedEntry (p : String × String) : (quotedEntry p).chars = quotedLine p := by
  simp [quotedEntry, quotedLine, EntryLine.chars, Yaml.quotedRest]

/-- The characters of a block are those of its entries. -/
theorem toList_quotedText (pairs : List (String × String)) : (quotedText pairs).toList
    = Text.joinLines ((pairs.map quotedEntry).map EntryLine.chars) := by
  unfold quotedText
  rw [String.toList_ofList, List.map_map]
  congr 2
  funext p
  exact (chars_quotedEntry p).symm

/-- The key of an entry is that of its line. -/
theorem name_quotedEntry (p : String × String) : (quotedEntry p).name = p.1 :=
  String.ofList_toList

/-- A key as people write it is no word for a value. -/
theorem IsWrittenKey.not_mem_valueWords {key : String} (h : IsWrittenKey key) :
    key ∉ Yaml.valueWords := by
  have hsub : ∀ w ∈ Yaml.valueWords,
      w ∈ ["true", "false", "null", "yes", "no", "on", "off", "y", "n"] := by decide
  exact fun hword => h.noWord (hsub key hword)

/-- A line is read as its entry. -/
theorem isRead_quotedEntry {p : String × String} (hkey : IsWrittenKey p.1)
    (htext : ∀ c ∈ p.2.toList, Yaml.IsPrintable c) : (quotedEntry p).IsRead where
  key := hkey.plain
  near := by
    have hlength := hkey.length
    rw [← String.length_toList] at hlength
    exact Nat.le_trans hlength (by decide)
  printable := by
    intro c hc
    have hparts : c = '\'' ∨ c ∈ p.2.toList ∨ c = '\'' := by
      simpa [quotedEntry, Yaml.quotedRest, Yaml.mem_doubled_iff] using hc
    rcases hparts with rfl | hmem | rfl
    · decide
    · exact htext c hmem
    · decide
  value := by
    have hreads := EntryLine.readsValue_quoted p.1.toList htext
    rwa [String.ofList_toList] at hreads

/-- A block of texts in single quotes is read back: every key has its first text, and is found at
its first line. -/
theorem reading_quotedText {pairs : List (String × String)} (hne : pairs ≠ [])
    (hcount : pairs.length ≤ 9999) (hkeys : ∀ p ∈ pairs, IsWrittenKey p.1)
    (htexts : ∀ p ∈ pairs, ∀ c ∈ p.2.toList, Yaml.IsPrintable c)
    (hlength : (quotedText pairs).length ≤ 1000000) :
    ∃ entries, (Document.ofBlock (some (quotedText pairs))).errors = [] ∧
      (Document.ofBlock (some (quotedText pairs))).content = .mapping entries ∧
      entries.keys = (Table.keys pairs).eraseDups ∧
      (∀ k, entries.get? k = (Table.get? pairs k).map Value.str) ∧
      ∀ k, (Document.ofBlock (some (quotedText pairs))).lines.get? k
        = (pairs.findIdx? fun p => p.1 == k).map fun i => ((i + 1 : Nat) : Int) := by
  let lines := pairs.map quotedEntry
  have hlines : lines ≠ [] := by simpa [lines] using hne
  have hread : ∀ e ∈ lines, e.IsRead := by
    intro e he
    obtain ⟨p, hp, rfl⟩ := List.mem_map.mp he
    exact isRead_quotedEntry (hkeys p hp) (htexts p hp)
  have hwords : ∀ e ∈ lines, e.name ∉ Yaml.valueWords := by
    intro e he
    obtain ⟨p, hp, rfl⟩ := List.mem_map.mp he
    rw [name_quotedEntry]
    exact (hkeys p hp).not_mem_valueWords
  have hvalues : ∀ e ∈ lines, e.value.Makes .current false (.str e.value.text) := by
    intro e he
    obtain ⟨p, hp, rfl⟩ := List.mem_map.mp he
    exact ScalarText.makes_quoted .current false p.2
  have hfew : lines.length < Yaml.maxParts := by
    rw [List.length_map]
    exact Nat.lt_of_le_of_lt hcount (by decide)
  have htext : (quotedText pairs).toList = Text.joinLines (lines.map EntryLine.chars) :=
    toList_quotedText pairs
  obtain ⟨entries, hreading, hentries, hget⟩ :=
    @exists_reading_of_lines lines hlines hread hwords (fun t => .str t.text) hvalues hfew
      (quotedText pairs) htext hlength
  have hdocument : Document.ofBlock (some (quotedText pairs))
      = { content := .mapping entries,
          lines := Block.LineMap.ofText (quotedText pairs) entries.holds } := by
    unfold Document.ofBlock
    rw [Option.map_some, hreading]
    rfl
  rw [hdocument]
  refine ⟨entries, rfl, rfl, ?_, ?_, ?_⟩
  · rw [hentries]
    simp [lines, name_quotedEntry, Table.keys, Function.comp_def]
  · intro k
    have hpairs : (lines.map fun e => (e.name, Scalar.str e.value.text))
        = pairs.map fun p => (p.1, Scalar.str p.2) := by
      have htexts : ∀ p, (quotedEntry p).value.text = p.2 := fun _ => rfl
      simp [lines, name_quotedEntry, htexts, Function.comp_def]
    rw [hget, hpairs, Table.get?_map_values, Option.map_map]
    rfl
  · intro k
    have hheld : ∀ e ∈ lines, entries.holds e.name = true := by
      intro e he
      rw [Table.holds_iff, hentries, List.mem_eraseDups]
      exact List.mem_map_of_mem he
    have hfind : (lines.findIdx? fun e => e.name == k) = pairs.findIdx? fun p => p.1 == k := by
      rw [List.findIdx?_map]
      simp [name_quotedEntry, Function.comp_def]
    dsimp only
    rw [EntryLine.get?_lines hlines hread htext hheld, hfind]

/-- Two lines with one key, the first with a quote and the mark of comments in its text. -/
def repeatedId : List (String × String) :=
  [("id", "it's #1"), ("id", "second")]

/-- The key has the first text, and is found at the first line. -/
theorem reading_repeatedId :
    quotedText repeatedId = "id: 'it''s #1'\nid: 'second'" ∧
    ∃ entries, (Document.ofBlock (some (quotedText repeatedId))).errors = [] ∧
      (Document.ofBlock (some (quotedText repeatedId))).content = .mapping entries ∧
      entries.keys = ["id"] ∧ entries.get? "id" = some (.str "it's #1") ∧
      (Document.ofBlock (some (quotedText repeatedId))).lines.get? "id" = some 1 := by
  have hid : IsWrittenKey "id" :=
    { plain := @Yaml.IsPlainKey.mk 'i' ['d'] (by decide) (by decide)
      length := by decide
      noWord := by decide }
  have hkeys : ∀ p ∈ repeatedId, IsWrittenKey p.1 := by simp [repeatedId, hid]
  have htext : quotedText repeatedId = "id: 'it''s #1'\nid: 'second'" := by decide +kernel
  obtain ⟨entries, herrors, hcontent, hentries, hget, hlines⟩ :=
    @reading_quotedText repeatedId (by decide) (by decide) hkeys (by decide) (by decide)
  refine ⟨htext, entries, herrors, hcontent, ?_, ?_, ?_⟩
  · rw [hentries]
    decide
  · rw [hget]
    rfl
  · rw [hlines]
    rfl

end FrontMatter
