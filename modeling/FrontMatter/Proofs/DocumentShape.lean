import FrontMatter.Proofs.KeyLines
import FrontMatter.Proofs.PlainValues

/-!
# `FrontMatter.Proofs.DocumentShape` — the shape of every document

Whatever the text of a block is, its document has one shape: it has content or one error, and it
lists lines only for the keys of a mapping.

## Contents

* `Content.IsPlain`, `ParseError.HasPlace`: the shape of the content and of an error.
* `Document.IsShaped`: the shape of a document.
* `isShaped_faultError`, `isShaped_ofValue`: the document of a fault, and that of a value.
* `isShaped_ofBlock`: the document of every block has this shape.
-/

namespace FrontMatter

open Block (LineMap)

/-! ## The shape -/

/-- The content of a block is no null, and no mapping in it has a key twice. -/
structure Content.IsPlain (content : Content) : Prop where
  not_null : content ≠ .scalar .null
  mapping : ∀ entries, content = .mapping entries → Value.IsPlain (.map entries)
  sequence : ∀ items, content = .sequence items → Value.IsPlain (.list items)

/-- An error has a line exactly if it has a column, and both are counted from one. -/
structure ParseError.HasPlace (e : ParseError) : Prop where
  both : e.line.isSome = e.column.isSome
  line : ∀ n, e.line = some n → 1 ≤ n
  column : ∀ n, e.column = some n → 1 ≤ n

/-- The lines are those of keys of a mapping, in order, and no key has two of them. -/
structure Document.HasLines (doc : Document) (lineCount : Nat) : Prop where
  mapping : doc.lines ≠ [] → ∃ entries, doc.content = .mapping entries
  keys : ∀ entries, doc.content = .mapping entries → ∀ k ∈ doc.lines.keys, k ∈ entries.keys
  nodup : doc.lines.keys.Nodup
  sorted : doc.lines.Pairwise fun e f => e.2 < f.2
  range : ∀ e ∈ doc.lines, 1 ≤ e.2 ∧ e.2 ≤ lineCount

/-- The shape of the document of a block with some number of lines. -/
structure Document.IsShaped (doc : Document) (lineCount : Nat) : Prop where
  oneError : doc.errors.length ≤ 1
  absent : doc.errors ≠ [] → doc.content = .absent ∧ doc.lines = []
  places : ∀ e ∈ doc.errors, e.HasPlace
  content : doc.content.IsPlain
  lines : doc.HasLines lineCount

/-- The number of lines of a block; none at all has none. -/
def blockLineCount (text : Option String) : Nat :=
  (text.map fun t => (Text.splitLines t.toList).length).getD 0

/-! ## No content -/

/-- No content is plain. -/
theorem isPlain_absent : Content.IsPlain .absent where
  not_null := by simp
  mapping := by simp
  sequence := by simp

/-- No lines are the lines of any document. -/
theorem hasLines_nil {doc : Document} (h : doc.lines = []) (lineCount : Nat) :
    doc.HasLines lineCount where
  mapping := fun hne => absurd h hne
  keys := by simp [h, Table.keys]
  nodup := by simp [h, Table.keys]
  sorted := by simp [h]
  range := by simp [h]

/-- The empty document has the shape. -/
theorem isShaped_empty (lineCount : Nat) : Document.IsShaped {} lineCount where
  oneError := Nat.zero_le 1
  absent := fun hne => absurd rfl hne
  places := by simp
  content := isPlain_absent
  lines := hasLines_nil rfl lineCount

/-! ## Faults -/

/-- The place of a fault is counted from one. -/
theorem hasPlace_faultError (f : Yaml.Fault) : (faultError f).HasPlace := by
  cases hmark : f.mark? with
  | none => exact ⟨by simp [faultError, hmark], by simp [faultError, hmark],
      by simp [faultError, hmark]⟩
  | some m =>
    refine ⟨by simp [faultError, hmark], ?_, ?_⟩
    · intro n hn
      have hline : ((m.line + 1 : Nat) : Int) = n := by simpa [faultError, hmark] using hn
      omega
    · intro n hn
      have hcolumn : ((m.column + 1 : Nat) : Int) = n := by simpa [faultError, hmark] using hn
      omega

/-- The document of a fault has the shape. -/
theorem isShaped_faultError (f : Yaml.Fault) (lineCount : Nat) :
    Document.IsShaped { errors := [faultError f] } lineCount where
  oneError := Nat.le_refl 1
  absent := fun _ => ⟨rfl, rfl⟩
  places := by
    intro e he
    obtain rfl := List.mem_singleton.mp he
    exact hasPlace_faultError f
  content := isPlain_absent
  lines := hasLines_nil rfl lineCount

/-! ## Values -/

/-- The content that a plain value is, is plain. -/
theorem isPlain_ofValue {v : Value} (h : v.IsPlain) : (Content.ofValue v).IsPlain := by
  cases v with
  | scalar s =>
    cases s with
    | null => exact isPlain_absent
    | _ => exact ⟨by simp [Content.ofValue], by simp [Content.ofValue], by simp [Content.ofValue]⟩
  | list items =>
    refine ⟨by simp [Content.ofValue], by simp [Content.ofValue], ?_⟩
    intro items' heq
    obtain rfl := Content.sequence.inj heq
    exact h
  | map entries =>
    refine ⟨by simp [Content.ofValue], ?_, by simp [Content.ofValue]⟩
    intro entries' heq
    obtain rfl := Content.mapping.inj heq
    exact h

/-- The lines of a mapping are those of its keys in the text. -/
theorem hasLines_mapping (text : String) (entries : Entries Value) (errors : List ParseError) :
    Document.HasLines ⟨.mapping entries, LineMap.ofText text entries.holds, errors⟩
      (Text.splitLines text.toList).length where
  mapping := fun _ => ⟨entries, rfl⟩
  keys := by
    intro entries' heq k hk
    obtain rfl := Content.mapping.inj heq
    obtain ⟨⟨j, n⟩, hmem, rfl⟩ := List.mem_map.mp hk
    obtain ⟨hholds, -⟩ := Block.mem_ofText_iff.mp hmem
    exact (Table.holds_iff entries j).mp hholds
  nodup := Block.nodup_keys_ofText text entries.holds
  sorted := Block.pairwise_ofText text entries.holds
  range := fun _ he => Block.line_of_mem_ofText he

/-- The document of a plain value has the shape. -/
theorem isShaped_ofValue {v : Value} (h : v.IsPlain) (text : String) :
    Document.IsShaped { content := .ofValue v, lines := (Content.ofValue v).lines text }
      (Text.splitLines text.toList).length where
  oneError := Nat.zero_le 1
  absent := fun hne => absurd rfl hne
  places := by simp
  content := isPlain_ofValue h
  lines := by
    cases hcontent : Content.ofValue v with
    | mapping entries => exact hasLines_mapping text entries []
    | _ => exact hasLines_nil rfl _

/-! ## Every block -/

/-- The document of a text has the shape. -/
theorem isShaped_ofText (text : String) :
    (Document.ofReading (Reading.ofText text)).IsShaped (Text.splitLines text.toList).length := by
  unfold Reading.ofText
  by_cases hblank : Text.isBlankText text = true
  · rw [if_pos hblank]
    exact isShaped_empty _
  · rw [if_neg hblank]
    cases hvalue : valueOfText text with
    | error f => exact isShaped_faultError f _
    | ok v => exact isShaped_ofValue (isPlain_of_valueOfText hvalue) text

/-- Whatever the text of a block is, and if there is none, its document has one shape: content or
one error, and lines only for the keys of a mapping. -/
theorem isShaped_ofBlock (text : Option String) :
    (Document.ofBlock text).IsShaped (blockLineCount text) := by
  cases text with
  | none => exact isShaped_empty 0
  | some t => exact isShaped_ofText t

end FrontMatter
