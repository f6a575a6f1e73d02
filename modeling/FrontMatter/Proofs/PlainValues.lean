import FrontMatter.Document.Read
import FrontMatter.Proofs.Results
import FrontMatter.Proofs.Tables

/-!
# `FrontMatter.Proofs.PlainValues` — values whose mappings repeat no key

A value has no parts but scalars, lists and mappings. The keys of data may become the same text, but
the value is built so that no mapping in it, at any depth, has a key twice.

## Contents

* `Value.IsPlain`: no mapping in a value has a key twice.
* `isPlain_of_restrictFrom`: every value that data denotes is plain.
* `dataOfText`, `valueOfText_eq`: the data that the value of a text is made from.
* `isPlain_of_valueOfText`: the value of a text is plain.
-/

namespace FrontMatter

/-! ## Plain values -/

/-- No mapping in a value has a key twice, the value itself included. -/
inductive Value.IsPlain : Value → Prop
  | scalar (s : Scalar) : IsPlain (.scalar s)
  | list {items : List Value} (plain : ∀ v ∈ items, v.IsPlain) : IsPlain (.list items)
  | map {entries : Entries Value} (nodup : entries.keys.Nodup)
      (plain : ∀ e ∈ entries, e.2.IsPlain) : IsPlain (.map entries)

/-- A mapping that is plain has no key twice. -/
theorem Value.IsPlain.nodup_keys {entries : Entries Value} (h : Value.IsPlain (.map entries)) :
    entries.keys.Nodup := by
  cases h with
  | map nodup _ => exact nodup

/-! ## The walk over data -/

namespace Yaml

mutual

/-- What data denotes in a walk is plain. -/
theorem isPlain_of_restrictFrom {seen depth n : Nat} {d : Data} {v : Value}
    (h : d.restrictFrom seen depth = .ok (v, n)) : v.IsPlain := by
  unfold Data.restrictFrom at h
  obtain ⟨-, -, h⟩ := exists_of_bind_eq_ok h
  cases d with
  | scalar s =>
    cases h
    exact .scalar s
  | notANumber =>
    cases h
    exact .scalar _
  | list items =>
    obtain ⟨⟨vs, m⟩, hitems, h⟩ := exists_of_bind_eq_ok h
    cases h
    exact .list (isPlain_of_restrictItems hitems)
  | map ordered entries =>
    obtain ⟨⟨es, m⟩, hentries, h⟩ := exists_of_bind_eq_ok h
    cases h
    have hplain := isPlain_of_restrictEntries hentries
    exact .map (Table.nodup_keys_ofList es) fun e he => hplain e (Table.mem_of_mem_ofList he)
  | bytes bs => cases h
  | tuple items => cases h
  | set members => cases h

/-- So is every item of a list. -/
theorem isPlain_of_restrictItems {seen depth n : Nat} {ds : List Data} {vs : List Value}
    (h : Data.restrictItems seen depth ds = .ok (vs, n)) : ∀ v ∈ vs, v.IsPlain := by
  cases ds with
  | nil =>
    cases h
    intro v hv
    cases hv
  | cons d ds =>
    rw [Data.restrictItems] at h
    obtain ⟨⟨v, m⟩, hfirst, h⟩ := exists_of_bind_eq_ok h
    obtain ⟨⟨us, k⟩, hrest, h⟩ := exists_of_bind_eq_ok h
    cases h
    intro u hu
    rcases List.mem_cons.mp hu with rfl | hu
    · exact isPlain_of_restrictFrom hfirst
    · exact isPlain_of_restrictItems hrest u hu

/-- So is the value of every entry. -/
theorem isPlain_of_restrictEntries {seen depth n : Nat} {es : List (Data × Data)}
    {kvs : List (String × Value)} (h : Data.restrictEntries seen depth es = .ok (kvs, n)) :
    ∀ e ∈ kvs, e.2.IsPlain := by
  cases es with
  | nil =>
    cases h
    intro e he
    cases he
  | cons e es =>
    obtain ⟨k, d⟩ := e
    rw [Data.restrictEntries] at h
    obtain ⟨key, -, h⟩ := exists_of_bind_eq_ok h
    obtain ⟨⟨v, m⟩, hvalue, h⟩ := exists_of_bind_eq_ok h
    obtain ⟨⟨us, j⟩, hrest, h⟩ := exists_of_bind_eq_ok h
    cases h
    intro f hf
    rcases List.mem_cons.mp hf with rfl | hf
    · exact isPlain_of_restrictFrom hvalue
    · exact isPlain_of_restrictEntries hrest f hf

end

/-- What data within the limits denotes is plain. -/
theorem isPlain_of_restrict {d : Data} {v : Value} (h : d.restrict = .ok v) : v.IsPlain := by
  obtain ⟨⟨u, n⟩, hwalk, rfl⟩ := exists_of_map_eq_ok h
  exact isPlain_of_restrictFrom hwalk

end Yaml

/-! ## The data of a text -/

/-- The data of a text; null where the text has no document. -/
def dataOfText (text : String) : Except Yaml.Fault Yaml.Data := do
  match ← Yaml.Document.ofText? text with
  | none => return .scalar .null
  | some d => Yaml.Data.ofNode d.version d.root

/-- The data of a text with a document is that of its root. -/
theorem dataOfText_of_document {text : String} {d : Yaml.Document}
    (h : Yaml.Document.ofText? text = .ok (some d)) :
    dataOfText text = Yaml.Data.ofNode d.version d.root := by
  unfold dataOfText
  rw [h]
  rfl

/-- The value of a text that is not too long is that of its data. -/
theorem valueOfText_eq {text : String} (h : text.length ≤ Yaml.maxLength) :
    valueOfText text = dataOfText text >>= Yaml.Data.restrict := by
  unfold valueOfText dataOfText
  dsimp only
  rw [if_neg (Nat.not_lt.mpr h)]
  cases Yaml.Document.ofText? text with
  | error f => rfl
  | ok found =>
    cases found with
    | none => rfl
    | some d => rfl

/-- A text that is too long has no value. -/
theorem valueOfText_of_lt {text : String} (h : Yaml.maxLength < text.length) :
    valueOfText text = .error (.violation (.size text.length Yaml.maxLength) none) := by
  unfold valueOfText
  dsimp only
  rw [if_pos h]
  rfl

/-- A text with a value has data that denotes it. -/
theorem exists_data_of_valueOfText {text : String} {v : Value} (h : valueOfText text = .ok v) :
    ∃ d, dataOfText text = .ok d ∧ d.restrict = .ok v := by
  by_cases hlong : Yaml.maxLength < text.length
  · rw [valueOfText_of_lt hlong] at h
    cases h
  · rw [valueOfText_eq (Nat.not_lt.mp hlong)] at h
    exact exists_of_bind_eq_ok h

/-- The value of a text is plain. -/
theorem isPlain_of_valueOfText {text : String} {v : Value} (h : valueOfText text = .ok v) :
    v.IsPlain := by
  obtain ⟨d, -, hrestrict⟩ := exists_data_of_valueOfText h
  exact Yaml.isPlain_of_restrict hrestrict

end FrontMatter
