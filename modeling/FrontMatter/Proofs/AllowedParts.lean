import FrontMatter.Proofs.DataParts
import FrontMatter.Proofs.StoredKeys

/-!
# `FrontMatter.Proofs.AllowedParts` — which parts of data may occur

The walk over data turns down every value of a type that may not occur, however deep it stands. It
does not look at keys: a key that is bytes or a tuple is turned into text like any other.

## Contents

* `Data.IsAccepted`, `isAccepted_of_hasPart`: every part of data that is accepted is accepted.
* `Makes`, `blank_or_makes_or_error`: the data that a block is made of.
* `Covers`, `covers_iff`: the values that may not occur are all turned down, and when the keys are
  turned down too.
* `binaryKey`: a block with bytes as its key.
-/

namespace FrontMatter.Yaml

/-! ## What is accepted -/

/-- Data that has a value may be one. -/
theorem isListed_of_value? {d : Data} {v : Value} (h : d.value? = some v) :
    d.isListed .value = true := by
  cases d with
  | scalar s => rfl
  | notANumber => rfl
  | list items => rfl
  | map ordered entries => rfl
  | bytes bs => cases h
  | tuple items => cases h
  | set members => cases h

/-- Where some data have values, each of them has one. -/
theorem exists_value?_of_mem {items : List Data} {vs : List Value}
    (h : Data.values? items = some vs) {i : Data} (hi : i ∈ items) : ∃ v, i.value? = some v := by
  induction items generalizing vs with
  | nil => cases hi
  | cons d ds ih =>
    rw [Data.values?] at h
    obtain ⟨v, hv, h⟩ := Option.bind_eq_some_iff.mp h
    obtain ⟨us, hus, -⟩ := Option.bind_eq_some_iff.mp h
    rcases List.mem_cons.mp hi with rfl | hi
    · exact ⟨v, hv⟩
    · exact ih hus hi

/-- Data is accepted in a role: as a value if it has one, and as a key if it has a text. -/
def Data.IsAccepted (d : Data) : Role → Prop
  | .value => ∃ v, d.value? = some v
  | .key => ∃ s, d.text? = some s

/-- Every entry of an accepted mapping has a text and a value. -/
theorem exists_isEntry_of_isAccepted {ordered : Bool} {entries : List (Data × Data)}
    (h : Data.IsAccepted (.map ordered entries) .value) {e : Data × Data} (he : e ∈ entries) :
    ∃ p, IsEntry e p := by
  obtain ⟨v, hv⟩ := h
  rw [Data.value?] at hv
  obtain ⟨kvs, hkvs, -⟩ := Option.map_eq_some_iff.mp hv
  exact exists_isEntry_of_mem (forall₂_of_entries? hkvs) he

/-- Every part of accepted data is accepted in its role. -/
theorem isAccepted_of_hasPart {d x : Data} {r : Role} (h : d.HasPart r x)
    (hd : d.IsAccepted .value) : x.IsAccepted r := by
  induction h with
  | root d => exact hd
  | item mem below ih =>
    obtain ⟨v, hv⟩ := hd
    rw [Data.value?] at hv
    obtain ⟨vs, hvs, -⟩ := Option.map_eq_some_iff.mp hv
    exact ih (exists_value?_of_mem hvs mem)
  | value mem below ih =>
    obtain ⟨p, -, hvalue⟩ := exists_isEntry_of_isAccepted hd mem
    exact ih ⟨p.2, hvalue⟩
  | key mem =>
    obtain ⟨p, htext, -⟩ := exists_isEntry_of_isAccepted hd mem
    exact ⟨p.1, htext⟩

/-- A part that has no value turns down what it is part of. -/
theorem exists_error_of_hasPart {d x : Data} (h : d.HasPart .value x)
    (hx : x.isListed .value = false) : ∃ f, d.restrict = .error f := by
  cases hd : d.restrict with
  | error f => exact ⟨f, rfl⟩
  | ok v =>
    obtain ⟨w, hw⟩ := isAccepted_of_hasPart h ⟨v, value?_of_restrict hd⟩
    rw [isListed_of_value? hw] at hx
    cases hx

end FrontMatter.Yaml

namespace FrontMatter

open Yaml (Data Fault Role)

/-! ## The data of a block -/

/-- The keys in the data of a text can be looked up. -/
theorem hasHashableKeys_of_dataOfText {text : String} {d : Data} (h : dataOfText text = .ok d) :
    d.HasHashableKeys := by
  obtain ⟨found, -, h⟩ := exists_of_bind_eq_ok h
  cases found with
  | none =>
    cases h
    exact Yaml.hasHashableKeys_of_isLeaf rfl
  | some document =>
    have hbuild : (Yaml.build document.version (document.root.height + 1) false
        document.root).toExcept = .ok d := h
    cases hd : Yaml.build document.version (document.root.height + 1) false document.root with
    | fault l f =>
      rw [hd] at hbuild
      cases hbuild
    | ok c =>
      rw [hd] at hbuild
      cases hbuild
      exact Yaml.hasHashableKeys_of_build hd

/-- A block that is not blank is read as its value. -/
theorem ofBlock_of_not_blank {text : String} (h : Text.isBlankText text = false) :
    Document.ofBlock (some text) = Document.ofReading ((valueOfText text).map fun v =>
      { content := .ofValue v, lines := (Content.ofValue v).lines text }) := by
  show Document.ofReading (Reading.ofText text) = _
  unfold Reading.ofText
  rw [h, if_neg Bool.false_ne_true]
  cases valueOfText text with
  | error f => rfl
  | ok v => rfl

/-- A block that some data is made from, which is neither blank nor too long. -/
structure Makes (text : String) (d : Data) : Prop where
  notBlank : Text.isBlankText text = false
  short : text.length ≤ Yaml.maxLength
  data : dataOfText text = .ok d

/-- A block is read as its data is within the limits. -/
theorem Makes.ofBlock_eq {text : String} {d : Data} (h : Makes text d) :
    Document.ofBlock (some text) = Document.ofReading (d.restrict.map fun v =>
      { content := .ofValue v, lines := (Content.ofValue v).lines text }) := by
  rw [ofBlock_of_not_blank h.notBlank, valueOfText_eq h.short, h.data]
  rfl

/-- The document of a block whose data is turned down is one error. -/
theorem Makes.ofBlock_of_error {text : String} {d : Data} (h : Makes text d) {f : Fault}
    (hd : d.restrict = .error f) : Document.ofBlock (some text) = { errors := [faultError f] } := by
  rw [h.ofBlock_eq, hd]
  rfl

/-- The document of a block whose data has a value has no error. -/
theorem Makes.errors_of_ok {text : String} {d : Data} (h : Makes text d) {v : Value}
    (hd : d.restrict = .ok v) : (Document.ofBlock (some text)).errors = [] := by
  rw [h.ofBlock_eq, hd]
  rfl

/-- A block that no data is made from is blank, or its document has an error and nothing else. -/
theorem blank_or_makes_or_error (text : String) :
    Text.isBlankText text = true ∨ (∃ d, Makes text d) ∨
      ∃ e, Document.ofBlock (some text) = { errors := [e] } := by
  cases hblank : Text.isBlankText text with
  | true => exact .inl rfl
  | false =>
    right
    have herror : ∀ f, valueOfText text = .error f →
        Document.ofBlock (some text) = { errors := [faultError f] } := by
      intro f hf
      rw [ofBlock_of_not_blank hblank, hf]
      rfl
    by_cases hlong : Yaml.maxLength < text.length
    · exact .inr ⟨_, herror _ (valueOfText_of_lt hlong)⟩
    · have hshort : text.length ≤ Yaml.maxLength := Nat.not_lt.mp hlong
      cases hdata : dataOfText text with
      | error f =>
        refine .inr ⟨_, herror f ?_⟩
        rw [valueOfText_eq hshort, hdata]
        rfl
      | ok d => exact .inl ⟨d, hblank, hshort, hdata⟩

/-- A block that is read without an error has data that is accepted. -/
theorem Makes.isAccepted {text : String} {d : Data} (h : Makes text d)
    (hread : (Document.ofBlock (some text)).errors = []) : d.IsAccepted .value := by
  cases hd : d.restrict with
  | error f =>
    rw [h.ofBlock_of_error hd] at hread
    cases hread
  | ok v => exact ⟨v, Yaml.value?_of_restrict hd⟩

/-! ## What is turned down -/

/-- The parts of a block that stand in a role are covered: if it is read without an error, each of
them may stand there, and if one of them may not, the document has an error and nothing else. -/
def Covers (r : Role) (text : String) : Prop :=
  ∀ d, Makes text d →
    ((Document.ofBlock (some text)).errors = [] → ∀ x, d.HasPart r x → x.isListed r = true) ∧
    ((∃ x, d.HasPart r x ∧ x.isListed r = false) →
      ∃ e, Document.ofBlock (some text) = { errors := [e] })

/-- Values are covered in every block. -/
theorem covers_value (text : String) : Covers .value text := by
  intro d hmakes
  constructor
  · intro hread x hx
    obtain ⟨w, hw⟩ := Yaml.isAccepted_of_hasPart hx (hmakes.isAccepted hread)
    exact Yaml.isListed_of_value? hw
  · rintro ⟨x, hx, hlisted⟩
    obtain ⟨f, hf⟩ := Yaml.exists_error_of_hasPart hx hlisted
    exact ⟨faultError f, hmakes.ofBlock_of_error hf⟩

/-- Keys are covered where no key in a block that is read is bytes or a tuple. -/
theorem covers_key_iff (text : String) :
    Covers .key text ↔ ∀ d, Makes text d → (Document.ofBlock (some text)).errors = [] →
      ∀ k, d.HasPart .key k → ¬ ((∃ bs, k = .bytes bs) ∨ ∃ items, k = .tuple items) := by
  constructor
  · intro hcovers d hmakes hread k hk hother
    have hlisted := (hcovers d hmakes).1 hread k hk
    rcases hother with ⟨bs, rfl⟩ | ⟨items, rfl⟩
    · cases hlisted
    · cases hlisted
  · intro hplain d hmakes
    have hkeys : (Document.ofBlock (some text)).errors = [] →
        ∀ k, d.HasPart .key k → k.isListed .key = true := by
      intro hread k hk
      have hhash := hasHashableKeys_of_dataOfText hmakes.data k hk
      cases hlisted : k.isListed .key with
      | true => rfl
      | false =>
        have hother := Yaml.exists_of_not_isListed_key hhash hlisted
        exact absurd hother (hplain d hmakes hread k hk)
    refine ⟨hkeys, ?_⟩
    rintro ⟨k, hk, hlisted⟩
    cases hd : d.restrict with
    | error f => exact ⟨faultError f, hmakes.ofBlock_of_error hd⟩
    | ok v =>
      rw [hkeys (hmakes.errors_of_ok hd) k hk] at hlisted
      cases hlisted

/-- Data is made from every block that is neither blank nor has an error. The values that may not
occur are turned down in all of it. The keys are as well exactly where no key of a block that is
read is bytes or a tuple. -/
theorem covers_iff (text : String) :
    (Text.isBlankText text = true ∨ (∃ d, Makes text d) ∨
      ∃ e, Document.ofBlock (some text) = { errors := [e] }) ∧
    Covers .value text ∧
    ((∀ r, Covers r text) ↔ ∀ d, Makes text d → (Document.ofBlock (some text)).errors = [] →
      ∀ k, d.HasPart .key k → ¬ ((∃ bs, k = .bytes bs) ∨ ∃ items, k = .tuple items)) := by
  refine ⟨blank_or_makes_or_error text, covers_value text, ?_⟩
  rw [← covers_key_iff]
  constructor
  · intro hcovers
    exact hcovers .key
  · intro hkeys r
    cases r with
    | value => exact covers_value text
    | key => exact hkeys

/-! ## Bytes as a key -/

/-- A block with bytes as its key. -/
def binaryKey : String :=
  "!!binary aGk=: x\n"

/-- Whether data is a mapping with bytes as its first key. -/
def startsWithBytes : Data → Bool
  | .map _ ((.bytes _, _) :: _) => true
  | _ => false

/-- The data that is made from the block has bytes as a key. -/
theorem exists_makes_binaryKey : ∃ d bs, Makes binaryKey d ∧ d.HasPart .key (.bytes bs) := by
  have hkey : (dataOfText binaryKey).toOption.any startsWithBytes = true := by decide +kernel
  cases hdata : dataOfText binaryKey with
  | error f =>
    rw [hdata] at hkey
    cases hkey
  | ok d =>
    have hbytes : startsWithBytes d = true := by
      rw [hdata] at hkey
      exact hkey
    unfold startsWithBytes at hbytes
    split at hbytes
    · next ordered bs value rest =>
      refine ⟨_, bs, ⟨by decide +kernel, by decide, hdata⟩, ?_⟩
      exact .key (e := (.bytes bs, value)) List.mem_cons_self
    · cases hbytes

/-- The block is read without an error, so its key is not covered. -/
theorem not_covers_binaryKey : ¬ ∀ r, Covers r binaryKey := by
  intro hcovers
  obtain ⟨d, bs, hmakes, hkey⟩ := exists_makes_binaryKey
  have hread : (Document.ofBlock (some binaryKey)).errors = [] := by decide +kernel
  have hlisted := (hcovers .key d hmakes).1 hread _ hkey
  cases hlisted

end FrontMatter
