import FrontMatter.Proofs.JsonReading
import FrontMatter.Proofs.ShownValues
import Mathlib.Data.List.Forall2

/-!
# `FrontMatter.Proofs.JsonReports` — reports for programs are read back

A reader of JSON reads from a report whether there are findings, their number, and the findings with
all of their fields, in order. So two reports differ wherever the findings do. But there is no
report of a finding at a line of more than 4300 digits.

## Contents

* `ReadsPart`, `readJsonParts_joined`, `readJsonList_bracketed`: parts between brackets.
* `Json.value`, `ReadsValue`: the value of a part of a report, and a text that is read as it.
* `readsValue_quoted`, `readsValue_int`, `readsValue_array`, `readsValue_object`: one value of each
  kind.
* `Json.reads_text`, `ofText?_text`: all values, by induction.
* `Json.wholeNumbers`, `Json.isOk_text_iff`: the values that have a text.
* `ReportData.ofText?`, `ofText?_jsonReport`: reports.
* `GivesBack`, `IsReadBack`, `jsonReport_isReadBack_iff`: the findings that are read back.
* `not_isReadBack_longLine`: a finding that is not.
-/

namespace FrontMatter

/-! ## Parts between brackets -/

/-- A line break and some spaces. -/
def lineGap (n : Nat) : List Char :=
  '\n' :: List.replicate n ' '

/-- A line break and its spaces are blanks. -/
theorem isJsonBlank_of_mem_lineGap {n : Nat} : ∀ c ∈ lineGap n, isJsonBlank c = true := by
  rintro c (_ | ⟨_, hc⟩)
  · rfl
  · rw [List.eq_of_mem_replicate hc]
    rfl

/-- A part is read back from a text, with a line break before it, up to its end. -/
def ReadsPart {α : Type} (readPart : List Char → Option (α × List Char)) (a : α)
    (cs : List Char) : Prop :=
  ∀ n rest, EndsJson rest → readPart (lineGap n ++ (cs ++ rest)) = some (a, rest)

/-- A comma, and a part on a line of its own. -/
def nextPart (n : Nat) (cs : List Char) : List Char :=
  ',' :: (lineGap n ++ cs)

section Parts

variable {α : Type} {readPart : List Char → Option (α × List Char)} {closing : Char}

/-- Parts with commas between them are read back up to the closing bracket. -/
theorem readJsonParts_joined (hclosing : isJsonBlank closing = false) (hcomma : closing ≠ ',')
    {a : α} {t : List Char} (ha : ReadsPart readPart a t) {as : List α} {ts : List (List Char)}
    (h : List.Forall₂ (ReadsPart readPart) as ts) {fuel : Nat} (hfuel : ts.length < fuel)
    (m n : Nat) (rest : List Char) :
    readJsonParts readPart closing fuel
        (lineGap n ++ (t ++ (ts.flatMap (nextPart n) ++ (lineGap m ++ closing :: rest))))
      = some (a :: as, rest) := by
  induction h generalizing a t fuel with
  | nil =>
    obtain ⟨fuel, rfl⟩ : ∃ k, fuel = k + 1 := Nat.exists_eq_succ_of_ne_zero (by omega)
    have hread := ha n (lineGap m ++ closing :: rest) (by rintro x ⟨⟩; exact .inr rfl)
    have hblanks : skipJsonBlanks (lineGap m ++ closing :: rest) = closing :: rest := by
      rw [skipJsonBlanks_append isJsonBlank_of_mem_lineGap, skipJsonBlanks_cons hclosing]
    rw [List.flatMap_nil, List.nil_append, readJsonParts]
    simp [hread, hblanks, hcomma]
  | @cons b u as ts hb _ ih =>
    obtain ⟨fuel, rfl⟩ : ∃ k, fuel = k + 1 := Nat.exists_eq_succ_of_ne_zero (by omega)
    let more := u ++ (ts.flatMap (nextPart n) ++ (lineGap m ++ closing :: rest))
    have hjoined : (u :: ts).flatMap (nextPart n) ++ (lineGap m ++ closing :: rest)
        = ',' :: (lineGap n ++ more) := by
      simp [nextPart, more]
    have hread := ha n (',' :: (lineGap n ++ more)) (by rintro x ⟨⟩; exact .inl rfl)
    have hcommaBlank : skipJsonBlanks (',' :: (lineGap n ++ more)) = ',' :: (lineGap n ++ more) :=
      skipJsonBlanks_cons (by decide) _
    have hrest := ih hb (Nat.lt_of_succ_lt_succ hfuel)
    rw [hjoined, readJsonParts]
    simp only [hread, hcommaBlank, bind, Option.bind]
    simp [more, hrest]

/-- Parts with commas and line breaks between them. -/
theorem intercalate_eq_flatMap (n : Nat) (t : List Char) (ts : List (List Char)) :
    (',' :: lineGap n).intercalate (t :: ts) = t ++ ts.flatMap (nextPart n) := by
  induction ts generalizing t with
  | nil => simp
  | cons u ts ih =>
    rw [List.intercalate_cons_cons, ih]
    simp [nextPart]

/-- Brackets that hold some parts. -/
theorem toList_bracketed (level : Nat) (opening closing : Char) (t : String) (ts : List String) :
    (Json.bracketed level opening closing (t :: ts)).toList
      = opening :: (lineGap (2 * (level + 1)) ++ (t.toList
        ++ ((ts.map String.toList).flatMap (nextPart (2 * (level + 1)))
          ++ (lineGap (2 * level) ++ [closing])))) := by
  have hline : ∀ k, (Json.newLine k).toList = lineGap (2 * k) := fun _ => String.toList_ofList
  have hcomma : ("," ++ Json.newLine (level + 1)).toList = ',' :: lineGap (2 * (level + 1)) := by
    rw [String.toList_append, hline]
    rfl
  unfold Json.bracketed
  rw [if_neg (by simp), String.toList_append, String.toList_append, String.toList_append,
    String.toList_append, String.toList_intercalate, hline, hline, hcomma, List.map_cons,
    intercalate_eq_flatMap]
  simp

/-- Parts between brackets are read back. -/
theorem readJsonList_bracketed (hclosing : isJsonBlank closing = false) (hcomma : closing ≠ ',')
    {as : List α} {parts : List String}
    (h : List.Forall₂ (ReadsPart readPart) as (parts.map String.toList))
    (hfirst : ∀ t ∈ parts, ∃ x more, t.toList = x :: more ∧ isJsonBlank x = false ∧ x ≠ closing)
    (level : Nat) (opening : Char) : ∃ inner,
      (Json.bracketed level opening closing parts).toList = opening :: inner
        ∧ ∀ rest, readJsonList readPart closing (inner ++ rest) = some (as, rest) := by
  cases parts with
  | nil =>
    cases h
    refine ⟨[closing], by simp [Json.bracketed], fun rest => ?_⟩
    unfold readJsonList
    rw [List.singleton_append, skipJsonBlanks_cons hclosing]
    simp
  | cons t ts =>
    cases h with
    | @cons a _ as _ ha has =>
      refine ⟨_, toList_bracketed level opening closing t ts, fun rest => ?_⟩
      let n := 2 * (level + 1)
      let nexts := (ts.map String.toList).flatMap (nextPart n)
      let cs := lineGap n ++ (t.toList ++ (nexts ++ (lineGap (2 * level) ++ closing :: rest)))
      have hcs : lineGap n ++ (t.toList ++ (nexts ++ (lineGap (2 * level) ++ [closing]))) ++ rest
          = cs := by
        simp [cs]
      have hlength : (ts.map String.toList).length < cs.length := by
        have hnexts := @length_le_length_flatMap _ (nextPart n)
          (fun t => List.cons_ne_nil _ _) (ts.map String.toList)
        simp only [cs, nexts, List.length_append, List.length_cons]
        omega
      have hopen : ((skipJsonBlanks cs).head? == some closing) = false := by
        obtain ⟨x, more, hx, hblank, hne⟩ := hfirst t List.mem_cons_self
        have hskip : skipJsonBlanks cs = t.toList
            ++ (nexts ++ (lineGap (2 * level) ++ closing :: rest)) := by
          simp only [cs]
          rw [skipJsonBlanks_append isJsonBlank_of_mem_lineGap, hx, List.cons_append,
            skipJsonBlanks_cons hblank]
        rw [hskip, hx, beq_eq_false_iff_ne]
        simpa using hne
      rw [hcs]
      unfold readJsonList
      rw [hopen]
      exact readJsonParts_joined hclosing hcomma ha has hlength (2 * level) n rest

end Parts

/-! ## Values -/

namespace Json

mutual

/-- The value that a part of a report denotes. -/
def value : Json → JsonValue
  | .null => .null
  | .bool b => .bool b
  | .count n => .number ⟨n, 0⟩
  | .int n => .number ⟨n, 0⟩
  | .str s => .str s
  | .array items => .array (itemValues items)
  | .object fields => .object (Table.ofList (fieldValues fields))

/-- The values of the items of an array. -/
def itemValues : List Json → List JsonValue
  | [] => []
  | v :: vs => v.value :: itemValues vs

/-- The values of the fields of an object. -/
def fieldValues : List (String × Json) → List (String × JsonValue)
  | [] => []
  | (k, v) :: fs => (k, v.value) :: fieldValues fs

end

end Json

/-- A value is read back from a text, whatever the fuel beyond its length, up to its end. -/
structure ReadsValue (v : JsonValue) (cs : List Char) : Prop where
  first : ∃ x more, cs = x :: more ∧ isJsonBlank x = false ∧ x ≠ ']'
  read : ∀ fuel rest, cs.length ≤ fuel → EndsJson rest →
    readJsonValue fuel (cs ++ rest) = some (v, rest)

/-- A text has a character, so there is fuel to read it with. -/
theorem ReadsValue.of_succ {v : JsonValue} {cs : List Char}
    (hfirst : ∃ x more, cs = x :: more ∧ isJsonBlank x = false ∧ x ≠ ']')
    (hread : ∀ fuel rest, cs.length ≤ fuel + 1 → EndsJson rest →
      readJsonValue (fuel + 1) (cs ++ rest) = some (v, rest)) : ReadsValue v cs := by
  refine ⟨hfirst, fun fuel rest hfuel hrest => ?_⟩
  obtain ⟨x, more, rfl, -⟩ := hfirst
  cases fuel with
  | zero => exact absurd hfuel (Nat.not_succ_le_zero more.length)
  | succ fuel => exact hread fuel rest hfuel hrest

/-- Blanks before a value are moved over. -/
theorem readJsonValue_append {bs : List Char} (h : ∀ c ∈ bs, isJsonBlank c = true) (fuel : Nat)
    (cs : List Char) : readJsonValue fuel (bs ++ cs) = readJsonValue fuel cs := by
  cases fuel with
  | zero => rfl
  | succ fuel =>
    rw [readJsonValue, readJsonValue, skipJsonBlanks_append h]

/-- So is a value a part of an array. -/
theorem ReadsValue.readsPart {v : JsonValue} {cs : List Char} (h : ReadsValue v cs) {fuel : Nat}
    (hfuel : cs.length ≤ fuel) : ReadsPart (readJsonValue fuel) v cs := by
  intro n rest hrest
  rw [readJsonValue_append isJsonBlank_of_mem_lineGap]
  exact h.read fuel rest hfuel hrest

/-- A text in quotes, character by character. -/
theorem toList_quoted (s : String) :
    (Json.quoted s).toList = '"' :: (s.toList.flatMap Json.escapeChar ++ ['"']) :=
  String.toList_ofList

/-- A text in quotes, and its value. -/
theorem readsValue_quoted (s : String) : ReadsValue (.str s) (Json.quoted s).toList := by
  apply ReadsValue.of_succ
  · exact ⟨_, _, toList_quoted s, by decide, by decide⟩
  · intro fuel rest _ _
    have hread := readJsonString_quoted s rest
    rw [toList_quoted, readJsonValue, List.cons_append, skipJsonBlanks_cons (by decide)]
    simp [hread]

/-- A word or a number, and its value. -/
theorem readsValue_scalar {v : JsonValue} {x : Char} {more : List Char}
    (hblank : isJsonBlank x = false) (hx : x ≠ '"' ∧ x ≠ '[' ∧ x ≠ ']' ∧ x ≠ '\x7b')
    (hread : ∀ rest, EndsJson rest → readJsonScalar (x :: (more ++ rest)) = some (v, rest)) :
    ReadsValue v (x :: more) := by
  obtain ⟨hquote, hopen, hclose, hbrace⟩ := hx
  apply ReadsValue.of_succ
  · exact ⟨x, more, rfl, hblank, hclose⟩
  · intro fuel rest _ hrest
    rw [readJsonValue, List.cons_append, skipJsonBlanks_cons hblank]
    split
    · next heq => exact absurd (List.cons.inj heq).1 hquote
    · next heq => exact absurd (List.cons.inj heq).1 hopen
    · next heq => exact absurd (List.cons.inj heq).1 hbrace
    · exact hread rest hrest

/-- The three words, and their values. -/
theorem readsValue_words : ReadsValue .null "null".toList
    ∧ ReadsValue (.bool true) "true".toList ∧ ReadsValue (.bool false) "false".toList :=
  ⟨@readsValue_scalar _ 'n' "ull".toList (by decide) (by decide) fun _ _ => rfl,
    @readsValue_scalar _ 't' "rue".toList (by decide) (by decide) fun _ _ => rfl,
    @readsValue_scalar _ 'f' "alse".toList (by decide) (by decide) fun _ _ => rfl⟩

/-- A whole number starts with a minus or a digit. -/
theorem exists_toString_int (n : Int) :
    ∃ x more, (toString n).toList = x :: more ∧ (x = '-' ∨ x.isDigit = true) := by
  cases n with
  | ofNat m =>
    obtain ⟨d, ds, hds⟩ := List.exists_cons_of_ne_nil (@Nat.toDigits_ne_nil m 10)
    exact ⟨d, ds, (toList_toString_ofNat m).trans hds,
      .inr (isDigit_of_mem_digits (hds ▸ List.mem_cons_self))⟩
  | negSucc m => exact ⟨'-', _, toList_toString_negSucc m, .inl rfl⟩

/-- A whole number, and its value. -/
theorem readsValue_int (n : Int) : ReadsValue (.number ⟨n, 0⟩) (toString n).toList := by
  obtain ⟨x, more, hwritten, hx⟩ := exists_toString_int n
  have hne : ∀ d, d ≠ '-' → d.isDigit = false → x ≠ d := by
    rintro d hminus hdigit rfl
    rcases hx with h | h
    · exact hminus h
    · rw [hdigit] at h
      cases h
  rw [hwritten]
  apply readsValue_scalar
  · have hspace := hne ' ' (by decide) (by decide)
    have htab := hne '\t' (by decide) (by decide)
    have hfeed := hne '\n' (by decide) (by decide)
    have hreturn := hne '\r' (by decide) (by decide)
    simp [isJsonBlank, hspace, htab, hfeed, hreturn]
  · exact ⟨hne _ (by decide) (by decide), hne _ (by decide) (by decide),
      hne _ (by decide) (by decide), hne _ (by decide) (by decide)⟩
  · intro rest hrest
    have hnumber := readJsonNumber_int n hrest
    rw [hwritten, List.cons_append] at hnumber
    unfold readJsonScalar
    split
    · next heq => exact absurd (List.cons.inj heq).1 (hne _ (by decide) (by decide))
    · next heq => exact absurd (List.cons.inj heq).1 (hne _ (by decide) (by decide))
    · next heq => exact absurd (List.cons.inj heq).1 (hne _ (by decide) (by decide))
    · rw [hnumber]
      rfl

/-- A part between brackets is shorter than they are. -/
theorem length_lt_bracketed {parts : List String} {t : String} (h : t ∈ parts) (level : Nat)
    (opening closing : Char) :
    t.toList.length < (Json.bracketed level opening closing parts).toList.length := by
  cases parts with
  | nil => cases h
  | cons u ts =>
    rw [toList_bracketed]
    rcases List.mem_cons.mp h with rfl | h
    · simp only [List.length_cons, List.length_append]
      omega
    · obtain ⟨before, after, rfl⟩ := List.append_of_mem h
      simp only [List.map_append, List.map_cons, List.flatMap_append, List.flatMap_cons, nextPart,
        List.length_cons, List.length_append]
      omega

/-- Brackets with parts, and their value: the parts are read with less fuel, as they are shorter. -/
theorem readsValue_bracketed {α : Type} {readPart : Nat → List Char → Option (α × List Char)}
    {R : α → List Char → Prop} {v : JsonValue} {as : List α} {opening closing : Char}
    (hopening : isJsonBlank opening = false ∧ opening ≠ ']')
    (hclosing : isJsonBlank closing = false ∧ closing ≠ ',')
    (hfirst : ∀ {a t}, R a t → ∃ x more, t = x :: more ∧ isJsonBlank x = false ∧ x ≠ closing)
    (hpart : ∀ {k a t}, R a t → t.length ≤ k → ReadsPart (readPart k) a t)
    (hvalue : ∀ {k cs rest}, readJsonList (readPart k) closing cs = some (as, rest) →
      readJsonValue (k + 1) (opening :: cs) = some (v, rest))
    {parts : List String} (h : List.Forall₂ R as (parts.map String.toList)) (level : Nat) :
    ReadsValue v (Json.bracketed level opening closing parts).toList := by
  let Starts : List Char → Prop := fun t =>
    ∃ x more, t = x :: more ∧ isJsonBlank x = false ∧ x ≠ closing
  have hflip : List.Forall₂ (fun t a => R a t) (parts.map String.toList) as := h.flip
  have hfirsts : ∀ t ∈ parts, Starts t.toList := by
    have hboth := (List.forall₂_and_left _ _).mp
      (hflip.imp fun t a ha => (⟨hfirst ha, ha⟩ : Starts t ∧ R a t))
    exact fun t ht => hboth.1 t.toList (List.mem_map_of_mem ht)
  have hinner : ∀ k, (Json.bracketed level opening closing parts).toList.length ≤ k + 1 →
      ∃ inner, (Json.bracketed level opening closing parts).toList = opening :: inner
        ∧ ∀ rest, readJsonList (readPart k) closing (inner ++ rest) = some (as, rest) := by
    intro k hk
    have hshort : ∀ t ∈ parts.map String.toList, t.length ≤ k := by
      intro t ht
      obtain ⟨u, hu, rfl⟩ := List.mem_map.mp ht
      have hlt := length_lt_bracketed hu level opening closing
      omega
    have hparts : List.Forall₂ (ReadsPart (readPart k)) as (parts.map String.toList) :=
      (((List.forall₂_and_left _ _).mpr ⟨hshort, hflip⟩).imp fun t a ht => hpart ht.2 ht.1).flip
    exact readJsonList_bracketed hclosing.1 hclosing.2 hparts hfirsts level opening
  apply ReadsValue.of_succ
  · obtain ⟨inner, hwritten, -⟩ := hinner _ (Nat.le_succ _)
    exact ⟨opening, inner, hwritten, hopening⟩
  · intro fuel rest hfuel _
    obtain ⟨inner, hwritten, hread⟩ := hinner fuel hfuel
    rw [hwritten]
    exact hvalue (hread rest)

/-- An array, and its value. -/
theorem readsValue_array {vs : List JsonValue} {parts : List String}
    (h : List.Forall₂ ReadsValue vs (parts.map String.toList)) (level : Nat) :
    ReadsValue (.array vs) (Json.bracketed level '[' ']' parts).toList := by
  refine @readsValue_bracketed _ readJsonValue _ _ _ _ _ (by decide) (by decide)
    (fun hv => hv.first) (fun hv hk => hv.readsPart hk) ?_ _ h level
  intro k cs rest hread
  rw [readJsonValue, skipJsonBlanks_cons (by decide)]
  simp [hread]

/-- A field is written as its name in quotes, a colon, a space and its value. -/
def ReadsField (field : String × JsonValue) (cs : List Char) : Prop :=
  ∃ t, cs = (Json.quoted field.1).toList ++ ':' :: ' ' :: t ∧ ReadsValue field.2 t

/-- A field is a part of an object. -/
theorem ReadsField.readsPart {field : String × JsonValue} {cs : List Char}
    (h : ReadsField field cs) {fuel : Nat} (hfuel : cs.length ≤ fuel) :
    ReadsPart (readJsonField (readJsonValue fuel)) field cs := by
  obtain ⟨t, rfl, hvalue⟩ := h
  intro n rest hrest
  have hname := readJsonString_quoted field.1 (':' :: ' ' :: (t ++ rest))
  have hread : readJsonValue fuel (' ' :: (t ++ rest)) = some (field.2, rest) := by
    rw [← List.singleton_append, readJsonValue_append (by simp [isJsonBlank])]
    apply hvalue.read fuel rest _ hrest
    simp only [List.length_append, List.length_cons] at hfuel
    omega
  unfold readJsonField
  rw [skipJsonBlanks_append isJsonBlank_of_mem_lineGap, toList_quoted, List.cons_append,
    List.cons_append, skipJsonBlanks_cons (by decide)]
  simp only [List.append_assoc, List.cons_append, List.nil_append]
  simp only [hname, bind, Option.bind, skipJsonBlanks_cons (show isJsonBlank ':' = false by decide),
    hread]
  rfl

/-- An object, and its value. -/
theorem readsValue_object {fields : List (String × JsonValue)} {parts : List String}
    (h : List.Forall₂ ReadsField fields (parts.map String.toList)) (level : Nat) :
    ReadsValue (.object (Table.ofList fields))
      (Json.bracketed level '\x7b' '\x7d' parts).toList := by
  refine @readsValue_bracketed _ (fun k => readJsonField (readJsonValue k)) _ _ _ _ _ (by decide)
    (by decide) ?_ (fun hf hk => hf.readsPart hk) ?_ _ h level
  · rintro field t ⟨t, rfl, -⟩
    rw [toList_quoted, List.cons_append]
    exact ⟨'"', _, rfl, by decide, by decide⟩
  · intro k cs rest hread
    rw [readJsonValue, skipJsonBlanks_cons (by decide)]
    simp [hread]

/-! ## All values -/

/-- The text of a whole number that has one. -/
theorem eq_toString_of_intText {n : Int} {t : String} (h : intText n = .ok t) : t = toString n := by
  unfold intText at h
  split at h
  · exact (Except.ok.inj h).symm
  · cases h

namespace Json

mutual

/-- Every value is read back from its text. -/
theorem reads_text {level : Nat} (v : Json) {t : String} (h : v.text level = .ok t) :
    ReadsValue v.value t.toList := by
  cases v with
  | null =>
    cases h
    exact readsValue_words.1
  | bool b =>
    cases h
    cases b with
    | true => exact readsValue_words.2.1
    | false => exact readsValue_words.2.2
  | count n =>
    cases h
    exact readsValue_int n
  | int n =>
    rw [eq_toString_of_intText h]
    exact readsValue_int n
  | str s =>
    cases h
    exact readsValue_quoted s
  | array items =>
    obtain ⟨parts, hparts, hbrackets⟩ := exists_of_bind_eq_ok h
    cases hbrackets
    exact readsValue_array (forall₂_itemTexts items hparts) level
  | object fields =>
    obtain ⟨parts, hparts, hbrackets⟩ := exists_of_bind_eq_ok h
    cases hbrackets
    exact readsValue_object (forall₂_fieldTexts fields hparts) level

/-- So are the items of an array. -/
theorem forall₂_itemTexts {level : Nat} (items : List Json) {parts : List String}
    (h : itemTexts level items = .ok parts) :
    List.Forall₂ ReadsValue (itemValues items) (parts.map String.toList) := by
  cases items with
  | nil =>
    cases h
    exact .nil
  | cons v vs =>
    obtain ⟨t, ht, h⟩ := exists_of_bind_eq_ok h
    obtain ⟨ts, hts, hparts⟩ := exists_of_bind_eq_ok h
    cases hparts
    exact .cons (reads_text v ht) (forall₂_itemTexts vs hts)

/-- And the fields of an object. -/
theorem forall₂_fieldTexts {level : Nat} (fields : List (String × Json)) {parts : List String}
    (h : fieldTexts level fields = .ok parts) :
    List.Forall₂ ReadsField (fieldValues fields) (parts.map String.toList) := by
  cases fields with
  | nil =>
    cases h
    exact .nil
  | cons f fs =>
    obtain ⟨k, v⟩ := f
    obtain ⟨t, ht, h⟩ := exists_of_bind_eq_ok h
    obtain ⟨ts, hts, hparts⟩ := exists_of_bind_eq_ok h
    cases hparts
    refine .cons ⟨_, ?_, reads_text v ht⟩ (forall₂_fieldTexts fs hts)
    simp

end

end Json

/-- The text of a value is read as that value. -/
theorem ofText?_text {v : Json} {level : Nat} {t : String} (h : v.text level = .ok t) :
    JsonValue.ofText? t = some v.value := by
  have hread := (v.reads_text h).read t.length [] (Nat.le_of_eq String.length_toList)
    (by simp [EndsJson])
  rw [List.append_nil] at hread
  unfold JsonValue.ofText?
  rw [hread]
  rfl

/-! ## The values that have a text -/

namespace Json

mutual

/-- The whole numbers in a part of a report. Numbers of things are left out, as they are never too
long. -/
def wholeNumbers : Json → List Int
  | .int n => [n]
  | .array items => wholeNumbersOfItems items
  | .object fields => wholeNumbersOfFields fields
  | .null | .bool _ | .count _ | .str _ => []

/-- The whole numbers in the items of an array. -/
def wholeNumbersOfItems : List Json → List Int
  | [] => []
  | v :: vs => v.wholeNumbers ++ wholeNumbersOfItems vs

/-- The whole numbers in the fields of an object. -/
def wholeNumbersOfFields : List (String × Json) → List Int
  | [] => []
  | (_, v) :: fs => v.wholeNumbers ++ wholeNumbersOfFields fs

end

mutual

/-- A value has a text unless a whole number in it is too long. -/
theorem isOk_text_iff (level : Nat) (v : Json) :
    IsOk (v.text level) ↔ AreShort v.wholeNumbers := by
  cases v with
  | int n => exact isOk_intText_iff n
  | array items =>
    unfold text
    rw [isOk_map_iff]
    exact isOk_itemTexts_iff (level + 1) items
  | object fields =>
    unfold text
    rw [isOk_map_iff]
    exact isOk_fieldTexts_iff (level + 1) fields
  | null | bool | count | str => exact iff_of_true (isOk_ok _) (by simp [wholeNumbers, AreShort])

/-- So have the items of an array. -/
theorem isOk_itemTexts_iff (level : Nat) (items : List Json) :
    IsOk (itemTexts level items) ↔ AreShort (wholeNumbersOfItems items) := by
  cases items with
  | nil => exact iff_of_true (isOk_ok _) (by simp [wholeNumbersOfItems, AreShort])
  | cons v vs =>
    unfold itemTexts wholeNumbersOfItems
    rw [areShort_append, ← isOk_itemTexts_iff level vs]
    rw [isOk_bind_iff fun t => isOk_map_iff, isOk_text_iff level v]

/-- And the fields of an object. -/
theorem isOk_fieldTexts_iff (level : Nat) (fields : List (String × Json)) :
    IsOk (fieldTexts level fields) ↔ AreShort (wholeNumbersOfFields fields) := by
  cases fields with
  | nil => exact iff_of_true (isOk_ok _) (by simp [wholeNumbersOfFields, AreShort])
  | cons f fs =>
    obtain ⟨k, v⟩ := f
    unfold fieldTexts wholeNumbersOfFields
    rw [areShort_append, ← isOk_fieldTexts_iff level fs]
    rw [isOk_bind_iff fun t => isOk_map_iff, isOk_text_iff level v]

end

end Json

/-! ## Reports -/

namespace JsonValue

/-- The fields of an object. -/
def fields? : JsonValue → Option (Entries JsonValue)
  | .object fields => some fields
  | _ => none

/-- The items of an array. -/
def items? : JsonValue → Option (List JsonValue)
  | .array items => some items
  | _ => none

/-- A truth value. -/
def bool? : JsonValue → Option Bool
  | .bool b => some b
  | _ => none

/-- A text. -/
def str? : JsonValue → Option String
  | .str s => some s
  | _ => none

/-- A whole number. -/
def int? : JsonValue → Option Int
  | .number ⟨n, 0⟩ => some n
  | _ => none

/-- A value that may be missing: null, or what `read` takes. -/
def nullOr {α : Type} (read : JsonValue → Option α) : JsonValue → Option (Option α)
  | .null => some none
  | v => (read v).map some

/-- The finding that an object denotes. -/
def diagnostic? (v : JsonValue) : Option Diagnostic := do
  let fields ← v.fields?
  let file ← (← fields.get? "file").str?
  let kind ← DiagnosticKind.ofWord? (← (← fields.get? "kind").str?)
  let message ← (← fields.get? "message").str?
  let line ← (← fields.get? "line").nullOr int?
  let field ← (← fields.get? "field").nullOr str?
  let suggestion ← (← fields.get? "suggestion").nullOr str?
  return { file, kind, message, line, field, suggestion }

end JsonValue

/-- What a program finds in a report. -/
structure ReportData where
  valid : Bool
  errorCount : Int
  errors : List Diagnostic
  deriving DecidableEq

/-- Reads a report. -/
def ReportData.ofText? (text : String) : Option ReportData := do
  let fields ← (← JsonValue.ofText? text).fields?
  let valid ← (← fields.get? "valid").bool?
  let errorCount ← (← fields.get? "error_count").int?
  let errors ← (← (← fields.get? "errors").items?).mapM JsonValue.diagnostic?
  return { valid, errorCount, errors }

/-- A text that may be missing is read back. -/
theorem nullOr_ofText? (s : Option String) :
    (Json.ofText? s).value.nullOr JsonValue.str? = some s := by
  cases s <;> rfl

/-- A line that may be missing is read back. -/
theorem nullOr_line (line : Option Int) :
    ((line.map Json.int).getD .null).value.nullOr JsonValue.int? = some line := by
  cases line <;> rfl

/-- A finding is read back from its object. -/
theorem diagnostic?_json (d : Diagnostic) : d.json.value.diagnostic? = some d := by
  have hvalue : d.json.value = .object
      [("file", .str d.file), ("kind", .str d.kind.word), ("message", .str d.message),
       ("line", ((d.line.map Json.int).getD .null).value), ("field", (Json.ofText? d.field).value),
       ("suggestion", (Json.ofText? d.suggestion).value)] := rfl
  unfold JsonValue.diagnostic?
  rw [hvalue]
  simp [JsonValue.fields?, JsonValue.str?, Table.get?, nullOr_ofText?, nullOr_line,
    DiagnosticKind.ofWord?_word]

/-- Findings are read back one by one. -/
theorem mapM_diagnostic?_json (ds : List Diagnostic) :
    (Json.itemValues (ds.map Diagnostic.json)).mapM JsonValue.diagnostic? = some ds := by
  induction ds with
  | nil => rfl
  | cons d ds ih =>
    rw [List.map_cons, Json.itemValues, List.mapM_cons, diagnostic?_json, ih]
    rfl

/-- A report is read back. -/
theorem ofText?_jsonReport {ds : List Diagnostic} {text : String} (h : jsonReport ds = .ok text) :
    ReportData.ofText? text = some ⟨ds.isEmpty, ds.length, ds⟩ := by
  have hread : JsonValue.ofText? text = some (.object
      [("valid", .bool ds.isEmpty), ("error_count", .number ⟨ds.length, 0⟩),
       ("errors", .array (Json.itemValues (ds.map Diagnostic.json)))]) :=
    ofText?_text h
  unfold ReportData.ofText?
  rw [hread]
  simp [JsonValue.fields?, JsonValue.bool?, JsonValue.int?, JsonValue.items?, Table.get?,
    mapM_diagnostic?_json]

/-- The one whole number of a finding is its line. -/
theorem wholeNumbers_json (d : Diagnostic) : d.json.wholeNumbers = d.line.toList := by
  obtain ⟨file, kind, message, line, field, suggestion⟩ := d
  cases line <;> cases field <;> cases suggestion <;> rfl

/-- The whole numbers of several findings are their lines. -/
theorem wholeNumbersOfItems_json (ds : List Diagnostic) :
    Json.wholeNumbersOfItems (ds.map Diagnostic.json) = ds.flatMap fun d => d.line.toList := by
  induction ds with
  | nil => rfl
  | cons d ds ih =>
    rw [List.map_cons, Json.wholeNumbersOfItems, wholeNumbers_json, ih, List.flatMap_cons]

/-- There is a report unless a finding has a line that is too long. -/
theorem isOk_jsonReport_iff (ds : List Diagnostic) :
    IsOk (jsonReport ds) ↔ ∀ d ∈ ds, d.HasShortLine := by
  have hnumbers : (Json.object [("valid", .bool ds.isEmpty), ("error_count", .count ds.length),
      ("errors", .array (ds.map Diagnostic.json))]).wholeNumbers
      = ds.flatMap fun d => d.line.toList := by
    rw [← wholeNumbersOfItems_json]
    simp [Json.wholeNumbers, Json.wholeNumbersOfFields]
  unfold jsonReport
  rw [Json.isOk_text_iff, hnumbers]
  unfold Diagnostic.HasShortLine AreShort
  simp only [List.mem_flatMap, forall_exists_index, and_imp]
  exact ⟨fun h d hd n hn => h n d hd hn, fun h n d hd hn => h d hd n hn⟩

/-- A report that gives back some findings: it is a text of JSON, from which a program reads whether
there are no findings, how many there are, and the findings themselves with all that they tell, in
their order; and no other findings have the same report. -/
structure GivesBack (ds : List Diagnostic) (text : String) : Prop where
  isJson : ∃ v, JsonValue.ofText? text = some v
  data : ReportData.ofText? text = some ⟨ds.isEmpty, ds.length, ds⟩
  unique : ∀ es, jsonReport es = .ok text → es = ds

/-- Every report gives back its findings. -/
theorem givesBack_jsonReport {ds : List Diagnostic} {text : String}
    (h : jsonReport ds = .ok text) : GivesBack ds text := by
  refine ⟨⟨_, ofText?_text h⟩, ofText?_jsonReport h, fun es hes => ?_⟩
  have hread := ofText?_jsonReport hes
  rw [ofText?_jsonReport h] at hread
  exact (congrArg ReportData.errors (Option.some.inj hread)).symm

/-- Findings that have a report, from which they are read back. -/
def IsReadBack (ds : List Diagnostic) : Prop :=
  ∃ text, jsonReport ds = .ok text ∧ GivesBack ds text

/-- **Findings are read back from their report, if their lines can be written.** Findings have a
report that gives them back exactly if none of them has a line of more than 4300 digits. Otherwise
the report is refused, and there is no text at all. -/
theorem jsonReport_isReadBack_iff (ds : List Diagnostic) :
    (IsReadBack ds ↔ ∀ d ∈ ds, d.HasShortLine)
      ∧ (jsonReport ds = .error .mk ↔ ∃ d ∈ ds, ¬ d.HasShortLine) := by
  have hwritten := isOk_jsonReport_iff ds
  constructor
  · rw [← hwritten]
    constructor
    · rintro ⟨text, htext, -⟩
      exact ⟨text, htext⟩
    · rintro ⟨text, htext⟩
      exact ⟨text, htext, givesBack_jsonReport htext⟩
  · constructor
    · intro hrefused
      by_contra hno
      push Not at hno
      obtain ⟨text, htext⟩ := hwritten.mpr hno
      rw [hrefused] at htext
      cases htext
    · rintro ⟨d, hd, hlong⟩
      exact eq_error_of_not_isOk fun hok => hlong (hwritten.mp hok d hd)

/-- The least whole number of more than 4300 digits. -/
def leastLong : Nat :=
  Decimal.powerOfTen maxDigits

/-- A finding at a line of so many digits. -/
def longLine : Diagnostic :=
  { file := "a.md", kind := .unknownKey, message := "m", line := some leastLong }

/-- The finding has no report, so it is not read back from one. -/
theorem not_isReadBack_longLine :
    jsonReport [longLine] = .error .mk ∧ ¬ IsReadBack [longLine] := by
  have hlong : ¬ longLine.HasShortLine := by
    intro hshort
    have hline : longLine.line = some (leastLong : Int) := rfl
    have hlt := hshort leastLong (Option.mem_toList.mpr hline)
    rw [Int.natAbs_natCast] at hlt
    unfold leastLong at hlt
    exact Nat.lt_irrefl _ hlt
  have hrefused : jsonReport [longLine] = .error .mk := by
    apply eq_error_of_not_isOk
    rw [isOk_jsonReport_iff]
    exact fun hall => hlong (hall longLine List.mem_cons_self)
  refine ⟨hrefused, ?_⟩
  rintro ⟨text, htext, -⟩
  rw [hrefused] at htext
  cases htext

end FrontMatter
