import FrontMatter.Proofs.LongNumbers
import FrontMatter.Proofs.RuleFindings

/-!
# `FrontMatter.Proofs.QuotedDates` — a date may stand in quotes or not

A date without quotes is read as a day if it names one, and as a text if it does not; a date in
quotes is always read as a text. The rules look at the date of the last change only to see whether
it names a day, so a block with a date in quotes has the findings that it has without the quotes.

## Contents

* `IsCalendarDay`, `isDay_iff`: the days of the calendar, told without tests.
* `IsDayForm`, `ofPlain_dayForm`, `makes_dayForm`: what a date without quotes is read as.
* `Subject.Alike`, `Subject.Alike.checkMapping_eq`: mappings that the rules cannot tell apart.
* `datedText`, `exists_isDated`: blocks with a date among texts in quotes.
* `checkDocument_quotedDate`: the findings with and without quotes.
-/

namespace FrontMatter

open Calendar (Date)
open Yaml (EntryLine ScalarText)

/-! ## Days of the calendar -/

namespace Calendar

/-- The leap years. -/
def IsLeapYear (year : Nat) : Prop :=
  4 ∣ year ∧ (100 ∣ year → 400 ∣ year)

/-- Three numbers that are a day of the years 1 to 9999. -/
def IsCalendarDay (year month day : Nat) : Prop :=
  (1 ≤ year ∧ year ≤ 9999) ∧ (1 ≤ month ∧ month ≤ 12) ∧ (1 ≤ day ∧ day ≤ 31)
    ∧ (month ∈ [4, 6, 9, 11] → day ≤ 30)
    ∧ (month = 2 → day ≤ 29 ∧ (day = 29 → IsLeapYear year))

/-- The test for leap years accepts them. -/
theorem isLeap_iff (year : Nat) : isLeap year = true ↔ IsLeapYear year := by
  unfold isLeap IsLeapYear
  simp only [Bool.and_eq_true, Bool.or_eq_true, beq_iff_eq, bne_iff_ne]
  omega

/-- The test for days accepts them. -/
theorem isDay_iff (year month day : Nat) :
    isDay year month day = true ↔ IsCalendarDay year month day := by
  unfold isDay daysInMonth IsCalendarDay
  rw [← isLeap_iff]
  -- February has a length of its own, which depends on the year.
  by_cases hfebruary : month = 2
  · cases isLeap year <;> simp [hfebruary] <;> omega
  · simp only [hfebruary, beq_iff_eq, Bool.or_eq_true, Bool.and_eq_true, decide_eq_true_eq,
      List.mem_cons, List.not_mem_nil, or_false, false_implies, and_true, if_false]
    split <;> omega

/-! ## Written dates -/

/-- Four, two and two digits with hyphens between them, and the numbers that they stand for. -/
def IsDayForm (cs : List Char) (year month day : Nat) : Prop :=
  ∃ ys ms ds, cs = ys ++ '-' :: (ms ++ '-' :: ds)
    ∧ Text.IsRun 4 ys year ∧ Text.IsRun 2 ms month ∧ Text.IsRun 2 ds day

variable {cs : List Char} {year month day : Nat}

/-- Such characters name the day that the numbers are, if they are one. -/
theorem IsDayForm.ofText? (h : IsDayForm cs year month day) :
    Date.ofText? (String.ofList cs) = Date.ofParts? year month day := by
  obtain ⟨ys, ms, ds, rfl, hys, hms, hds⟩ := h
  have hdate := takeDate_eq_some_iff.mpr ⟨ys, ms, ds, by rw [List.append_nil], hys, hms, hds⟩
  unfold Date.ofText?
  rw [String.toList_ofList, hdate]

/-- The day is there exactly where the numbers are a day of the calendar. -/
theorem IsDayForm.isSome_ofText?_iff (h : IsDayForm cs year month day) :
    (Date.ofText? (String.ofList cs)).isSome = true ↔ IsCalendarDay year month day := by
  rw [h.ofText?, Date.isSome_ofParts?, isDay_iff]

end Calendar

namespace Yaml

open Calendar (IsDayForm)

variable {cs : List Char} {year month day : Nat}

/-- A digit is a character of keys. -/
theorem isPlainKeyChar_of_isDigit {c : Char} (h : c.isDigit = true) : IsPlainKeyChar c :=
  .inr (.inl ((Char.isDigit_iff_toNat.mp h).imp le_iff_toNat_le.mpr le_iff_toNat_le.mpr))

/-- A date has the form of a timestamp without a time. -/
theorem stamp_of_dayForm (h : IsDayForm cs year month day) :
    Stamp.ofChars? cs = some ⟨year, month, day, true, none⟩ := by
  obtain ⟨ys, ms, ds, rfl, hys, hms, hds⟩ := h
  have hyear := Text.takeDigits_eq_some_iff.mpr
    ⟨ys, (rfl : _ = _ ++ '-' :: (ms ++ '-' :: ds)), hys⟩
  have hmonth := Text.takeDigits_eq_some_iff.mpr ⟨ms, (rfl : _ = _ ++ '-' :: ds), hms⟩
  have hday := Text.takeDigits_eq_some_iff.mpr ⟨ds, ds.append_nil.symm, hds⟩
  simp [Stamp.ofChars?, takeOneOrTwo, hyear, hmonth, hday, Text.takeChar]

/-- The characters of a date are digits and hyphens. -/
theorem isPlainKeyChar_of_dayForm (h : IsDayForm cs year month day) :
    ∀ c ∈ cs, IsPlainKeyChar c := by
  obtain ⟨ys, ms, ds, rfl, ⟨-, hys, -⟩, ⟨-, hms, -⟩, ⟨-, hds, -⟩⟩ := h
  intro c hc
  simp only [List.mem_append, List.mem_cons] at hc
  rcases hc with hc | rfl | hc | rfl | hc
  · exact isPlainKeyChar_of_isDigit (hys c hc)
  · decide
  · exact isPlainKeyChar_of_isDigit (hms c hc)
  · decide
  · exact isPlainKeyChar_of_isDigit (hds c hc)

/-- A date starts with two digits, and no digits only follow. -/
theorem exists_digits_of_dayForm (h : IsDayForm cs year month day) :
    ∃ a b rest, cs = a :: b :: rest ∧ a.isDigit = true ∧ b.isDigit = true
      ∧ '-' ∈ rest ∧ ∃ more, rest.dropWhile isDigitOrLine = '-' :: more := by
  obtain ⟨ys, ms, ds, rfl, ⟨hlength, hys, -⟩, -, -⟩ := h
  match ys, hlength with
  | [a, b, c, e], _ =>
    have hc := hys c (by simp)
    have he := hys e (by simp)
    exact ⟨a, b, _, rfl, hys a (by simp), hys b (by simp), by simp,
      ms ++ '-' :: ds, by simp [List.dropWhile, isDigitOrLine, hc, he]⟩

/-- A date is a word. -/
theorem isWord_of_dayForm (h : IsDayForm cs year month day) : IsWord cs := by
  have hchars := isPlainKeyChar_of_dayForm h
  obtain ⟨a, b, rest, rfl, ha, -⟩ := exists_digits_of_dayForm h
  refine .mk ?_ hchars
  rintro rfl
  exact absurd ha (by decide)

/-- A digit is none of the other characters. -/
theorem ne_of_isDigit {a c : Char} (ha : a.isDigit = true) (hc : c.isDigit = false) : a ≠ c := by
  rintro rfl
  rw [ha] at hc
  cases hc

/-- A text that starts with a digit is none of some words that do not. -/
theorem not_contains_of_isDigit {a : Char} (ha : a.isDigit = true) (rest : List Char)
    {words : List String}
    (hwords : (words.all fun w => w.toList.head?.all fun c => !c.isDigit) = true) :
    words.contains (String.ofList (a :: rest)) = false := by
  refine not_contains_ofList ?_ rest
  intro w hw hhead
  have hnone := List.all_eq_true.mp hwords w hw
  rw [hhead] at hnone
  simp [ha] at hnone

/-- A digit is no sign. -/
theorem dropSign_of_isDigit {a : Char} (ha : a.isDigit = true) (rest : List Char) :
    dropSign (a :: rest) = a :: rest := by
  unfold dropSign
  split
  · next heq => exact absurd (List.cons.inj heq).1 (ne_of_isDigit ha (by decide))
  · next heq => exact absurd (List.cons.inj heq).1 (ne_of_isDigit ha (by decide))
  · rfl

/-- A date has not the form of a double, which would go on after its first digits with a point or
an exponent. -/
theorem isFloatForm_dayForm (h : IsDayForm cs year month day) :
    isFloatForm .current cs = false := by
  obtain ⟨a, b, rest, rfl, ha, hb, -, more, hmore⟩ := exists_digits_of_dayForm h
  have hpoint : a ≠ '.' := ne_of_isDigit ha (by decide)
  have hdigit : isDigitOrLine b = true := by simp [isDigitOrLine, hb]
  unfold isFloatForm
  rw [dropSign_of_isDigit ha]
  simp [isDigitFloat, afterDigits?, ha, hdigit, hmore, isExponent, isPointFloat, hpoint,
    show Version.current.isOld = false from rfl]

/-- It has not the form of a whole number either, in which there are no hyphens. -/
theorem isIntForm_dayForm (h : IsDayForm cs year month day) : isIntForm .current cs = false := by
  obtain ⟨a, b, rest, rfl, ha, hb, hhyphen, -⟩ := exists_digits_of_dayForm h
  have hrun : isRun isDigitOrLine (a :: b :: rest) = false := by
    have hall : ¬ (a :: b :: rest).all isDigitOrLine = true := by
      intro hall
      exact absurd (List.all_eq_true.mp hall '-' (by simp [hhyphen])) (by decide)
    simp [isRun, hall]
  -- The letter of another base would be the second character.
  have hsecond : ∀ {c more}, a :: b :: rest = '0' :: c :: more → ¬ c.isDigit = false :=
    fun heq hc => ne_of_isDigit hb hc (List.cons.inj (List.cons.inj heq).2).1
  unfold isIntForm isIntBody
  rw [dropSign_of_isDigit ha]
  split
  · next heq => exact absurd (by decide) (hsecond heq)
  · next heq => exact absurd (by decide) (hsecond heq)
  · rw [if_neg (by decide)]
    split
    · next heq => exact absurd (by decide) (hsecond heq)
    · exact hrun

/-- A date has the form of a timestamp, and of nothing that is looked for before. -/
theorem ofPlain_dayForm (h : IsDayForm cs year month day) :
    Tag.ofPlain .current (String.ofList cs) = .timestamp := by
  have hstamp : isTimestampForm cs = true := by
    unfold isTimestampForm
    rw [stamp_of_dayForm h]
    rfl
  have hbreak := dropFinalBreak_of_isPlainKeyChar (isPlainKeyChar_of_dayForm h)
  have hfloat := isFloatForm_dayForm h
  have hint := isIntForm_dayForm h
  obtain ⟨a, b, rest, rfl, ha, -⟩ := exists_digits_of_dayForm h
  have hbool := @not_contains_of_isDigit a ha (b :: rest) (boolWords .current) (by decide)
  have hnull := @not_contains_of_isDigit a ha (b :: rest) nullWords (by decide)
  have hmerge := @not_contains_of_isDigit a ha (b :: rest) ["<<"] (by decide)
  simp only [List.contains_cons, List.contains_nil, Bool.or_false] at hmerge
  unfold Tag.ofPlain
  rw [String.toList_ofList]
  dsimp only
  rw [hbreak]
  unfold Tag.ofForm?
  simp only [hbool, hfloat, hint, hmerge, hnull, ha, hstamp, Bool.and_false, Bool.false_and,
    Bool.and_self, Bool.false_eq_true, if_false, if_true]
  rfl

/-- What a date is read as: a day if it stands without quotes and names one, and a text
otherwise. -/
def dateScalar (t : ScalarText) : Scalar :=
  match if t.plain then Date.ofText? t.text else none with
  | some d => .date d
  | none => .str t.text

/-- A date without quotes makes the day that it names, or else its text. -/
theorem makes_dayForm (h : IsDayForm cs year month day) (deep : Bool) :
    ScalarText.Makes .current deep ⟨String.ofList cs, true⟩
      (dateScalar ⟨String.ofList cs, true⟩) := by
  intro fuel m
  rw [ScalarText.node_of_ofPlain (ofPlain_dayForm h)]
  apply build_of_buildScalar?
  have hstamp : Stamp.ofText? (String.ofList cs) = some ⟨year, month, day, true, none⟩ := by
    unfold Stamp.ofText?
    rw [String.toList_ofList, dropFinalBreak_of_isPlainKeyChar (isPlainKeyChar_of_dayForm h)]
    exact stamp_of_dayForm h
  unfold buildScalar? dateScalar
  simp only [Node.tag, buildTimestamp, hstamp, Stamp.value, if_true, h.ofText?]
  cases Date.ofParts? year month day with
  | none =>
    simp only [bind, Option.bind, scalarText_scalar]
    rfl
  | some d => rfl

end Yaml

/-! ## Mappings that the rules cannot tell apart -/

/-- Two mappings of one file that have the same keys at the same lines. Their values are the same,
except for the dates of the last change, which name a day in both or in neither. -/
structure Subject.Alike (s t : Subject) : Prop where
  file : s.file = t.file
  kind : s.kind = t.kind
  schema : s.schema = t.schema
  context : s.context = t.context
  lines : ∀ k, s.lines.get? k = t.lines.get? k
  keys : s.entries.keys = t.entries.keys
  values : ∀ k, k ≠ "last_modified" → s.entries.get? k = t.entries.get? k
  dates : (s.entries.get? "last_modified").map Value.isIsoDate
    = (t.entries.get? "last_modified").map Value.isIsoDate

/-- Rules that give the same one by one give the same together. -/
theorem runRules_congr {s t : Subject} {rules : List Rule} (h : ∀ r ∈ rules, r s = r t) :
    runRules rules s = runRules rules t := by
  induction rules with
  | nil => rfl
  | cons r rules ih =>
    rw [runRules_cons, runRules_cons, h r List.mem_cons_self,
      ih fun q hq => h q (List.mem_cons_of_mem r hq)]

namespace Subject.Alike

variable {s t : Subject} (h : s.Alike t)

include h

/-- A finding about one of them is a finding about the other one. -/
theorem finding_eq : s.finding = t.finding := by
  funext kind field message suggestion
  unfold Subject.finding
  rw [h.file, h.lines]

/-- They have the same keys. -/
theorem holds_eq (k : String) : s.entries.holds k = t.entries.holds k := by
  rw [Bool.eq_iff_iff, Table.holds_iff, Table.holds_iff, h.keys]

/-- The same keys are missing. -/
theorem requiredKeys_eq : requiredKeys s = requiredKeys t := by
  unfold requiredKeys
  simp only [h.finding_eq, h.holds_eq, h.schema, h.kind]

/-- The same keys are not allowed. -/
theorem unknownKeys_eq : unknownKeys s = unknownKeys t := by
  unfold unknownKeys
  simp only [h.finding_eq, h.keys, h.schema]

/-- A rule for another field that does not look at the rest of the mapping, but for the context,
gives the same. -/
theorem fieldRule_eq (kind : DiagnosticKind) {field : String} (hfield : field ≠ "last_modified")
    (passes : Context → Value → Bool)
    (words : Value → Except TooLong (String × String)) :
    fieldRule kind field (fun u v => passes u.context v) (fun _ v => words v) s
      = fieldRule kind field (fun u v => passes u.context v) (fun _ v => words v) t := by
  unfold fieldRule
  simp only [h.values field hfield, h.finding_eq, h.context]

/-- The rule for the date sees the same. -/
theorem lastModified_eq : lastModified s = lastModified t := by
  have hdates := h.dates
  unfold lastModified fieldRule
  rw [h.finding_eq]
  cases hs : s.entries.get? "last_modified" with
  | none =>
    rw [hs] at hdates
    rw [Option.map_eq_none_iff.mp hdates.symm]
  | some v =>
    rw [hs] at hdates
    obtain ⟨w, hw, hsame⟩ := Option.map_eq_some_iff.mp hdates.symm
    rw [hw]
    simp only [hsame]

/-- The rule for the version gives the same. -/
theorem version_eq : version s = version t := by
  unfold version
  simp only [h.values "version" (by decide), h.finding_eq, h.context]

/-- The rules before the claim give the same. -/
theorem rulesBeforeClaim_eq :
    runRules (rulesBeforeClaim s.kind) s = runRules (rulesBeforeClaim t.kind) t := by
  have hid : idFormat s = idFormat t :=
    h.fieldRule_eq _ (by decide) (fun _ v => v.isSlug) _
  have hderived : derivedFromFormat s = derivedFromFormat t :=
    h.fieldRule_eq _ (by decide) (fun _ v => v.isSlug) _
  have henforced : enforcedByFormat s = enforcedByFormat t :=
    h.fieldRule_eq _ (by decide) (fun _ v => v.isNonEmptyText) _
  rw [h.kind]
  apply runRules_congr
  cases t.kind <;>
    simp [rulesBeforeClaim, h.requiredKeys_eq, hid, h.lastModified_eq, h.version_eq, hderived,
      henforced]

/-- So do the rules after it. -/
theorem rulesAfterClaim_eq :
    runRules (rulesAfterClaim s.kind) s = runRules (rulesAfterClaim t.kind) t := by
  have hreference : tenetReference s = tenetReference t :=
    h.fieldRule_eq _ (by decide) (fun c v => (v.str?.map c.tenetIds.contains).getD false) _
  rw [h.kind]
  apply runRules_congr
  cases t.kind <;> simp [rulesAfterClaim, h.unknownKeys_eq, hreference]

/-- They make the same claim. -/
theorem claimId_eq (registry : Registry) : claimId s registry = claimId t registry := by
  unfold claimId duplicateFinding
  simp only [h.values "id" (by decide), h.file, h.finding_eq]

/-- The check gives the same findings about both, and leaves the same owners. -/
theorem checkMapping_eq (registry : Registry) :
    checkMapping s registry = checkMapping t registry := by
  unfold checkMapping
  rw [h.rulesBeforeClaim_eq, h.rulesAfterClaim_eq, h.claimId_eq]

end Subject.Alike

/-! ## Blocks with a date -/

/-- The key of the date. -/
def dateKey : String := "last_modified"

/-- A block with a date without quotes, between lines of texts in quotes. -/
def datedText (before : List (String × String)) (date : String)
    (after : List (String × String)) : String :=
  String.ofList (Text.joinLines (before.map quotedLine
    ++ ("last_modified: ".toList ++ date.toList) :: after.map quotedLine))

/-- The line of a date without quotes, with what it is read as. -/
def plainDateEntry (date : String) : EntryLine :=
  ⟨dateKey.toList, date.toList, ⟨date, true⟩⟩

/-- Keys and texts of lines around a date: all as people write them, and none for the date. -/
structure AreOtherLines (pairs : List (String × String)) : Prop where
  keys : ∀ p ∈ pairs, IsWrittenKey p.1 ∧ p.1 ≠ dateKey
  texts : ∀ p ∈ pairs, ∀ c ∈ p.2.toList, Yaml.IsPrintable c

/-- The key of the date is one that people write. -/
theorem isWrittenKey_dateKey : IsWrittenKey dateKey where
  plain := @Yaml.IsPlainKey.mk 'l' ['a', 's', 't', '_', 'm', 'o', 'd', 'i', 'f', 'i', 'e', 'd']
    (by decide) (by simp [Yaml.IsPlainKeyChar, Yaml.IsLowercase])
  length := by decide
  noWord := by decide

section Blocks

variable {before after : List (String × String)} {date : String} {year month day : Nat}

/-- A date without quotes is read. -/
theorem isRead_plainDateEntry (h : Calendar.IsDayForm date.toList year month day) :
    (plainDateEntry date).IsRead where
  key := isWrittenKey_dateKey.plain
  near := by
    show dateKey.toList.length ≤ Yaml.Lexer.keyReach
    decide
  printable := fun c hc => (Yaml.isPlainKeyChar_of_dayForm h c hc).isPrintable
  value := by
    have hreads := EntryLine.readsValue_word dateKey.toList (Yaml.isWord_of_dayForm h)
    rwa [String.ofList_toList] at hreads

/-- The lines of a block around the line of the date. -/
def linesAround (before : List (String × String)) (middle : EntryLine)
    (after : List (String × String)) : List EntryLine :=
  before.map quotedEntry ++ middle :: after.map quotedEntry

/-- What holds of the line of the date and of the others holds of all lines of the block. -/
theorem forall_mem_linesAround {P : EntryLine → Prop} {middle : EntryLine} (hmiddle : P middle)
    (hother : ∀ p ∈ before ++ after, P (quotedEntry p)) :
    ∀ e ∈ linesAround before middle after, P e := by
  intro e he
  simp only [linesAround, List.mem_append, List.mem_cons, List.mem_map] at he
  rcases he with ⟨p, hp, rfl⟩ | rfl | ⟨p, hp, rfl⟩
  · exact hother p (List.mem_append_left _ hp)
  · exact hmiddle
  · exact hother p (List.mem_append_right _ hp)

/-- The keys of the block. -/
theorem map_name_linesAround {middle : EntryLine} (hname : middle.name = dateKey) :
    (linesAround before middle after).map EntryLine.name
      = Table.keys before ++ dateKey :: Table.keys after := by
  simp [linesAround, hname, name_quotedEntry, Table.keys, Function.comp_def]

/-- The entries of the block. -/
theorem map_entry_linesAround {middle : EntryLine} (hname : middle.name = dateKey) :
    (linesAround before middle after).map (fun e => (e.name, Yaml.dateScalar e.value))
      = before.map (fun p => (p.1, Scalar.str p.2))
        ++ (dateKey, Yaml.dateScalar middle.value) :: after.map fun p => (p.1, Scalar.str p.2) := by
  have hquoted : ∀ p, Yaml.dateScalar (quotedEntry p).value = .str p.2 := fun _ => rfl
  simp [linesAround, hname, name_quotedEntry, hquoted, Function.comp_def]

/-- An entry changes nothing about other keys. -/
theorem get?_around_of_ne {xs ys : List (String × Scalar)} {key k : String} (v : Scalar)
    (hk : k ≠ key) : Table.get? (xs ++ (key, v) :: ys) k = Table.get? (xs ++ ys) k := by
  have hother : (key == k) = false := beq_eq_false_iff_ne.mpr fun h => hk h.symm
  unfold Table.get?
  rw [List.find?_append, List.find?_append, List.find?_cons, hother]

/-- It is the first one of its key if none before it has the key. -/
theorem get?_around_self {xs ys : List (String × Scalar)} {key : String} (v : Scalar)
    (hnew : ∀ e ∈ xs, e.1 ≠ key) : Table.get? (xs ++ (key, v) :: ys) key = some v := by
  have hnone : xs.find? (fun e => e.1 == key) = none := by
    rw [List.find?_eq_none]
    exact fun e he => by simpa using hnew e he
  unfold Table.get?
  rw [List.find?_append, hnone, List.find?_cons, beq_self_eq_true]
  rfl

/-- A document that was read as a mapping of texts and one date, each key at its first line. -/
structure IsDated (before : List (String × String)) (date : Scalar)
    (after : List (String × String)) (doc : Document) (entries : Entries Value) : Prop where
  errors : doc.errors = []
  content : doc.content = .mapping entries
  keys : entries.keys = (Table.keys before ++ dateKey :: Table.keys after).eraseDups
  texts : ∀ k, k ≠ dateKey → entries.get? k = (Table.get? (before ++ after) k).map Value.str
  date : entries.get? dateKey = some (.scalar date)
  lines : ∀ k, doc.lines.get? k = ((Table.keys before ++ dateKey :: Table.keys after).findIdx?
    (· == k)).map fun i => ((i + 1 : Nat) : Int)

/-- A block with a date is read as the mapping with the date among the texts. -/
theorem exists_isDated (hother : AreOtherLines (before ++ after)) {middle : EntryLine}
    (hmiddle : middle.IsRead) (hname : middle.name = dateKey)
    (hmakes : middle.value.Makes .current false (Yaml.dateScalar middle.value))
    (hcount : before.length + 1 + after.length ≤ 9000) {text : String}
    (htext : EntryLine.IsBlockOf (linesAround before middle after) text)
    (hlength : text.length ≤ Yaml.maxLength) :
    ∃ entries, IsDated before (Yaml.dateScalar middle.value) after
      (Document.ofBlock (some text)) entries := by
  have hlines : linesAround before middle after ≠ [] := by simp [linesAround]
  have hread : ∀ e ∈ linesAround before middle after, e.IsRead :=
    forall_mem_linesAround hmiddle
      fun p hp => isRead_quotedEntry (hother.keys p hp).1 (hother.texts p hp)
  have hwords : ∀ e ∈ linesAround before middle after, e.name ∉ Yaml.valueWords := by
    refine forall_mem_linesAround ?_ fun p hp => ?_
    · rw [hname]
      exact isWrittenKey_dateKey.not_mem_valueWords
    · rw [name_quotedEntry]
      exact (hother.keys p hp).1.not_mem_valueWords
  have hvalues : ∀ e ∈ linesAround before middle after,
      e.value.Makes .current false (Yaml.dateScalar e.value) :=
    forall_mem_linesAround hmakes fun p _ => ScalarText.makes_quoted .current false p.2
  have hfew : (linesAround before middle after).length < Yaml.maxParts := by
    have hmax : Yaml.maxParts = 10000 := rfl
    simp only [linesAround, List.length_append, List.length_map, List.length_cons]
    omega
  obtain ⟨entries, hreading, hkeys, hget⟩ :=
    exists_reading_of_block hlines hread hwords hvalues hfew htext hlength
  rw [map_name_linesAround hname] at hkeys
  rw [map_entry_linesAround hname] at hget
  have hdocument : Document.ofBlock (some text)
      = { content := .mapping entries, lines := Block.LineMap.ofText text entries.holds } := by
    unfold Document.ofBlock
    rw [Option.map_some, hreading]
    rfl
  rw [hdocument]
  refine ⟨entries, rfl, rfl, hkeys, ?_, ?_, ?_⟩
  · intro k hk
    rw [hget, get?_around_of_ne _ hk, ← List.map_append, Table.get?_map_values Scalar.str,
      Option.map_map]
    rfl
  · rw [hget, get?_around_self _ fun e he => ?_]
    · rfl
    · obtain ⟨p, hp, rfl⟩ := List.mem_map.mp he
      exact (hother.keys p (List.mem_append_left _ hp)).2
  · intro k
    have hheld : ∀ e ∈ linesAround before middle after, entries.holds e.name = true := by
      intro e he
      rw [Table.holds_iff, hkeys, List.mem_eraseDups, ← map_name_linesAround hname]
      exact List.mem_map_of_mem he
    dsimp only
    rw [EntryLine.get?_block hlines hread htext hheld, ← map_name_linesAround hname,
      List.findIdx?_map]
    rfl

/-- In a text only the characters of a line change with the line. -/
theorem exists_joinLines_around (before after : List (List Char)) :
    ∃ pre post, ∀ line, Text.joinLines (before ++ line :: after) = pre ++ (line ++ post) := by
  unfold Text.joinLines
  induction before with
  | nil =>
    cases after with
    | nil => exact ⟨[], [], fun line => by simp⟩
    | cons next after =>
      exact ⟨[], ['\n'] ++ ['\n'].intercalate (next :: after), fun line => by
        rw [List.nil_append, List.intercalate_cons_cons, List.nil_append, List.append_assoc]⟩
  | cons first before ih =>
    obtain ⟨pre, post, hall⟩ := ih
    refine ⟨first ++ (['\n'] ++ pre), post, fun line => ?_⟩
    have hne : before ++ line :: after ≠ [] := by simp
    obtain ⟨second, others, hmore⟩ := List.exists_cons_of_ne_nil hne
    rw [List.cons_append, hmore, List.intercalate_cons_cons, ← hmore, hall]
    simp

/-- The quotes make a block longer by two characters. -/
theorem length_quotedText_date (h : Calendar.IsDayForm date.toList year month day) :
    (quotedText (before ++ (dateKey, date) :: after)).length
      = (datedText before date after).length + 2 := by
  obtain ⟨pre, post, hall⟩ :=
    exists_joinLines_around (before.map quotedLine) (after.map quotedLine)
  have hquote : '\'' ∉ date.toList :=
    fun hmem => absurd (Yaml.isPlainKeyChar_of_dayForm h _ hmem) (by decide)
  rw [← String.length_toList, ← String.length_toList, quotedText, datedText, String.toList_ofList,
    String.toList_ofList, List.map_append, List.map_cons, hall, hall, quotedLine,
    Yaml.doubled_of_not_mem hquote]
  simp only [List.length_append, List.length_cons, List.length_nil]
  have hkey : dateKey.toList.length + ": '".toList.length = "last_modified: ".toList.length + 1 :=
    rfl
  omega

/-- A date names a day with quotes exactly where it does without. -/
theorem isIsoDate_dateScalar (t : ScalarText) :
    Value.isIsoDate (.scalar (Yaml.dateScalar t)) = (Date.ofText? t.text).isSome := by
  obtain ⟨text, plain⟩ := t
  unfold Yaml.dateScalar
  cases plain with
  | false => rfl
  | true =>
    cases hdate : Date.ofText? text with
    | none => simp [hdate, Value.isIsoDate]
    | some d => simp [Value.isIsoDate]

/-- The block with the date without quotes is read. -/
theorem exists_isDated_datedText (hdate : Calendar.IsDayForm date.toList year month day)
    (hother : AreOtherLines (before ++ after)) (hcount : before.length + 1 + after.length ≤ 9000)
    {ending : String} (hending : EntryLine.EndsBlock ending.toList)
    (hlength : (datedText before date after ++ ending).length ≤ 900000) :
    ∃ entries, IsDated before (Yaml.dateScalar ⟨date, true⟩) after
      (Document.ofBlock (some (datedText before date after ++ ending))) entries := by
  refine exists_isDated hother (isRead_plainDateEntry hdate) String.ofList_toList ?_ hcount
    ⟨_, hending, ?_⟩ (Nat.le_trans hlength (by decide))
  · have hmakes := Yaml.makes_dayForm hdate false
    rwa [String.ofList_toList] at hmakes
  · unfold datedText linesAround
    rw [String.toList_append, String.toList_ofList, List.map_append, List.map_cons, List.map_map,
      List.map_map]
    simp only [Function.comp_def, chars_quotedEntry]
    rfl

/-- The block with the date in quotes is read. -/
theorem exists_isDated_quotedText (hdate : Calendar.IsDayForm date.toList year month day)
    (hother : AreOtherLines (before ++ after)) (hcount : before.length + 1 + after.length ≤ 9000)
    {ending : String} (hending : EntryLine.EndsBlock ending.toList)
    (hlength : (datedText before date after ++ ending).length ≤ 900000) :
    ∃ entries, IsDated before (Yaml.dateScalar ⟨date, false⟩) after
      (Document.ofBlock (some (quotedText (before ++ (dateKey, date) :: after) ++ ending)))
      entries := by
  have hmax : Yaml.maxLength = 1000000 := rfl
  refine @exists_isDated before after hother (quotedEntry (dateKey, date)) ?_
    (name_quotedEntry _) (ScalarText.makes_quoted .current false date) hcount _
    ⟨_, hending, ?_⟩ ?_
  · exact isRead_quotedEntry isWrittenKey_dateKey
      fun c hc => (Yaml.isPlainKeyChar_of_dayForm hdate c hc).isPrintable
  · rw [String.toList_append, toList_quotedText, List.map_append, List.map_cons]
    rfl
  · rw [String.length_append] at hlength ⊢
    rw [length_quotedText_date hdate]
    omega

/-- Two documents with the same texts, and with dates that name a day in both or in neither, are
mappings that the rules cannot tell apart. -/
theorem IsDated.alike {doc doc' : Document} {entries entries' : Entries Value} {v w : Scalar}
    (h : IsDated before v after doc entries) (h' : IsDated before w after doc' entries')
    (hsame : Value.isIsoDate (.scalar v) = Value.isIsoDate (.scalar w)) (file : String)
    (kind : DocumentKind) (schema : Schema) (context : Context) :
    Subject.Alike ⟨file, kind, schema, context, entries, doc.lines⟩
      ⟨file, kind, schema, context, entries', doc'.lines⟩ where
  file := rfl
  kind := rfl
  schema := rfl
  context := rfl
  lines k := (h.lines k).trans (h'.lines k).symm
  keys := h.keys.trans h'.keys.symm
  values k hk := (h.texts k hk).trans (h'.texts k hk).symm
  dates := by
    have hdate : entries.get? "last_modified" = some (.scalar v) := h.date
    have hdate' : entries'.get? "last_modified" = some (.scalar w) := h'.date
    rw [hdate, hdate', Option.map_some, Option.map_some, hsame]

/-- All values of such a document can be quoted in messages. -/
theorem IsDated.showsAll {doc : Document} {entries : Entries Value} {v : Scalar}
    (h : IsDated before v after doc entries) (file : String) (kind : DocumentKind)
    (schema : Schema) (context : Context) :
    (⟨file, kind, schema, context, entries, doc.lines⟩ : Subject).ShowsAll := by
  have hshows : ∀ k, k ≠ dateKey →
      (⟨file, kind, schema, context, entries, doc.lines⟩ : Subject).Shows k := by
    intro k hk w hw
    rw [show entries.get? k = _ from h.texts k hk] at hw
    obtain ⟨t, -, rfl⟩ := Option.map_eq_some_iff.mp hw
    exact isShown_str t
  exact ⟨⟨hshows "id" (by decide), hshows "version" (by decide)⟩,
    fun _ => hshows "derived_from" (by decide)⟩

/-- The findings about such a document tell that the date is no day exactly where it is none. -/
theorem IsDated.exists_findings {doc : Document} {entries : Entries Value} {v : Scalar}
    (h : IsDated before v after doc entries) {schemas : SchemaTable} {kind : DocumentKind}
    {schema : Schema} (hschema : schemas.get? kind = some schema) (context : Context)
    (file : String) (registry : Registry) :
    ∃ ds, (checkDocument schemas context kind.word file doc registry).1 = .ok ds
      ∧ ((∃ d ∈ ds, d.kind = .invalidFormat ∧ d.field = some dateKey)
        ↔ Value.isIsoDate (.scalar v) = false) := by
  have hnodup : entries.keys.Nodup := by
    have hfirsts := Table.nodup_keys_firsts
      ((Table.keys before ++ dateKey :: Table.keys after).map fun k => (k, ()))
    rw [Table.keys_firsts] at hfirsts
    rw [h.keys]
    simpa [Table.keys, Function.comp_def] using hfirsts
  rw [checkDocument_eq_checkMapping hschema context file h.errors h.content registry]
  obtain ⟨ds, hds⟩ := isOk_checkMapping hnodup (h.showsAll file kind schema context)
  refine ⟨ds, hds, ?_⟩
  rw [checkMapping_complete hds hnodup (by decide)]
  have hdate : entries.get? "last_modified" = some (.scalar v) := h.date
  rw [← Bool.not_eq_true, isIsoDate_iff]
  constructor
  · -- Only the rule for the date tells this kind of break at its key.
    intro hbreaks
    generalize hfield : dateKey = field at hbreaks
    cases hbreaks with
    | dateForm hw hform =>
      obtain rfl := Option.some.inj (hdate.symm.trans hw)
      exact hform
    | idForm | versionForm | derivedForm | enforcedForm => exact absurd hfield (by decide)
  · exact fun hform => .dateForm hdate hform

/-- Quoting a date does not change the findings about a block, with or without a line feed at its
end: they are the same ones with and without quotes, whatever the schemas, the context and the
owners are. One of them tells that the date is no day if and only if it is none of the calendar. -/
theorem checkDocument_quotedDate (hdate : Calendar.IsDayForm date.toList year month day)
    (hother : AreOtherLines (before ++ after)) (hcount : before.length + 1 + after.length ≤ 9000)
    {ending : String} (hending : ending = "" ∨ ending = "\n")
    (hlength : (datedText before date after ++ ending).length ≤ 900000) :
    let plain := Document.ofBlock (some (datedText before date after ++ ending))
    let quoted := Document.ofBlock
      (some (quotedText (before ++ (dateKey, date) :: after) ++ ending))
    plain.errors = [] ∧ quoted.errors = []
      ∧ ∀ (schemas : SchemaTable) (context : Context) (kind : DocumentKind) (file : String)
          (registry : Registry),
        checkDocument schemas context kind.word file plain registry
            = checkDocument schemas context kind.word file quoted registry
          ∧ ∀ schema, schemas.get? kind = some schema →
            ∃ ds, (checkDocument schemas context kind.word file plain registry).1 = .ok ds
              ∧ ((∃ d ∈ ds, d.kind = .invalidFormat ∧ d.field = some dateKey)
                ↔ ¬ Calendar.IsCalendarDay year month day) := by
  intro plain quoted
  have hends : EntryLine.EndsBlock ending.toList := by
    rcases hending with rfl | rfl
    · exact .none
    · exact .feed
  obtain ⟨entries, hplain⟩ := exists_isDated_datedText hdate hother hcount hends hlength
  obtain ⟨entries', hquoted⟩ := exists_isDated_quotedText hdate hother hcount hends hlength
  have hsame : Value.isIsoDate (.scalar (Yaml.dateScalar ⟨date, true⟩))
      = Value.isIsoDate (.scalar (Yaml.dateScalar ⟨date, false⟩)) := by
    rw [isIsoDate_dateScalar, isIsoDate_dateScalar]
  refine ⟨hplain.errors, hquoted.errors, fun schemas context kind file registry => ⟨?_, ?_⟩⟩
  · cases hschema : schemas.get? kind with
    | none =>
      -- Without a schema neither of them is checked.
      simp only [checkDocument, SchemaTable.find, kindOfName, DocumentKind.ofWord?_word, hschema,
        bind, Except.bind, throw, throwThe, MonadExceptOf.throw]
    | some schema =>
      rw [checkDocument_eq_checkMapping hschema context file hplain.errors hplain.content,
        checkDocument_eq_checkMapping hschema context file hquoted.errors hquoted.content,
        (hplain.alike hquoted hsame file kind schema context).checkMapping_eq]
  · intro schema hschema
    obtain ⟨ds, hds, hreported⟩ := hplain.exists_findings hschema context file registry
    refine ⟨ds, hds, hreported.trans ?_⟩
    have hday := hdate.isSome_ofText?_iff
    rw [String.ofList_toList] at hday
    rw [isIsoDate_dateScalar, ← hday, Bool.not_eq_true]

/-- The 29th of February of a year that is no leap year, after an id. -/
theorem checkDocument_quotedDate_sample :
    datedText [("id", "a")] "2025-02-29" [] ++ "\n" = "id: 'a'\nlast_modified: 2025-02-29\n"
      ∧ quotedText [("id", "a"), ("last_modified", "2025-02-29")] ++ "\n"
        = "id: 'a'\nlast_modified: '2025-02-29'\n"
      ∧ ∃ ds, (checkDocument .standard ⟨"1.0.0", []⟩ "tenet" "a.md"
          (Document.ofBlock (some (datedText [("id", "a")] "2025-02-29" [] ++ "\n"))) {}).1 = .ok ds
        ∧ (checkDocument .standard ⟨"1.0.0", []⟩ "tenet" "a.md"
          (Document.ofBlock (some (quotedText [("id", "a"), ("last_modified", "2025-02-29")]
            ++ "\n"))) {}).1 = .ok ds
        ∧ ∃ d ∈ ds, d.kind = .invalidFormat ∧ d.field = some "last_modified" := by
  have hid : IsWrittenKey "id" :=
    { plain := @Yaml.IsPlainKey.mk 'i' ['d'] (by decide)
        (by simp [Yaml.IsPlainKeyChar, Yaml.IsLowercase])
      length := by decide
      noWord := by decide }
  have hdate : Calendar.IsDayForm "2025-02-29".toList 2025 2 29 :=
    ⟨['2', '0', '2', '5'], ['0', '2'], ['2', '9'], rfl, ⟨rfl, by simp, rfl⟩,
      ⟨rfl, by simp, rfl⟩, ⟨rfl, by simp, rfl⟩⟩
  have hother : AreOtherLines ([("id", "a")] ++ []) :=
    { keys := by simp [hid, dateKey]
      texts := by simp [Yaml.IsPrintable] }
  obtain ⟨-, -, hall⟩ := checkDocument_quotedDate hdate hother (by decide) (.inr rfl) (by decide)
  obtain ⟨hsame, hfindings⟩ := hall .standard ⟨"1.0.0", []⟩ .tenet "a.md" {}
  obtain ⟨ds, hds, hreported⟩ := hfindings _ rfl
  have hno : ¬ Calendar.IsCalendarDay 2025 2 29 := by
    rintro ⟨-, -, -, -, hfebruary⟩
    exact absurd ((hfebruary rfl).2 rfl) (by simp [Calendar.IsLeapYear])
  exact ⟨by decide +kernel, by decide +kernel, ds, hds, (congrArg Prod.fst hsame).symm.trans hds,
    hreported.mpr hno⟩

end Blocks

end FrontMatter
