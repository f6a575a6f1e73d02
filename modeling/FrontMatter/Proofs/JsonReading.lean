import FrontMatter.Decimal.Read
import FrontMatter.Report.Json
import FrontMatter.Text.Digits
import FrontMatter.Value.Table
import FrontMatter.Yaml.Token.Basic
import Mathlib.Data.List.Basic

/-!
# `FrontMatter.Proofs.JsonReading` — a reader of JSON

What programs find in a report is what a reader of JSON makes of it. The reader takes the whole
language: blanks between all parts, numbers with fractions and exponents, every way of escaping a
character, and characters in two halves. It turns down everything else, the halves by themselves
among it. Of the fields of an object with the same name the last one counts.

## Contents

* `JsonNumber`, `JsonValue`: the values of JSON.
* `skipJsonBlanks`: blanks.
* `readJsonChar`, `readJsonString`: texts.
* `readJsonNumber`, `readJsonScalar`: numbers and words.
* `readJsonList`, `readJsonValue`: arrays, objects and all values.
* `JsonValue.ofText?`: a text as one value.
* `readJsonChar_escapeChar`, `readJsonString_quoted`: texts are read back from their quotes.
* `readJsonNumber_int`: whole numbers are read back from their digits.
-/

namespace FrontMatter

open Text (digitsValue)
open Yaml (hexNumber isHexDigit)

/-! ## Values -/

/-- A number in decimal notation, `mantissa · 10 ^ exponent`. -/
structure JsonNumber where
  mantissa : Int
  exponent : Int
  deriving Repr, DecidableEq

/-- The values of JSON. -/
inductive JsonValue
  | null
  | bool (b : Bool)
  | number (n : JsonNumber)
  | str (s : String)
  | array (items : List JsonValue)
  | object (fields : List (String × JsonValue))

/-! ## Blanks -/

/-- A blank of JSON. -/
def isJsonBlank (c : Char) : Bool :=
  c == ' ' || c == '\t' || c == '\n' || c == '\r'

/-- Moves over blanks. -/
def skipJsonBlanks (cs : List Char) : List Char :=
  cs.dropWhile isJsonBlank

/-! ## Texts -/

/-- The character that a single letter after a backslash stands for. -/
def jsonEscapeOf? : Char → Option Char
  | '"' => some '"'
  | '\\' => some '\\'
  | '/' => some '/'
  | 'b' => some '\x08'
  | 'f' => some '\x0c'
  | 'n' => some '\n'
  | 'r' => some '\r'
  | 't' => some '\t'
  | _ => none

/-- Reads four hexadecimal digits. -/
def readJsonUnit : List Char → Option (Nat × List Char)
  | a :: b :: c :: d :: rest =>
    if [a, b, c, d].all isHexDigit then some (hexNumber [a, b, c, d], rest) else none
  | _ => none

/-- Reads the second half of a character, from its backslash on. -/
def readSecondHalf (first : Nat) : List Char → Option (Char × List Char)
  | '\\' :: 'u' :: rest =>
    match readJsonUnit rest with
    | some (n, rest) =>
      if 0xDC00 ≤ n && n ≤ 0xDFFF then
        some (Char.ofNat (0x10000 + (first - 0xD800) * 0x400 + (n - 0xDC00)), rest)
      else none
    | none => none
  | _ => none

/-- Reads what follows a backslash. -/
def readJsonEscape : List Char → Option (Char × List Char)
  | [] => none
  | c :: rest =>
    if c == 'u' then
      match readJsonUnit rest with
      | some (n, rest) =>
        if 0xD800 ≤ n && n ≤ 0xDBFF then readSecondHalf n rest
        else if 0xDC00 ≤ n && n ≤ 0xDFFF then none
        else some (Char.ofNat n, rest)
      | none => none
    else (jsonEscapeOf? c).map fun x => (x, rest)

/-- Reads one character inside quotes; control characters have to be escaped. -/
def readJsonChar : List Char → Option (Char × List Char)
  | [] => none
  | c :: rest =>
    if c == '\\' then readJsonEscape rest
    else if c.toNat < 0x20 then none
    else some (c, rest)

/-- Reads characters up to a quote; `done` holds those so far, last first. -/
def readJsonChars : Nat → List Char → List Char → Option (String × List Char)
  | 0, _, _ => none
  | fuel + 1, done, cs =>
    if cs.head? == some '"' then some (String.ofList done.reverse, cs.tail)
    else
      match readJsonChar cs with
      | some (c, rest) => readJsonChars fuel (c :: done) rest
      | none => none

/-- Reads a text from the character after its first quote on. -/
def readJsonString (cs : List Char) : Option (String × List Char) :=
  readJsonChars cs.length [] cs

/-! ## Numbers and words -/

/-- Reads digits, at least one. -/
def readJsonDigits (cs : List Char) : Option (List Char × List Char) :=
  let ds := cs.takeWhile Char.isDigit
  if ds.isEmpty then none else some (ds, cs.dropWhile Char.isDigit)

/-- Reads the digits before the point; only a zero by itself starts with a zero. -/
def readJsonWhole (cs : List Char) : Option (List Char × List Char) :=
  match readJsonDigits cs with
  | some (ds, rest) => if ds.head? == some '0' && 1 < ds.length then none else some (ds, rest)
  | none => none

/-- Reads the point and the digits after it, if there is a point. -/
def readJsonFraction : List Char → Option (List Char × List Char)
  | '.' :: rest => readJsonDigits rest
  | cs => some ([], cs)

/-- Reads the exponent, if there is one. -/
def readJsonExponent (cs : List Char) : Option (Int × List Char) :=
  if cs.head? == some 'e' || cs.head? == some 'E' then
    let (negative, body) := Decimal.splitSign cs.tail
    match readJsonDigits body with
    | some (ds, rest) => some (if negative then -digitsValue ds else digitsValue ds, rest)
    | none => none
  else some (0, cs)

/-- Reads a number. -/
def readJsonNumber (cs : List Char) : Option (JsonNumber × List Char) := do
  let negative := cs.head? == some '-'
  let (whole, rest) ← readJsonWhole (if negative then cs.tail else cs)
  let (fraction, rest) ← readJsonFraction rest
  let (exponent, rest) ← readJsonExponent rest
  let n : Int := digitsValue (whole ++ fraction)
  return (⟨if negative then -n else n, exponent - fraction.length⟩, rest)

/-- Reads a word or a number. -/
def readJsonScalar : List Char → Option (JsonValue × List Char)
  | 'n' :: 'u' :: 'l' :: 'l' :: rest => some (.null, rest)
  | 't' :: 'r' :: 'u' :: 'e' :: rest => some (.bool true, rest)
  | 'f' :: 'a' :: 'l' :: 's' :: 'e' :: rest => some (.bool false, rest)
  | cs => (readJsonNumber cs).map fun p => (.number p.1, p.2)

/-! ## Arrays and objects -/

section Lists

variable {α : Type} (readPart : List Char → Option (α × List Char)) (closing : Char)

/-- Reads parts with commas between them, up to the closing bracket. -/
def readJsonParts : Nat → List Char → Option (List α × List Char)
  | 0, _ => none
  | fuel + 1, cs => do
    let (a, rest) ← readPart cs
    match skipJsonBlanks rest with
    | [] => none
    | x :: rest =>
      if x == ',' then
        let (as, rest) ← readJsonParts fuel rest
        return (a :: as, rest)
      else if x == closing then some ([a], rest)
      else none

/-- Reads the parts after an opening bracket; there may be none. -/
def readJsonList (cs : List Char) : Option (List α × List Char) :=
  if (skipJsonBlanks cs).head? == some closing then some ([], (skipJsonBlanks cs).tail)
  else readJsonParts readPart closing cs.length cs

end Lists

/-- Reads a field: its name in quotes, a colon, and its value. -/
def readJsonField (readValue : List Char → Option (JsonValue × List Char)) (cs : List Char) :
    Option ((String × JsonValue) × List Char) :=
  match skipJsonBlanks cs with
  | '"' :: rest => do
    let (name, rest) ← readJsonString rest
    match skipJsonBlanks rest with
    | ':' :: rest =>
      let (v, rest) ← readValue rest
      return ((name, v), rest)
    | _ => none
  | _ => none

/-- Reads a value; `fuel` bounds the depth of arrays and objects. -/
def readJsonValue : Nat → List Char → Option (JsonValue × List Char)
  | 0, _ => none
  | fuel + 1, cs =>
    match skipJsonBlanks cs with
    | '"' :: rest => (readJsonString rest).map fun p => (.str p.1, p.2)
    | '[' :: rest =>
      (readJsonList (readJsonValue fuel) ']' rest).map fun p => (.array p.1, p.2)
    | '\x7b' :: rest =>
      (readJsonList (readJsonField (readJsonValue fuel)) '\x7d' rest).map fun p =>
        (.object (Table.ofList p.1), p.2)
    | rest => readJsonScalar rest

/-- A text as one value. -/
def JsonValue.ofText? (s : String) : Option JsonValue :=
  match readJsonValue s.length s.toList with
  | some (v, rest) => if (skipJsonBlanks rest).isEmpty then some v else none
  | none => none

-- A character in two halves, and the last of two fields with the same name.
example : JsonValue.ofText? "\x7b\"a\": 0, \"a\" : [-1.50e+2, \"\\ud83d\\uDE00\", [ ]] \x7d\n"
    = some (.object [("a", .array [.number ⟨-150, 0⟩, .str "😀", .array []])]) := by
  rfl

-- What is no value of JSON, or more than one.
example : ∀ s ∈ ["", "[1,]", "[1", "01", "1 2", "nul", "\"\t\"", "\"\\ud83d\"", "\x7ba: 1\x7d"],
    (JsonValue.ofText? s).isNone := by
  decide +kernel

/-! ## Blanks are moved over -/

/-- Blanks before a text are moved over. -/
theorem skipJsonBlanks_append {bs : List Char} (h : ∀ c ∈ bs, isJsonBlank c = true)
    (cs : List Char) : skipJsonBlanks (bs ++ cs) = skipJsonBlanks cs :=
  List.dropWhile_append_of_pos h

/-- Nothing else is. -/
theorem skipJsonBlanks_cons {x : Char} (h : isJsonBlank x = false) (rest : List Char) :
    skipJsonBlanks (x :: rest) = x :: rest :=
  List.dropWhile_cons_of_neg (by simp [h])

/-! ## Texts are read back -/

/-- Four hexadecimal digits are read whatever follows them. -/
theorem readJsonUnit_append {ds : List Char} {n : Nat} (h : readJsonUnit ds = some (n, []))
    (rest : List Char) : readJsonUnit (ds ++ rest) = some (n, rest) := by
  unfold readJsonUnit at h
  split at h
  · next a b c d more =>
    split at h
    · next hhex =>
      obtain ⟨rfl, rfl⟩ := Prod.mk.inj (Option.some.inj h)
      exact if_pos hhex
    · cases h
  · cases h

/-- The number of a control character is read back from its four digits. -/
theorem readJsonUnit_hexDigits : ∀ n < 0x20, readJsonUnit (Text.hexDigits 4 n) = some (n, []) := by
  decide +kernel

/-- A character is read back from the way it is written inside quotes. -/
theorem readJsonChar_escapeChar (c : Char) (rest : List Char) :
    readJsonChar (Json.escapeChar c ++ rest) = some (c, rest) := by
  unfold Json.escapeChar
  -- Seven characters are written with a letter of their own.
  iterate 7
    split
    · next h => rw [beq_iff_eq.mp h]; rfl
  split
  · next hcontrol =>
    -- The number of a control character is that of neither half of a character.
    have hunit := readJsonUnit_append (readJsonUnit_hexDigits c.toNat hcontrol) rest
    have hhigh : ¬ (0xD800 ≤ c.toNat ∧ c.toNat ≤ 0xDBFF) := by omega
    have hlow : ¬ (0xDC00 ≤ c.toNat ∧ c.toNat ≤ 0xDFFF) := by omega
    simp [readJsonChar, readJsonEscape, hunit, hhigh, hlow, Char.ofNat_toNat]
  · next hquote hslash _ _ _ _ _ hplain =>
    simp only [Bool.not_eq_true] at hslash
    simp [readJsonChar, hslash, hplain]

/-- A character is written with a backslash at its start or as it is, but never as a quote. -/
theorem exists_escapeChar (c : Char) :
    ∃ x more, Json.escapeChar c = x :: more ∧ (x == '"') = false := by
  by_cases hquote : (c == '"') = true
  · rw [beq_iff_eq.mp hquote]
    exact ⟨'\\', ['"'], rfl, rfl⟩
  · unfold Json.escapeChar
    rw [if_neg hquote]
    iterate 7
      split
      · exact ⟨'\\', _, rfl, rfl⟩
    exact ⟨c, [], rfl, Bool.not_eq_true _ ▸ hquote⟩

/-- Parts that are not empty have as many characters together as there are parts. -/
theorem length_le_length_flatMap {α : Type} {f : α → List Char} (hf : ∀ a, f a ≠ [])
    (as : List α) : as.length ≤ (as.flatMap f).length := by
  induction as with
  | nil => exact Nat.le_refl 0
  | cons a as ih =>
    have hpos := List.length_pos_iff.mpr (hf a)
    rw [List.flatMap_cons, List.length_append, List.length_cons]
    omega

/-- The characters of a text are read back up to the quote after them. -/
theorem readJsonChars_flatMap (cs rest done : List Char) {fuel : Nat} (hfuel : cs.length < fuel) :
    readJsonChars fuel done (cs.flatMap Json.escapeChar ++ '"' :: rest)
      = some (String.ofList (done.reverse ++ cs), rest) := by
  induction cs generalizing fuel done with
  | nil =>
    obtain ⟨fuel, rfl⟩ : ∃ k, fuel = k + 1 := Nat.exists_eq_succ_of_ne_zero (by omega)
    simp [readJsonChars]
  | cons c cs ih =>
    obtain ⟨fuel, rfl⟩ : ∃ k, fuel = k + 1 := Nat.exists_eq_succ_of_ne_zero (by omega)
    have hread := readJsonChar_escapeChar c (cs.flatMap Json.escapeChar ++ '"' :: rest)
    have hrest := ih (c :: done) (Nat.lt_of_succ_lt_succ hfuel)
    have hnoQuote : ((Json.escapeChar c ++ (cs.flatMap Json.escapeChar ++ '"' :: rest)).head?
        == some '"') = false := by
      obtain ⟨x, more, hc, hx⟩ := exists_escapeChar c
      rw [hc]
      exact hx
    rw [List.flatMap_cons, List.append_assoc, readJsonChars, hnoQuote, hread]
    simpa using hrest

/-- A text is read back from its quotes. -/
theorem readJsonString_quoted (s : String) (rest : List Char) :
    readJsonString (s.toList.flatMap Json.escapeChar ++ '"' :: rest) = some (s, rest) := by
  unfold readJsonString
  rw [readJsonChars_flatMap]
  · simp
  · have hlength := @length_le_length_flatMap _ Json.escapeChar (fun c => by
      obtain ⟨x, more, hc, -⟩ := exists_escapeChar c
      rw [hc]
      exact List.cons_ne_nil x more) s.toList
    rw [List.length_append, List.length_cons]
    omega

/-! ## Whole numbers are read back -/

/-- What may follow a value in a report: nothing, a comma or a line break. -/
def EndsJson (rest : List Char) : Prop :=
  ∀ x, rest.head? = some x → x = ',' ∨ x = '\n'

/-- The digits of a number are worth the number. -/
theorem digitsValue_toDigits (n : Nat) : digitsValue (Nat.toDigits 10 n) = n := by
  have hvalue : digitsValue (Nat.toDigits 10 n) = Nat.ofDigitChars 10 (Nat.toDigits 10 n) 0 := by
    rw [Nat.ofDigitChars_eq_foldl]
    unfold digitsValue
    simp only [Nat.mul_comm]
  rw [hvalue, Nat.ofDigitChars_ten_toDigits]

/-- Numbers are written with digits. -/
theorem isDigit_of_mem_digits {m : Nat} {d : Char} (h : d ∈ Nat.toDigits 10 m) : d.isDigit = true :=
  Nat.isDigit_of_mem_toDigits (by decide) (by decide) h

/-- Only the number zero starts with a zero. -/
theorem head?_toDigits {n : Nat} (hn : n ≠ 0) : (Nat.toDigits 10 n).head? ≠ some '0' := by
  induction n using Nat.strongRecOn with
  | ind n ih =>
    by_cases hsmall : n < 10
    · have hdigit : ∀ d < 10, d ≠ 0 → d.digitChar ≠ '0' := by decide
      rw [Nat.toDigits_of_lt_base hsmall]
      simpa using hdigit n hsmall hn
    · rw [Nat.toDigits_of_base_le (by decide) (Nat.le_of_not_lt hsmall),
        List.head?_append_of_ne_nil _ Nat.toDigits_ne_nil]
      exact ih (n / 10) (by omega) (by omega)

/-- A run of digits is read up to a character that is none. -/
theorem readJsonDigits_append {ds rest : List Char} (hne : ds ≠ [])
    (hds : ∀ d ∈ ds, d.isDigit = true) (hrest : ∀ x, rest.head? = some x → x.isDigit = false) :
    readJsonDigits (ds ++ rest) = some (ds, rest) := by
  have hnone : rest.takeWhile Char.isDigit = [] ∧ rest.dropWhile Char.isDigit = rest := by
    cases rest with
    | nil => exact ⟨rfl, rfl⟩
    | cons x more =>
      have hx : ¬ x.isDigit = true := by simp [hrest x rfl]
      exact ⟨List.takeWhile_cons_of_neg hx, List.dropWhile_cons_of_neg hx⟩
  unfold readJsonDigits
  rw [List.takeWhile_append_of_pos hds, List.dropWhile_append_of_pos hds, hnone.1, hnone.2,
    List.append_nil]
  simp [hne]

/-- The digits of a number are read up to its end. -/
theorem readJsonWhole_toDigits (n : Nat) {rest : List Char} (hrest : EndsJson rest) :
    readJsonWhole (Nat.toDigits 10 n ++ rest) = some (Nat.toDigits 10 n, rest) := by
  have hdigits := @readJsonDigits_append (Nat.toDigits 10 n) rest Nat.toDigits_ne_nil
    (fun d hd => isDigit_of_mem_digits hd) (by
      intro x hx
      rcases hrest x hx with rfl | rfl <;> decide)
  have hzero : ((Nat.toDigits 10 n).head? == some '0' && decide (1 < (Nat.toDigits 10 n).length))
      = false := by
    by_cases hn : n = 0
    · rw [hn]
      decide
    · simp [head?_toDigits hn]
  unfold readJsonWhole
  rw [hdigits]
  dsimp only
  rw [hzero]
  rfl

/-- A number without a sign is written with its digits. -/
theorem toList_toString_ofNat (m : Nat) :
    (toString (Int.ofNat m)).toList = Nat.toDigits 10 m :=
  Nat.toList_repr

/-- A negative number has a minus before them. -/
theorem toList_toString_negSucc (m : Nat) :
    (toString (Int.negSucc m)).toList = '-' :: Nat.toDigits 10 (m + 1) := by
  have hminus : toString (Int.negSucc m) = "-" ++ (m + 1).repr := rfl
  rw [hminus, String.toList_append, Nat.toList_repr]
  rfl

/-- A whole number is read back. -/
theorem readJsonNumber_int (n : Int) {rest : List Char} (hrest : EndsJson rest) :
    readJsonNumber ((toString n).toList ++ rest) = some (⟨n, 0⟩, rest) := by
  have hfraction : readJsonFraction rest = some ([], rest) := by
    unfold readJsonFraction
    split
    · exact absurd (hrest '.' rfl) (by decide)
    · rfl
  have hexponent : readJsonExponent rest = some (0, rest) := by
    have hno : (rest.head? == some 'e' || rest.head? == some 'E') = false := by
      rw [Bool.or_eq_false_iff, beq_eq_false_iff_ne, beq_eq_false_iff_ne]
      exact ⟨fun h => absurd (hrest 'e' h) (by decide), fun h => absurd (hrest 'E' h) (by decide)⟩
    unfold readJsonExponent
    rw [hno]
    rfl
  cases n with
  | ofNat m =>
    have hsign : (Nat.toDigits 10 m).head? ≠ some '-' := fun hminus =>
      absurd (isDigit_of_mem_digits (List.mem_of_mem_head? hminus)) (by decide)
    have hwhole := readJsonWhole_toDigits m hrest
    rw [toList_toString_ofNat]
    simp [readJsonNumber, hsign, hwhole, hfraction, hexponent, digitsValue_toDigits]
  | negSucc m =>
    have hwhole := readJsonWhole_toDigits (m + 1) hrest
    rw [toList_toString_negSucc]
    simp [readJsonNumber, hwhole, hfraction, hexponent, digitsValue_toDigits, Int.negSucc_eq]

end FrontMatter
