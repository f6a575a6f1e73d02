import FrontMatter.Proofs.EntryValues
import FrontMatter.Proofs.ShownValues
import Mathlib.Algebra.Group.Nat.Defs
import Mathlib.Data.List.TakeWhile

/-!
# `FrontMatter.Proofs.LongNumbers` — whole numbers that are written in base sixteen

The number of digits of a whole number is limited in base ten only. A number in base sixteen has
fewer digits than messages show it with, so a block can hold whole numbers that no message can
quote.

## Contents

* `IsWord`, `scanPlain_word`, `readsValue_word`: words without quotes as values.
* `hexText`, `ofPlain_hexText`, `intValue_hexText`: whole numbers in base sixteen.
* `hexNumber_powerOfSixteen`: a one and some zeros.
* `isRead_hexEntry`, `makes_hexEntry`: a whole number under a key.
* `not_isShown_powerOfSixteen`: numbers that no message can quote.
* `longText`, `exists_reading_longText`: a block with an id and such a number.
-/

namespace FrontMatter.Yaml

open Cursor

/-! ## Words as values -/

/-- A word: characters of keys, with no hyphen at the start. -/
inductive IsWord : List Char → Prop
  | mk {first : Char} {rest : List Char} (hhyphen : first ≠ '-')
      (hchars : ∀ c ∈ first :: rest, IsPlainKeyChar c) : IsWord (first :: rest)

/-- The characters of a word. -/
theorem IsWord.isPlainKeyChar {word : List Char} (h : IsWord word) :
    ∀ c ∈ word, IsPlainKeyChar c := by
  cases h with
  | mk hhyphen hchars => exact hchars

namespace Lexer

/-- A line feed before the end or before a token is read as a space. -/
theorem scanGap_lineFeed {rest : List Char} {m : Mark}
    (hmarker : atDocumentMarker ⟨rest, m.index + 1, m.line + 1, 0⟩ = false)
    (hspaces : skipSpaces ⟨rest, m.index + 1, m.line + 1, 0⟩ = ⟨rest, m.index + 1, m.line + 1, 0⟩)
    (hbreak : takeBreak ⟨rest, m.index + 1, m.line + 1, 0⟩ = none) :
    Yaml.scanGap ⟨'\n' :: rest, m⟩ = (⟨[' '], true⟩, ⟨rest, m.index + 1, m.line + 1, 0⟩) := by
  have hnone : span (· == ' ') ⟨'\n' :: rest, m⟩ = ([], ⟨'\n' :: rest, m⟩) :=
    @span_append (· == ' ') [] ('\n' :: rest) (by simp) (by simp) (by simp) m
  unfold Yaml.scanGap
  rw [hnone]
  dsimp only
  rw [takeBreak_lineFeed]
  dsimp only
  unfold steps scanPlainBreaks
  dsimp only
  rw [hmarker, hspaces, hbreak]
  rfl

/-- Where a line ends, the lexer that has read its last word stands before the next line, where a
key may start, or at the end. -/
theorem EndsLine.scanGap {rest : List Char} (h : EndsLine rest) (m : Mark) :
    ∃ gap m', Yaml.scanGap ⟨rest, m⟩ = (gap, ⟨rest.tail, m'⟩) ∧
      (gap.text.isEmpty = true ∨ m'.column = 0) ∧
      Arrives ⟨rest.tail, m'⟩ gap.endsLine rest.tail := by
  cases h with
  | atEnd =>
    refine ⟨⟨[], false⟩, m, ?_, .inl rfl, ⟨m, false, skipsTo_nil m false, by simp⟩⟩
    have hnone : span (· == ' ') ⟨[], m⟩ = ([], ⟨[], m⟩) :=
      @span_append (· == ' ') [] [] (by simp) (by simp) (by simp) m
    unfold Yaml.scanGap
    rw [hnone]
    dsimp only
    rw [takeBreak_nil]
    rfl
  | lastFeed =>
    refine ⟨_, _, scanGap_lineFeed ?_ (skipWhile_of_end (by simp) _) (takeBreak_nil _), .inr rfl,
      ⟨_, true, skipsTo_nil _ true, by simp⟩⟩
    simp [atDocumentMarker, atTriple, peek, endMark]
  | @nextLine x more hx =>
    refine ⟨_, _, scanGap_lineFeed ?_ (skipWhile_of_end ?_ _)
      (takeBreak_of_isPrintable hx.isPrintable _ _), .inr rfl,
      ⟨_, true, skipsTo_self hx.startsToken more _ true, fun _ => ⟨rfl, rfl⟩⟩⟩
    · simp [atDocumentMarker, atTriple, peek, hx.ne (show ¬ IsLowercase '-' by decide),
        hx.ne (show ¬ IsLowercase '.' by decide)]
    · rintro y ⟨⟩
      simpa using hx.startsToken.2.1

/-- A word at the end of a line is read as a plain scalar. -/
theorem scanPlain_word {word : List Char} (hword : IsWord word) (v : Version) {rest : List Char}
    (hrest : EndsLine rest) {indent : Nat} (hindent : 0 < indent) (m : Mark) :
    ∃ endsLine m', scanPlain ⟨v, false⟩ indent ⟨word ++ rest, m⟩
        = ((String.ofList word, endsLine), ⟨rest.tail, m'⟩) ∧
      Arrives ⟨rest.tail, m'⟩ endsLine rest.tail := by
  obtain ⟨gap, m', hgap, hstops, harrives⟩ := hrest.scanGap (m.along word.length)
  refine ⟨gap.endsLine, m', ?_, harrives⟩
  cases hword with
  | mk hhyphen hchars =>
    refine scanPlain_of_scanGap hchars v ?_ hgap ?_
    · cases hrest with
      | atEnd => exact fun y others h => nomatch h
      | lastFeed | nextLine =>
        rintro y others ⟨⟩
        rfl
    · rcases hstops with hempty | hcolumn
      · exact .inl hempty
      · exact .inr (by simpa [column, hcolumn] using hindent)

end Lexer

namespace EntryLine

open Lexer

/-- A word without quotes is read as a value. -/
theorem readsValue_word (key : List Char) {word : List Char} (h : IsWord word) :
    ReadsValue ⟨key, word, ⟨String.ofList word, true⟩⟩ := by
  cases h with
  | @mk first others hhyphen hchars =>
    have hfirst := hchars first List.mem_cons_self
    refine ⟨first, others, rfl,
      ⟨hfirst.isPrintable, hfirst.ne (by decide), hfirst.ne (by decide)⟩, ?_⟩
    intro rest hrest m released
    let l := idle ⟨(first :: others) ++ rest, m⟩ [0] false [] released
    obtain ⟨endsLine, m', hscan, harrives⟩ :=
      scanPlain_word (.mk hhyphen hchars) .current hrest Nat.one_pos m
    have hsave : l.saveKey = .ok l := rfl
    have htoken : l.fetchToken = l.fetchPlain :=
      fetchToken_of_isPlainKeyChar hfirst hhyphen rfl
    exact ⟨⟨rest.tail, m'⟩, endsLine, m', htoken.trans (fetchPlain_of_scanPlain hsave hscan),
      harrives⟩

end EntryLine

/-! ## Whole numbers in base sixteen -/

/-- Digits in base sixteen, as they are written without upper-case letters. -/
structure IsHexRun (ds : List Char) : Prop where
  ne_nil : ds ≠ []
  isHexDigit : ∀ d ∈ ds, isHexDigit d = true
  isPlainKeyChar : ∀ d ∈ ds, IsPlainKeyChar d

/-- A whole number in base sixteen. -/
def hexText (ds : List Char) : List Char :=
  '0' :: 'x' :: ds

/-- It is a word. -/
theorem IsHexRun.isWord {ds : List Char} (h : IsHexRun ds) : IsWord (hexText ds) := by
  refine .mk (by decide) ?_
  rintro c (_ | ⟨_, _ | ⟨_, hc⟩⟩)
  · decide
  · decide
  · exact h.isPlainKeyChar c hc

/-- A text is none of some words with other first characters. -/
theorem not_contains_ofList {words : List String} {first : Char}
    (h : ∀ w ∈ words, w.toList.head? ≠ some first) (rest : List Char) :
    words.contains (String.ofList (first :: rest)) = false := by
  rw [Bool.eq_false_iff]
  intro hmem
  apply h _ (List.contains_iff_mem.mp hmem)
  rw [String.toList_ofList]
  rfl

/-- It has the form of a whole number. -/
theorem ofPlain_hexText {ds : List Char} (h : IsHexRun ds) :
    Tag.ofPlain .current (String.ofList (hexText ds)) = .int := by
  have hbreak := dropFinalBreak_of_isPlainKeyChar h.isWord.isPlainKeyChar
  have hbool : (boolWords .current).contains (String.ofList (hexText ds)) = false :=
    not_contains_ofList (by decide) ('x' :: ds)
  have hfloat : isFloatForm .current (hexText ds) = false := by
    simp [isFloatForm, hexText, dropSign, isDigitFloat, afterDigits?, isDigitOrLine, isExponent,
      isPointFloat, show Version.current.isOld = false from rfl]
  have hint : isIntForm .current (hexText ds) = true := by
    have hrun : isRun (fun c => isHexDigit c || c == '_') ds = true := by
      have hall : ds.all (fun c => isHexDigit c || c == '_') = true :=
        List.all_eq_true.mpr fun d hd => by simp [h.isHexDigit d hd]
      simpa [isRun, h.ne_nil] using hall
    exact hrun
  have hform : Tag.ofForm? .current '0' (hexText ds) = some .int := by
    unfold Tag.ofForm?
    simp only [hbool, hfloat, hint, Bool.and_false, Bool.false_eq_true, if_false]
    rfl
  unfold Tag.ofPlain
  rw [String.toList_ofList]
  unfold hexText at hbreak hform ⊢
  dsimp only
  rw [hbreak, hform]
  rfl

/-- A digit in base sixteen stands for its value. -/
theorem digitIn?_sixteen {c : Char} (h : isHexDigit c = true) :
    digitIn? 16 c = some (hexValue c) := by
  have hsmall : hexValue c < 16 := by
    simp only [isHexDigit, Bool.or_eq_true, Bool.and_eq_true, decide_eq_true_eq,
      le_iff_toNat_le, Char.reduceToNat] at h
    unfold hexValue
    simp only [le_iff_toNat_le, Char.reduceToNat]
    split
    · next hdigit =>
      have hle : c.toNat ≤ 57 := (Char.isDigit_iff_toNat.mp hdigit).2
      omega
    · next hdigit =>
      rcases h with (h | h) | h
      · exact absurd h hdigit
      · split <;> omega
      · split <;> omega
  unfold digitIn?
  simp [h, hsmall]

/-- Where no character is of a class, none is dropped at the ends. -/
theorem trim_of_none {p : Char → Bool} {cs : List Char} (h : ∀ c ∈ cs, p c = false) :
    Text.trim p cs = cs := by
  have hkept : ∀ {cs : List Char}, (∀ c ∈ cs, p c = false) → cs.dropWhile p = cs := by
    intro cs h
    rw [List.dropWhile_eq_self_iff]
    intro hpos
    simp [h cs[0] (List.getElem_mem hpos)]
  unfold Text.trim Text.trimStart Text.trimEnd
  rw [hkept h, hkept (by simpa using h), List.reverse_reverse]

/-- Digits in base sixteen stand as they are in a number. -/
theorem numberChars_hexRun {ds : List Char} (h : IsHexRun ds) :
    numberChars (String.ofList ds) = ds := by
  have hascii : ds.all (fun c => c.toNat < 0x80) = true := by
    refine List.all_eq_true.mpr fun d hd => decide_eq_true ?_
    exact Nat.lt_of_le_of_lt (h.isPlainKeyChar d hd).isPrintable.2 (by decide)
  unfold numberChars plainDigits
  rw [String.toList_ofList, if_pos hascii]
  apply trim_of_none
  intro d hd
  have hspace : d ≠ ' ' := (h.isPlainKeyChar d hd).ne (by decide)
  have hle : 0x20 ≤ d.toNat := (h.isPlainKeyChar d hd).isPrintable.1
  simp [isAsciiBlank, hspace]
  omega

/-- Digits have no sign before them. -/
theorem splitSign_of_isHexDigit {ds : List Char} (h : ∀ d ∈ ds, isHexDigit d = true) :
    Decimal.splitSign ds = (false, ds) := by
  unfold Decimal.splitSign
  split
  · exact absurd (h '-' List.mem_cons_self) (by decide)
  · exact absurd (h '+' List.mem_cons_self) (by decide)
  · rfl

/-- Digits in base sixteen are read as their number. -/
theorem wholeNumber_sixteen {ds : List Char} (h : IsHexRun ds) :
    wholeNumber 16 (String.ofList ds) = .ok (hexNumber ds) := by
  have hsign : Decimal.splitSign ds = (false, ds) := splitSign_of_isHexDigit h.isHexDigit
  have hmark : dropBaseMark 16 ds = ds := by
    unfold dropBaseMark
    split
    · next x rest =>
      -- The mark itself is no digit.
      have hx : isHexDigit x = true := h.isHexDigit x (by simp)
      have hlower : x ≠ 'x' := by rintro rfl; exact absurd hx (by decide)
      have hupper : x ≠ 'X' := by rintro rfl; exact absurd hx (by decide)
      simp [hlower, hupper]
    · rfl
  have hdigits : ds.map (digitIn? 16) = ds.map fun d => some (hexValue d) :=
    List.map_congr_left fun d hd => digitIn?_sixteen (h.isHexDigit d hd)
  have hall : (ds.map fun d => some (hexValue d)).takeWhile Option.isSome
      = ds.map fun d => some (hexValue d) := by
    rw [List.takeWhile_eq_self_iff]
    simp
  have hpos : ds.length ≠ 0 := by simpa using h.ne_nil
  unfold wholeNumber
  rw [numberChars_hexRun h, hsign]
  dsimp only
  rw [hmark, hdigits, hall]
  simp [hpos, hexNumber, List.foldl_map]

/-- A whole number in base sixteen has the value of its digits. -/
theorem intValue_hexText (v : Version) {ds : List Char} (h : IsHexRun ds) :
    intValue v (String.ofList (hexText ds)) = .ok (hexNumber ds) := by
  have hlines : (hexText ds).filter (· != '_') = hexText ds := by
    rw [List.filter_eq_self]
    rintro c (_ | ⟨_, _ | ⟨_, hc⟩⟩)
    · decide
    · decide
    · have hhex := h.isHexDigit c hc
      rw [bne_iff_ne]
      rintro rfl
      exact absurd hhex (by decide)
  unfold intValue
  rw [String.toList_ofList, hlines]
  have hbody : intBody v (hexText ds) = .ok (hexNumber ds) := wholeNumber_sixteen h
  have hsign : Decimal.splitSign (hexText ds) = (false, hexText ds) := rfl
  simp only [hsign, hbody, bind, Except.bind]
  rfl

/-- A one and some zeros are a power of sixteen. -/
theorem hexNumber_powerOfSixteen (n : Nat) :
    hexNumber ('1' :: List.replicate n '0') = 16 ^ n := by
  have hzeros : ∀ k, (List.replicate n '0').foldl (fun n c => n * 16 + hexValue c) k
      = k * 16 ^ n := by
    induction n with
    | zero =>
      intro k
      rw [Nat.pow_zero, Nat.mul_one]
      rfl
    | succ n ih =>
      intro k
      have hzero : hexValue '0' = 0 := rfl
      rw [List.replicate_succ, List.foldl_cons, ih, hzero, Nat.add_zero, Nat.mul_assoc,
        Nat.pow_succ']
  have hone : hexNumber ('1' :: List.replicate n '0') = 1 * 16 ^ n := hzeros 1
  rw [hone, Nat.one_mul]

/-- They are digits in base sixteen. -/
theorem isHexRun_powerOfSixteen (n : Nat) : IsHexRun ('1' :: List.replicate n '0') where
  ne_nil := List.cons_ne_nil _ _
  isHexDigit := by
    rintro d (_ | ⟨_, hd⟩)
    · decide
    · rw [List.eq_of_mem_replicate hd]
      decide
  isPlainKeyChar := by
    rintro d (_ | ⟨_, hd⟩)
    · decide
    · rw [List.eq_of_mem_replicate hd]
      decide

end FrontMatter.Yaml

namespace FrontMatter

open Yaml (EntryLine ScalarText)

/-! ## Numbers under keys -/

/-- The line of a key and a whole number in base sixteen, with what it is read as. -/
def hexEntry (key : String) (ds : List Char) : EntryLine :=
  ⟨key.toList, Yaml.hexText ds, ⟨String.ofList (Yaml.hexText ds), true⟩⟩

/-- A line is read as its entry. -/
theorem isRead_hexEntry {key : String} (hkey : IsWrittenKey key) {ds : List Char}
    (hds : Yaml.IsHexRun ds) : (hexEntry key ds).IsRead where
  key := hkey.plain
  near := by
    have hlength := hkey.length
    rw [← String.length_toList] at hlength
    exact Nat.le_trans hlength (by decide)
  printable := fun c hc => (hds.isWord.isPlainKeyChar c hc).isPrintable
  value := EntryLine.readsValue_word key.toList hds.isWord

/-- Its value is the number. -/
theorem makes_hexEntry (key : String) {ds : List Char} (hds : Yaml.IsHexRun ds) :
    (hexEntry key ds).value.Makes .current false (.int (Yaml.hexNumber ds)) :=
  ScalarText.makes_int (Yaml.ofPlain_hexText hds) (Yaml.intValue_hexText .current hds) false

/-- Five digits in base sixteen are worth six in base ten: with enough zeros after a one, a number
is too long to be quoted. -/
theorem not_isShown_powerOfSixteen {k : Nat} (h : maxDigits ≤ 6 * k) :
    ¬ (Value.scalar (.int (Yaml.hexNumber ('1' :: List.replicate (5 * k) '0')))).IsShown := by
  intro hshort
  have hlt := hshort _ (List.mem_singleton_self _)
  have hten : ∀ n, Decimal.powerOfTen n = 10 ^ n := fun _ => rfl
  rw [Yaml.hexNumber_powerOfSixteen, Int.natAbs_natCast, hten] at hlt
  apply Nat.not_le_of_lt hlt
  calc 10 ^ maxDigits ≤ 10 ^ (6 * k) := Nat.pow_le_pow_right (by decide) h
    _ = (10 ^ 6) ^ k := Nat.pow_mul 10 6 k
    _ ≤ (16 ^ 5) ^ k := Nat.pow_le_pow_left (by decide) k
    _ = 16 ^ (5 * k) := (Nat.pow_mul 16 5 k).symm

/-! ## A block with such a number -/

/-- A block with an id, and with a power of sixteen in the place of a tenet. -/
def longText (k : Nat) : String :=
  String.ofList ("id: 'x'\nderived_from: 0x1".toList ++ List.replicate (5 * k) '0')

/-- The lines of the block. -/
def longLines (k : Nat) : List Yaml.EntryLine :=
  [quotedEntry ("id", "x"), hexEntry "derived_from" ('1' :: List.replicate (5 * k) '0')]

/-- The characters of the block are those of its lines. -/
theorem toList_longText (k : Nat) :
    (longText k).toList = Text.joinLines ((longLines k).map Yaml.EntryLine.chars) := by
  unfold longText longLines
  rw [String.toList_ofList, EntryLine.joinLines_cons]
  simp [EntryLine.further, EntryLine.chars, quotedEntry, hexEntry, Yaml.hexText, Yaml.quotedRest,
    Yaml.doubled]

/-- The block is read as its lines. -/
theorem exists_reading_longText {k : Nat} (hk : k ≤ 100000) : ∃ entries : Entries Value,
    Reading.ofText (longText k) = .ok { content := .mapping entries,
                                        lines := Block.LineMap.ofText (longText k) entries.holds }
      ∧ entries.get? "id" = some (.str "x") ∧ entries.get? "version" = none
      ∧ entries.get? "derived_from"
        = some (.scalar (.int (Yaml.hexNumber ('1' :: List.replicate (5 * k) '0')))) := by
  have hdigits := Yaml.isHexRun_powerOfSixteen (5 * k)
  have hid : IsWrittenKey "id" :=
    { plain := @Yaml.IsPlainKey.mk 'i' ['d'] (by decide) (by decide)
      length := by decide
      noWord := by decide }
  have hderived : IsWrittenKey "derived_from" :=
    { plain := @Yaml.IsPlainKey.mk 'd' "erived_from".toList (by decide) (by decide)
      length := by decide
      noWord := by decide }
  have hread : ∀ e ∈ longLines k, e.IsRead := by
    simp only [longLines, List.forall_mem_cons]
    exact ⟨isRead_quotedEntry hid (by decide), isRead_hexEntry hderived hdigits, by simp⟩
  have hwords : ∀ e ∈ longLines k, e.name ∉ Yaml.valueWords := by
    simp only [longLines, List.forall_mem_cons]
    exact ⟨by decide, hderived.not_mem_valueWords, by simp⟩
  let value : Yaml.ScalarText → Scalar := fun t =>
    if t.plain then .int (Yaml.hexNumber ('1' :: List.replicate (5 * k) '0')) else .str t.text
  have hvalues : ∀ e ∈ longLines k, e.value.Makes .current false (value e.value) := by
    simp only [longLines, List.forall_mem_cons]
    exact ⟨Yaml.ScalarText.makes_quoted .current false "x", makes_hexEntry _ hdigits, by simp⟩
  have hlength : (longText k).length ≤ Yaml.maxLength := by
    have htext : (longText k).toList.length = 25 + 5 * k := by
      unfold longText
      rw [String.toList_ofList, List.length_append, List.length_replicate]
      rfl
    rw [← String.length_toList, htext]
    unfold Yaml.maxLength
    omega
  have hcount : (longLines k).length < Yaml.maxParts := by
    have htwo : (longLines k).length = 2 := rfl
    rw [htwo]
    decide
  obtain ⟨entries, hreading, -, hget⟩ := exists_reading_of_lines (List.cons_ne_nil _ _) hread hwords
    hvalues hcount (toList_longText k) hlength
  exact ⟨entries, hreading, hget "id", hget "version", hget "derived_from"⟩

end FrontMatter
