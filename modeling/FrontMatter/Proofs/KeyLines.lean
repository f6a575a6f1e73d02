import FrontMatter.Block.LineMap
import FrontMatter.Proofs.BlockEnd
import FrontMatter.Proofs.Tables

/-!
# `FrontMatter.Proofs.KeyLines` — the lines of keys, in a block and in its document

A key is found at the first line that starts with it and a colon. A block starts on the second line
of its document, so a line of the block stands one line further down in the document.

## Contents

* `keyOfLine?_eq_some_iff`: the key with which a line starts.
* `mem_addLines_iff`, `mem_ofText_iff`, `get?_ofText`: the entries of a line map are first lines of
  keys.
* `line_of_get?_ofText`: the line that a key is found at starts with the key.
* `pairwise_ofText`, `nodup_keys_ofText`, `line_of_mem_ofText`: the order and range of a line map.
* `BeginsFirstAt`, `LineMap.IsExact`, `isExact_ofText`: what a line map holds, in terms of the text
  alone.
* `getElem?_splitLines_append`, `line_of_extract?`: from the lines of a block to those of its
  document.
-/

namespace FrontMatter.Block

open Text (splitLines)

/-! ## The key of a line -/

/-- A line starts with a key exactly when it is the key, a colon, and anything else. -/
theorem keyOfLine?_eq_some_iff {line : List Char} {k : String} :
    keyOfLine? line = some k
      ↔ k.toList ≠ [] ∧ (∀ c ∈ k.toList, isKeyChar c = true)
        ∧ ∃ rest, line = k.toList ++ ':' :: rest := by
  unfold keyOfLine?
  dsimp only
  constructor
  · intro h
    split at h
    · next hcond =>
      rw [Bool.and_eq_true] at hcond
      obtain ⟨hne, hcolon⟩ := hcond
      obtain rfl := Option.some.inj h
      rw [String.toList_ofList]
      refine ⟨by simpa using hne, fun c hc => List.all_eq_true.mp List.all_takeWhile c hc, ?_⟩
      cases hdrop : line.dropWhile isKeyChar with
      | nil => simp [hdrop] at hcolon
      | cons c rest =>
        obtain rfl : c = ':' := by simpa [hdrop] using hcolon
        refine ⟨rest, ?_⟩
        rw [← hdrop]
        exact List.takeWhile_append_dropWhile.symm
    · cases h
  · rintro ⟨hne, hall, rest, rfl⟩
    have hcolon : isKeyChar ':' = false := by decide
    rw [List.takeWhile_append_of_pos hall, List.dropWhile_append_of_pos hall,
      List.takeWhile_cons_of_neg (by simp [hcolon]), List.dropWhile_cons_of_neg (by simp [hcolon])]
    simp [hne]

/-! ## Line maps -/

/-- The number of the first line that starts with a key; the line in front has the given number. -/
def firstLine? (k : String) (number : Nat) (ls : List (List Char)) : Option Int :=
  (ls.findIdx? fun l => keyOfLine? l == some k).map fun i => ((number + i : Nat) : Int)

/-- A key that starts the line in front has its first line there. -/
theorem firstLine?_cons_self {k : String} {number : Nat} {line : List Char}
    {rest : List (List Char)} (h : keyOfLine? line = some k) :
    firstLine? k number (line :: rest) = some (number : Int) := by
  simp [firstLine?, List.findIdx?_cons, h]

/-- A key that does not is looked for in the lines after it. -/
theorem firstLine?_cons_ne {k : String} {number : Nat} {line : List Char}
    {rest : List (List Char)} (h : keyOfLine? line ≠ some k) :
    firstLine? k number (line :: rest) = firstLine? k (number + 1) rest := by
  unfold firstLine?
  rw [List.findIdx?_cons, beq_eq_false_iff_ne.mpr h, if_neg (by simp), Option.map_map]
  congr 1
  funext i
  simp only [Function.comp_apply]
  omega

/-- The entries that are made from some lines: those that were there, and every key that was not
there at the first line that starts with it. -/
theorem mem_addLines_iff {isKey : String → Bool} {number : Nat} {done : LineMap}
    {ls : List (List Char)} {k : String} {n : Int} :
    (k, n) ∈ LineMap.addLines isKey number done ls
      ↔ (k, n) ∈ done
        ∨ (Table.holds done k = false ∧ isKey k = true ∧ firstLine? k number ls = some n) := by
  -- By induction on the lines, with the entries made so far: each line adds its key, passes over a
  -- key that is there or is none of the mapping, or has no key.
  fun_induction LineMap.addLines isKey number done ls with
  | case1 number done => simp [firstLine?]
  | case2 number done line rest k' hline hadd ih =>
    rw [Bool.and_eq_true, Bool.not_eq_true'] at hadd
    obtain ⟨hkey, hnew⟩ := hadd
    rw [ih]
    by_cases hk : k' = k
    · subst hk
      have hthere : Table.holds ((k', (number : Int)) :: done) k' = true := by simp [Table.holds]
      rw [firstLine?_cons_self hline, hthere]
      simp [hkey, hnew, or_comm, eq_comm]
    · have hholds : Table.holds ((k', (number : Int)) :: done) k = Table.holds done k := by
        simp [Table.holds, hk]
      have hne : k ≠ k' := fun h => hk h.symm
      rw [firstLine?_cons_ne (by simp [hline, hk]), hholds]
      simp [hne]
  | case3 number done line rest k' hline hadd ih =>
    rw [ih]
    by_cases hk : k' = k
    · subst hk
      -- The key of the line is there already or is none, so neither side has a new entry for it.
      have hnone : ∀ P : Prop, ¬ (Table.holds done k' = false ∧ isKey k' = true ∧ P) := by
        rintro P ⟨hholds, hkey, -⟩
        simp [hholds, hkey] at hadd
      simp [hnone]
    · rw [firstLine?_cons_ne (by simp [hline, hk])]
  | case4 number done line rest hline ih =>
    rw [ih, firstLine?_cons_ne (by simp [hline])]

/-- The lines of the keys of a text: every key at the first line that starts with it. -/
theorem mem_ofText_iff {text : String} {isKey : String → Bool} {k : String} {n : Int} :
    (k, n) ∈ LineMap.ofText text isKey
      ↔ isKey k = true ∧ firstLine? k 1 (splitLines text.toList) = some n := by
  unfold LineMap.ofText
  rw [mem_addLines_iff]
  simp [Table.holds]

/-- A key of a text is found at the first line that starts with it. -/
theorem get?_ofText (text : String) (isKey : String → Bool) (k : String) :
    (LineMap.ofText text isKey).get? k
      = if isKey k then firstLine? k 1 (splitLines text.toList) else none := by
  cases hget : (LineMap.ofText text isKey).get? k with
  | some n =>
    obtain ⟨hkey, hfirst⟩ := mem_ofText_iff.mp (Table.mem_of_get? hget)
    rw [if_pos hkey, hfirst]
  | none =>
    split
    · next hkey =>
      cases hfirst : firstLine? k 1 (splitLines text.toList) with
      | none => rfl
      | some n =>
        have hmem := mem_ofText_iff.mpr ⟨hkey, hfirst⟩
        have hholds : Table.holds (LineMap.ofText text isKey) k = true :=
          List.any_eq_true.mpr ⟨_, hmem, beq_self_eq_true k⟩
        rw [Table.holds_eq_isSome, hget] at hholds
        cases hholds
    · rfl

/-- The line at which a key is found starts with the key and a colon. -/
theorem line_of_get?_ofText {text : String} {isKey : String → Bool} {k : String} {n : Int}
    (h : (LineMap.ofText text isKey).get? k = some n) :
    isKey k = true ∧ ∃ (i : Nat) (rest : List Char), n = i + 1
      ∧ (splitLines text.toList)[i]? = some (k.toList ++ ':' :: rest) := by
  obtain ⟨hkey, hfirst⟩ := mem_ofText_iff.mp (Table.mem_of_get? h)
  obtain ⟨i, hi, rfl⟩ := Option.map_eq_some_iff.mp hfirst
  obtain ⟨hlt, hline, -⟩ := List.findIdx?_eq_some_iff_getElem.mp hi
  obtain ⟨-, -, rest, hrest⟩ := keyOfLine?_eq_some_iff.mp (beq_iff_eq.mp hline)
  refine ⟨hkey, i, rest, by omega, ?_⟩
  rw [List.getElem?_eq_getElem hlt, hrest]

/-- The entries that are made from some lines stand in the order of their lines, if those before
them do. -/
theorem pairwise_addLines {isKey : String → Bool} {number : Nat} {done : LineMap}
    {ls : List (List Char)} (hsorted : done.Pairwise fun e f => f.2 < e.2)
    (hbefore : ∀ e ∈ done, e.2 < (number : Int)) :
    (LineMap.addLines isKey number done ls).Pairwise fun e f => e.2 < f.2 := by
  -- By induction on the lines: the entries made so far, last first, stand on lines before the next.
  fun_induction LineMap.addLines isKey number done ls with
  | case1 number done => exact List.pairwise_reverse.mpr hsorted
  | case2 number done line rest k hline hadd ih =>
    apply ih
    · exact List.pairwise_cons.mpr ⟨hbefore, hsorted⟩
    · intro e he
      rcases List.mem_cons.mp he with rfl | he
      · show (number : Int) < ((number + 1 : Nat) : Int)
        omega
      · have hlt := hbefore e he
        omega
  | case3 number done line rest k hline hadd ih =>
    apply ih hsorted
    intro e he
    have hlt := hbefore e he
    omega
  | case4 number done line rest hline ih =>
    apply ih hsorted
    intro e he
    have hlt := hbefore e he
    omega

/-- The keys of a text stand in the order of their lines, and no two share a line. -/
theorem pairwise_ofText (text : String) (isKey : String → Bool) :
    (LineMap.ofText text isKey).Pairwise fun e f => e.2 < f.2 := by
  apply pairwise_addLines
  · exact List.Pairwise.nil
  · intro e he
    cases he

/-- No key of a text has two lines. -/
theorem nodup_keys_ofText (text : String) (isKey : String → Bool) :
    (LineMap.ofText text isKey).keys.Nodup := by
  unfold Table.keys
  rw [List.nodup_iff_pairwise_ne, List.pairwise_map]
  refine (pairwise_ofText text isKey).imp_of_mem fun {e f} he hf hlt hkey => ?_
  -- Entries with one key have one line, its first.
  obtain ⟨-, hfirst⟩ := mem_ofText_iff.mp (show (e.1, e.2) ∈ _ from he)
  obtain ⟨-, hsecond⟩ := mem_ofText_iff.mp (show (f.1, f.2) ∈ _ from hf)
  rw [hkey, hsecond] at hfirst
  have hline := Option.some.inj hfirst
  omega

/-- The line of a key is one of the lines of the text. -/
theorem line_of_mem_ofText {text : String} {isKey : String → Bool} {k : String} {n : Int}
    (h : (k, n) ∈ LineMap.ofText text isKey) :
    1 ≤ n ∧ n ≤ (splitLines text.toList).length := by
  obtain ⟨-, hfirst⟩ := mem_ofText_iff.mp h
  obtain ⟨i, hi, rfl⟩ := Option.map_eq_some_iff.mp hfirst
  obtain ⟨hlt, -⟩ := List.findIdx?_eq_some_iff_getElem.mp hi
  omega

/-! ## The first lines of keys -/

/-- A character of a name: a letter or digit of ASCII, an underscore or a hyphen. -/
def IsNameChar (c : Char) : Prop :=
  ('A' ≤ c ∧ c ≤ 'Z') ∨ ('a' ≤ c ∧ c ≤ 'z') ∨ ('0' ≤ c ∧ c ≤ '9') ∨ c = '_' ∨ c = '-'

/-- The characters of keys are those of names. -/
theorem isKeyChar_iff (c : Char) : isKeyChar c = true ↔ IsNameChar c := by
  unfold isKeyChar IsNameChar Char.isAlphanum Char.isAlpha Char.isUpper Char.isLower Char.isDigit
  simp only [Bool.or_eq_true, Bool.and_eq_true, decide_eq_true_eq, beq_iff_eq, ge_iff_le,
    Char.le_def, or_assoc]

/-- A line begins with a key and a colon directly after it. -/
def BeginsWith (k : String) (line : List Char) : Prop :=
  k.toList ++ [':'] <+: line

/-- A line has a key exactly when it begins with it and the key is a name. -/
theorem keyOfLine?_eq_some_iff_beginsWith {line : List Char} {k : String} :
    keyOfLine? line = some k
      ↔ k ≠ "" ∧ (∀ c ∈ k.toList, IsNameChar c) ∧ BeginsWith k line := by
  have hbegins : BeginsWith k line ↔ ∃ rest, line = k.toList ++ ':' :: rest := by
    unfold BeginsWith List.IsPrefix
    simp only [List.append_assoc, List.singleton_append, eq_comm]
  rw [keyOfLine?_eq_some_iff, hbegins]
  simp only [isKeyChar_iff, ne_eq, String.toList_eq_nil_iff]

/-- A text begins its line of a given number, counted from one, with a key, and no earlier line. -/
def BeginsFirstAt (text k : String) (n : Int) : Prop :=
  ∃ i : Nat, n = i + 1
    ∧ (∃ line, (splitLines text.toList)[i]? = some line ∧ BeginsWith k line)
    ∧ ∀ j < i, ∀ line, (splitLines text.toList)[j]? = some line → ¬ BeginsWith k line

/-- The number of the first line of a key, where the key is a name. -/
theorem firstLine?_eq_some_iff {text k : String} {n : Int} :
    firstLine? k 1 (splitLines text.toList) = some n
      ↔ k ≠ "" ∧ (∀ c ∈ k.toList, IsNameChar c) ∧ BeginsFirstAt text k n := by
  unfold firstLine? BeginsFirstAt
  simp only [Option.map_eq_some_iff, List.findIdx?_eq_some_iff_getElem, beq_iff_eq,
    keyOfLine?_eq_some_iff_beginsWith]
  constructor
  · rintro ⟨i, ⟨hi, ⟨hne, hname, hbegins⟩, hbefore⟩, rfl⟩
    refine ⟨hne, hname, i, by omega, ⟨_, List.getElem?_eq_getElem hi, hbegins⟩, ?_⟩
    intro j hj line hline hearlier
    obtain ⟨hlt, rfl⟩ := List.getElem?_eq_some_iff.mp hline
    exact hbefore j hj ⟨hne, hname, hearlier⟩
  · rintro ⟨hne, hname, i, rfl, ⟨line, hline, hbegins⟩, hbefore⟩
    obtain ⟨hi, rfl⟩ := List.getElem?_eq_some_iff.mp hline
    refine ⟨i, ⟨hi, ⟨hne, hname, hbegins⟩, fun j hj hearlier => ?_⟩, by omega⟩
    exact hbefore j hj _ (List.getElem?_eq_getElem (Nat.lt_trans hj hi)) hearlier.2.2

/-- What a line map of a text holds for the keys that are asked for. -/
structure LineMap.IsExact (text : String) (isKey : String → Bool) (m : LineMap) : Prop where
  /-- A key has a line exactly when it is asked for and a name, and the line is the first one that
  begins with it. -/
  found : ∀ k n, m.get? k = some n
    ↔ isKey k = true ∧ k ≠ "" ∧ (∀ c ∈ k.toList, IsNameChar c) ∧ BeginsFirstAt text k n
  /-- The entries are the keys with the lines that they have. -/
  entries : ∀ k n, (k, n) ∈ m ↔ m.get? k = some n
  /-- They stand in the order of their lines. -/
  inOrder : m.Pairwise fun e f => e.2 < f.2
  /-- No two keys share a line. -/
  ownLine : ∀ e ∈ m, ∀ f ∈ m, e.2 = f.2 → e = f

/-- The line map of a text holds the keys that are asked for, each with the first line that begins
with it, in the order of the lines. -/
theorem isExact_ofText (text : String) (isKey : String → Bool) :
    (LineMap.ofText text isKey).IsExact text isKey where
  found k n := by
    rw [Table.get?_eq_some_iff (nodup_keys_ofText text isKey), mem_ofText_iff,
      firstLine?_eq_some_iff]
  entries k n := (Table.get?_eq_some_iff (nodup_keys_ofText text isKey)).symm
  inOrder := pairwise_ofText text isKey
  ownLine e he f hf hline := by
    obtain ⟨i, hi, rfl⟩ := List.mem_iff_getElem.mp he
    obtain ⟨j, hj, rfl⟩ := List.mem_iff_getElem.mp hf
    -- Of two entries in different places the line of the earlier one comes first.
    have hsorted := List.pairwise_iff_getElem.mp (pairwise_ofText text isKey)
    rcases Nat.lt_trichotomy i j with hij | rfl | hji
    · exact absurd hline (Int.ne_of_lt (hsorted i j hi hj hij))
    · rfl
    · exact absurd hline.symm (Int.ne_of_lt (hsorted j i hj hi hji))

-- A key that comes again, one that is indented and one that does not touch its colon.
example : LineMap.ofText "b: 1\na: 2\nb: 3\n c: 4\nd : 5" (fun _ => true) = [("b", 1), ("a", 2)] := by
  decide

/-! ## From a block to its document -/

/-- A line of a text is the start of the same line of any longer text. -/
theorem getElem?_splitLines_append {cs : List Char} (ds : List Char) {i : Nat} {line : List Char}
    (h : (splitLines cs)[i]? = some line) :
    ∃ rest, (splitLines (cs ++ ds))[i]? = some (line ++ rest) := by
  unfold splitLines at *
  induction cs generalizing i line with
  | nil =>
    -- The one line of the empty text goes on with the first line of what is added.
    rw [List.splitOn_nil, List.getElem?_singleton] at h
    split at h
    · next hi =>
      subst hi
      obtain rfl := Option.some.inj h
      obtain ⟨first, later, hsplit⟩ := List.exists_cons_of_ne_nil (List.splitOn_ne_nil '\n' ds)
      exact ⟨first, by rw [List.nil_append, hsplit]; rfl⟩
    · cases h
  | cons c cs ih =>
    rw [List.cons_append]
    rw [List.splitOn_cons_eq_if_modifyHead] at h ⊢
    split
    · next hc =>
      rw [if_pos hc] at h
      cases i with
      | zero =>
        obtain rfl := Option.some.inj h
        exact ⟨[], rfl⟩
      | succ i => exact ih h
    · next hc =>
      -- The character stands at the start of the first line in both texts.
      rw [if_neg hc, List.getElem?_modifyHead] at h
      rw [List.getElem?_modifyHead]
      cases i with
      | zero =>
        obtain ⟨first, hfirst, rfl⟩ := Option.map_eq_some_iff.mp h
        obtain ⟨rest, hrest⟩ := ih hfirst
        exact ⟨rest, by rw [hrest]; rfl⟩
      | succ i => exact ih h

/-- Where a body ends there is a line feed. -/
theorem feed_mem_of_endsBody {cs : List Char} (h : endsBody cs = true) : '\n' ∈ cs := by
  unfold endsBody afterBreak? at h
  split at h
  · cases h
  · next rest hbreak =>
    split at hbreak
    · exact List.mem_cons_self
    · exact List.mem_cons_of_mem _ List.mem_cons_self
    · cases hbreak

/-- A body that is found stands at the start of what was searched, and a line feed comes after
it. -/
theorem append_of_bodyBefore? {done cs body : List Char} (h : bodyBefore? done cs = some body) :
    ∃ after, done.reverse ++ cs = body ++ after ∧ '\n' ∈ after := by
  fun_induction bodyBefore? done cs with
  | case1 => cases h
  | case2 done c rest hends =>
    obtain rfl := Option.some.inj h
    exact ⟨c :: rest, rfl, feed_mem_of_endsBody hends⟩
  | case3 done c rest hends ih =>
    obtain ⟨after, hafter, hfeed⟩ := ih h
    rw [List.reverse_cons, List.append_assoc] at hafter
    exact ⟨after, hafter, hfeed⟩

/-- The text of a document whose block is found: an opening line, the block, and what comes after
it. A further line comes after a block that is not empty. -/
theorem toList_of_extract? {content block : String} (h : extract? content = some block) :
    ∃ first after : List Char, '\n' ∉ first
      ∧ content.toList = first ++ '\n' :: (block.toList ++ after)
      ∧ (block ≠ "" → '\n' ∈ after) := by
  unfold extract? at h
  split at h
  · cases h
  · next rest hrest =>
    -- The block is the body that is found, or it is empty.
    have hblock : ∃ after, rest = block.toList ++ after ∧ (block ≠ "" → '\n' ∈ after) := by
      split at h
      · next body hbody =>
        obtain rfl := Option.some.inj h
        obtain ⟨after, hafter, hfeed⟩ := append_of_bodyBefore? hbody
        rw [String.toList_ofList]
        exact ⟨after, hafter, fun _ => hfeed⟩
      · split at h
        · obtain rfl := Option.some.inj h
          exact ⟨rest, rfl, fun hne => absurd rfl hne⟩
        · cases h
    obtain ⟨after, rfl, hfeed⟩ := hblock
    obtain ⟨cs, hhyphens, hbreak⟩ := Option.bind_eq_some_iff.mp hrest
    obtain ⟨e, he, rfl, -⟩ := endedLines_of_break hbreak
    rw [afterHyphens?_eq_some_iff.mp hhyphens]
    cases e with
    | feed => exact ⟨['-', '-', '-'], after, by decide, rfl, hfeed⟩
    | returnFeed => exact ⟨['-', '-', '-', '\r'], after, by decide, rfl, hfeed⟩
    | textEnd => exact absurd rfl he

/-- A line of the block of a document is the start of the next line of the document. -/
theorem line_of_extract? {content block : String} (h : extract? content = some block) {i : Nat}
    {line : List Char} (hline : (splitLines block.toList)[i]? = some line) :
    ∃ rest, (splitLines content.toList)[i + 1]? = some (line ++ rest) := by
  obtain ⟨first, after, hfirst, hcontent, -⟩ := toList_of_extract? h
  obtain ⟨rest, hrest⟩ := getElem?_splitLines_append after hline
  refine ⟨rest, ?_⟩
  unfold splitLines at *
  rw [hcontent, List.splitOn_append_cons_self_of_not_mem hfirst, List.getElem?_cons_succ, hrest]

end FrontMatter.Block
