import FrontMatter.Proofs.QuotedTexts
import FrontMatter.Text.Lines
import FrontMatter.Yaml.Token.Stream

/-!
# `FrontMatter.Proofs.EntryTokens` — the tokens of a block of entries

A block of entries has one entry in each line: a plain key, a colon, a space and a value. The lexer
reads the key as a scalar and remembers it; at the colon it puts a key token before it, and the
start of the mapping before the first one. So a block gives the start of a mapping, four tokens for
each entry, and the end of the mapping.

## Contents

* `IsPlainKey`, `scanPlain_of_scanGap`, `scanPlain_key`: the keys.
* `SkipsTo`: going to the next token; `Arrives`: being before the next line or the end.
* `StepsTo`, `Lexes`: one step of the lexer, and all steps up to the end.
* `stepsTo_key`, `stepsTo_colon`: the first two steps of a line; `stepsTo_of_fetchToken`: the third.
* `ScalarText`, `entryKinds`, `EntryLine`: the entries, their tokens and their lines.
* `EntryLine.IsBlockOf`: the texts of blocks, with or without a line feed at the end.
* `lexes_line`, `lexes_further`: one line, and the lines one after the other, by induction.
* `exists_tokens_of_lines`: the tokens of a block.
* `readsValue_quoted`: texts in single quotes as values.
-/

namespace FrontMatter.Yaml

open Cursor

/-! ## The characters of keys -/

/-- A lower-case letter of ASCII. -/
def IsLowercase (c : Char) : Prop :=
  'a' ≤ c ∧ c ≤ 'z'

instance (c : Char) : Decidable (IsLowercase c) :=
  inferInstanceAs (Decidable ('a' ≤ c ∧ c ≤ 'z'))

/-- A lower-case letter, a digit, an underscore or a hyphen. -/
def IsPlainKeyChar (c : Char) : Prop :=
  IsLowercase c ∨ ('0' ≤ c ∧ c ≤ '9') ∨ c = '_' ∨ c = '-'

instance (c : Char) : Decidable (IsPlainKeyChar c) :=
  inferInstanceAs (Decidable (IsLowercase c ∨ ('0' ≤ c ∧ c ≤ '9') ∨ c = '_' ∨ c = '-'))

/-- Whether all characters of a text may stand in keys is decided along the text. -/
instance (cs : List Char) : Decidable (∀ c ∈ cs, IsPlainKeyChar c) :=
  List.decidableBAll IsPlainKeyChar cs

/-- Characters are ordered by their numbers. -/
theorem le_iff_toNat_le {c d : Char} : c ≤ d ↔ c.toNat ≤ d.toNat :=
  Iff.rfl

/-- A lower-case letter is none that is not. -/
theorem IsLowercase.ne {c d : Char} (h : IsLowercase c) (hd : ¬ IsLowercase d) : c ≠ d := by
  rintro rfl
  exact hd h

/-- A character of a key is none that is not. -/
theorem IsPlainKeyChar.ne {c d : Char} (h : IsPlainKeyChar c) (hd : ¬ IsPlainKeyChar d) :
    c ≠ d := by
  rintro rfl
  exact hd h

/-- A character between two printable ones is printable. -/
theorem isPrintable_of_le {c lower upper : Char} (hlower : IsPrintable lower)
    (hupper : IsPrintable upper) (hl : lower ≤ c) (hu : c ≤ upper) : IsPrintable c :=
  ⟨Nat.le_trans hlower.1 (le_iff_toNat_le.mp hl), Nat.le_trans (le_iff_toNat_le.mp hu) hupper.2⟩

/-- A lower-case letter is printable. -/
theorem IsLowercase.isPrintable {c : Char} (h : IsLowercase c) : IsPrintable c :=
  @isPrintable_of_le c 'a' 'z' (by decide) (by decide) h.1 h.2

/-- A character of a key is printable. -/
theorem IsPlainKeyChar.isPrintable {c : Char} (h : IsPlainKeyChar c) : IsPrintable c := by
  rcases h with hletter | ⟨hl, hu⟩ | rfl | rfl
  · exact hletter.isPrintable
  · exact @isPrintable_of_le c '0' '9' (by decide) (by decide) hl hu
  · decide
  · decide

/-- A plain key: a lower-case letter, and characters of keys after it. -/
inductive IsPlainKey : List Char → Prop
  | mk {first : Char} {rest : List Char} (hfirst : IsLowercase first)
      (hrest : ∀ c ∈ rest, IsPlainKeyChar c) : IsPlainKey (first :: rest)

/-- The characters of a plain key. -/
theorem IsPlainKey.isPlainKeyChar {key : List Char} (h : IsPlainKey key) :
    ∀ c ∈ key, IsPlainKeyChar c := by
  cases h with
  | mk hfirst hrest =>
    rintro c (_ | ⟨_, hc⟩)
    · exact .inl hfirst
    · exact hrest c hc

/-- A character with which a token may start. -/
def StartsToken (x : Char) : Prop :=
  IsPrintable x ∧ x ≠ ' ' ∧ x ≠ '#'

instance (x : Char) : Decidable (StartsToken x) :=
  inferInstanceAs (Decidable (IsPrintable x ∧ x ≠ ' ' ∧ x ≠ '#'))

/-- A token may start with a lower-case letter. -/
theorem IsLowercase.startsToken {x : Char} (hx : IsLowercase x) : StartsToken x :=
  ⟨hx.isPrintable, hx.ne (by decide), hx.ne (by decide)⟩

/-- A plain key is not empty. -/
theorem IsPlainKey.ne_nil {key : List Char} (h : IsPlainKey key) : key ≠ [] := by
  cases h with
  | mk _ _ => exact List.cons_ne_nil _ _

/-- A character of a key goes on with a plain scalar, whatever is next. -/
theorem IsPlainKeyChar.continuesPlain {c : Char} (h : IsPlainKeyChar c) (k : PlainContext)
    (hflow : k.inFlow = false) (next : Char) : continuesPlain k c next = true := by
  have hcolon : c ≠ ':' := h.ne (by decide)
  have hspace : c ≠ ' ' := h.ne (by decide)
  simp [Yaml.continuesPlain, hcolon, hflow, h.isPrintable.not_isStop hspace]

/-- Characters of keys are read as a plain scalar, if a plain scalar stops after them, and the gap
there is empty or ends before the column of its lines. -/
theorem scanPlain_of_scanGap {first : Char} {chars rest : List Char}
    (hchars : ∀ c ∈ first :: chars, IsPlainKeyChar c) (v : Version) {indent : Nat} {m : Mark}
    (hend : EndsRun (continuesPlain ⟨v, false⟩) rest) {gap : Gap} {c : Cursor}
    (hgap : scanGap ⟨rest, m.along (first :: chars).length⟩ = (gap, c))
    (hstops : gap.text.isEmpty = true ∨ c.column < indent) :
    scanPlain ⟨v, false⟩ indent ⟨first :: chars ++ rest, m⟩
      = ((String.ofList (first :: chars), gap.endsLine), c) := by
  have hspan : span₂ (continuesPlain ⟨v, false⟩) ⟨first :: chars ++ rest, m⟩
      = (first :: chars, ⟨rest, m.along (first :: chars).length⟩) := by
    apply span₂_append _ _ hend
    · exact fun c hc => (hchars c hc).isPrintable
    · exact fun c hc next => (hchars c hc).continuesPlain _ rfl next
  have hstarts : (peek ⟨first :: chars ++ rest, m⟩ == '#' || (first :: chars).isEmpty) = false := by
    simpa [peek] using (hchars first List.mem_cons_self).ne (by decide)
  have hends : (gap.text.isEmpty || (!(false : Bool) && decide (c.column < indent))) = true := by
    simpa using hstops
  unfold scanPlain steps scanPlainFrom
  rw [hspan]
  dsimp only
  rw [hstarts, hgap]
  dsimp only
  rw [hends]
  simp

/-- A plain key before a colon and a space is read as a plain scalar. -/
theorem scanPlain_key {key : List Char} (hkey : IsPlainKey key) (v : Version) (indent : Nat)
    (rest : List Char) (m : Mark) :
    scanPlain ⟨v, false⟩ indent ⟨key ++ ':' :: ' ' :: rest, m⟩
      = ((String.ofList key, false), ⟨':' :: ' ' :: rest, m.along key.length⟩) := by
  have hgap : scanGap ⟨':' :: ' ' :: rest, m.along key.length⟩
      = (⟨[], false⟩, ⟨':' :: ' ' :: rest, m.along key.length⟩) := by
    have hnone : span (· == ' ') ⟨':' :: ' ' :: rest, m.along key.length⟩
        = ([], ⟨':' :: ' ' :: rest, m.along key.length⟩) := by
      refine @span_append (· == ' ') [] (':' :: ' ' :: rest) (by simp) (by simp) ?_ _
      rintro x ⟨⟩
      decide
    unfold scanGap
    rw [hnone]
    dsimp only
    rw [takeBreak_of_isPrintable (by decide)]
  have hchars := hkey.isPlainKeyChar
  cases hkey with
  | mk hfirst hrest =>
    refine scanPlain_of_scanGap hchars v ?_ hgap (.inl rfl)
    rintro x more ⟨⟩
    rfl

namespace Lexer

/-! ## Going to the next token -/

/-- Going to the next token moves a lexer in block context from one cursor to another; the flags
tell whether a key may start. -/
def SkipsTo (c : Cursor) (allowed : Bool) (c' : Cursor) (allowed' : Bool) : Prop :=
  ∀ l : Lexer, l.flow = [] → l.cursor = c → l.keyAllowed = allowed →
    l.skipToToken = { l with cursor := c', keyAllowed := allowed' }

/-- Going to the next token is skipping blanks, where no byte order mark is next. -/
theorem skipsTo_of_skipBlanks {c c' : Cursor} {allowed allowed' : Bool} (hmark : c.peek ≠ '\uFEFF')
    (h : skipBlanks false c.steps allowed c = (allowed', c')) : SkipsTo c allowed c' allowed' := by
  rintro l hflow rfl rfl
  unfold skipToToken
  simp [inFlow, hflow, hmark, h]

/-- Spaces before a token are skipped, and nothing else. -/
theorem skipBlanks_of_startsToken {x : Char} (hx : StartsToken x) {spaces : List Char}
    (hspaces : ∀ c ∈ spaces, c = ' ') (step : Char) (steps rest : List Char) (allowed : Bool)
    (m : Mark) : skipBlanks false (step :: steps) allowed ⟨spaces ++ x :: rest, m⟩
      = (allowed, ⟨x :: rest, m.along spaces.length⟩) := by
  obtain ⟨hprintable, hspace, hnumber⟩ := hx
  have hskip : skipWhile (fun x => x == ' ' || (false && x == '\t')) ⟨spaces ++ x :: rest, m⟩
      = ⟨x :: rest, m.along spaces.length⟩ := by
    apply skipWhile_append
    · intro c hc
      rw [hspaces c hc]
      decide
    · intro c hc
      rw [hspaces c hc]
      rfl
    · rintro y ⟨⟩
      simpa using hspace
  have hnoComment : ¬ (peek ⟨x :: rest, m.along spaces.length⟩ == '#') = true := by
    simpa [peek] using hnumber
  unfold skipBlanks
  rw [hskip]
  dsimp only
  rw [if_neg hnoComment, takeBreak_of_isPrintable hprintable]

/-- A line feed is skipped, and then what comes after it, where a key may start. -/
theorem skipBlanks_lineFeed (step : Char) (steps rest : List Char) (allowed : Bool) (m : Mark) :
    skipBlanks false (step :: steps) allowed ⟨'\n' :: rest, m⟩
      = skipBlanks false steps true ⟨rest, m.index + 1, m.line + 1, 0⟩ := by
  have hstay : skipWhile (fun x => x == ' ' || (false && x == '\t')) ⟨'\n' :: rest, m⟩
      = ⟨'\n' :: rest, m⟩ := by
    refine skipWhile_of_end ?_ m
    rintro y ⟨⟩
    decide
  have hnoComment : ¬ (peek ⟨'\n' :: rest, m⟩ == '#') = true := by simp [peek]
  rw [skipBlanks, hstay, if_neg hnoComment, takeBreak_lineFeed, Bool.not_false, Bool.or_true]

/-- At the end nothing is skipped. -/
theorem skipBlanks_nil (step : Char) (steps : List Char) (allowed : Bool) (m : Mark) :
    skipBlanks false (step :: steps) allowed ⟨[], m⟩ = (allowed, ⟨[], m⟩) := by
  have hstay : skipWhile (fun x => x == ' ' || (false && x == '\t')) ⟨[], m⟩ = ⟨[], m⟩ :=
    skipWhile_of_end (by simp) m
  rw [skipBlanks, hstay]
  simp [peek, endMark, takeBreak_nil]

section SkipsTo

variable {x : Char} (hx : StartsToken x) (rest : List Char) (m : Mark) (allowed : Bool)

include hx

/-- A lexer before a token stays there. -/
theorem skipsTo_self : SkipsTo ⟨x :: rest, m⟩ allowed ⟨x :: rest, m⟩ allowed :=
  skipsTo_of_skipBlanks hx.1.ne_breaks.2.2.2
    (@skipBlanks_of_startsToken x hx [] (by simp) _ _ rest allowed m)

/-- A lexer before a space and a token moves over the space. -/
theorem skipsTo_space :
    SkipsTo ⟨' ' :: x :: rest, m⟩ allowed ⟨x :: rest, m.along 1⟩ allowed :=
  skipsTo_of_skipBlanks (by simp [peek])
    (@skipBlanks_of_startsToken x hx [' '] (by simp) _ _ rest allowed m)

/-- A lexer before a line feed and a token moves to the next line, where a key may start. -/
theorem skipsTo_lineFeed : SkipsTo ⟨'\n' :: x :: rest, m⟩ allowed
    ⟨x :: rest, m.index + 1, m.line + 1, 0⟩ true := by
  apply skipsTo_of_skipBlanks
  · simp [peek]
  · unfold steps
    rw [skipBlanks_lineFeed]
    exact @skipBlanks_of_startsToken x hx [] (by simp) '\n' (x :: rest) rest true
      ⟨m.index + 1, m.line + 1, 0⟩

end SkipsTo

/-- A lexer at the end stays there. -/
theorem skipsTo_nil (m : Mark) (allowed : Bool) : SkipsTo ⟨[], m⟩ allowed ⟨[], m⟩ allowed :=
  skipsTo_of_skipBlanks (by simp [peek, endMark]) (skipBlanks_nil _ _ allowed m)

/-- A lexer before the last line feed moves to the end. -/
theorem skipsTo_lastFeed (m : Mark) (allowed : Bool) :
    SkipsTo ⟨['\n'], m⟩ allowed ⟨[], m.index + 1, m.line + 1, 0⟩ true := by
  apply skipsTo_of_skipBlanks
  · simp [peek]
  · unfold steps
    rw [skipBlanks_lineFeed]
    exact skipBlanks_nil _ _ true _

/-! ## Steps -/

/-- A lexer takes a step: some tokens are settled, and then it reads one. -/
def StepsTo (l : Lexer) (ready : List Token) (l' : Lexer) : Prop :=
  l.step = (ready, .ok (.next l'))

/-- A lexer reads the rest of its text, and the tokens that it still gives are of the given kinds;
`fuel` steps are enough. -/
def Lexes (fuel : Nat) (l : Lexer) (kinds : List Token.Kind) : Prop :=
  ∀ done : Array Token, ∃ ts m,
    TokenStream.run fuel l done = ⟨done.toList ++ ts, .ok m⟩ ∧ ts.map Token.kind = kinds

/-- A step before the steps that read the rest. -/
theorem StepsTo.lexes {l l' : Lexer} {ready : List Token} (h : StepsTo l ready l') {fuel : Nat}
    {kinds : List Token.Kind} (hrest : Lexes fuel l' kinds) :
    Lexes (fuel + 1) l (ready.map Token.kind ++ kinds) := by
  intro done
  obtain ⟨ts, m, hrun, hkinds⟩ := hrest (done.appendList ready)
  refine ⟨ready ++ ts, m, ?_, ?_⟩
  · rw [TokenStream.run, h]
    dsimp only
    rw [hrun]
    simp
  · rw [List.map_append, hkinds]

/-- No block is closed where none is further right. -/
theorem closeBlocks_of_le {l : Lexer} (hflow : l.flow = []) {column : Nat}
    (h : ∀ n ∈ l.indents, n ≤ column) : l.closeBlocks column = l := by
  have hnone : l.indents.takeWhile (fun (n : Nat) => (column : Int) < (n : Int)) = [] := by
    cases hi : l.indents with
    | nil => rfl
    | cons n ns =>
      have hn : n ≤ column := h n (hi ▸ List.mem_cons_self)
      rw [List.takeWhile_cons_of_neg]
      simpa using hn
  have hblock : ¬ l.inFlow = true := by simp [inFlow, hflow]
  unfold closeBlocks
  rw [if_neg hblock, hnone]
  simp

/-- A lexer goes to the next token and reads it, where no pending key is stale before it and no
block is closed. -/
theorem fetch_of_skipToToken {l l₁ : Lexer} (hskip : l.skipToToken = l₁)
    (hdrop : l₁.dropStale = .ok l₁) (hflow : l₁.flow = [])
    (hindents : ∀ n ∈ l₁.indents, n ≤ l₁.cursor.column) :
    l.fetch = if l₁.cursor.atEnd then Step.finished <$> l₁.endDocument
      else Step.next <$> l₁.fetchToken := by
  unfold fetch
  rw [hskip, hdrop]
  simp only [bind, Except.bind, closeBlocks_of_le hflow hindents]
  cases l₁.endDocument <;> cases l₁.fetchToken <;> rfl

/-- A lexer that is not at the end reads a token. -/
theorem fetch_of_fetchToken {l l₁ l' : Lexer} (hskip : l.skipToToken = l₁)
    (hdrop : l₁.dropStale = .ok l₁) (hflow : l₁.flow = [])
    (hindents : ∀ n ∈ l₁.indents, n ≤ l₁.cursor.column) (hmore : l₁.cursor.rest ≠ [])
    (htoken : l₁.fetchToken = .ok l') : l.fetch = .ok (.next l') := by
  have hend : l₁.cursor.atEnd = false := by simpa [atEnd] using hmore
  rw [fetch_of_skipToToken hskip hdrop hflow hindents, hend, htoken]
  rfl

/-- A step is what is settled and what is read then. -/
theorem stepsTo_of_fetch {l l₁ l₂ l' : Lexer} {ready : List Token} (hdrop : l.dropStale = .ok l₁)
    (hrelease : l₁.release = (ready, l₂)) (hfetch : l₂.fetch = .ok (.next l')) :
    StepsTo l ready l' := by
  unfold StepsTo step
  rw [hdrop]
  dsimp only
  rw [hrelease, hfetch]

/-- A lexer in block context without a pending key. -/
def idle (c : Cursor) (indents : List Nat) (allowed : Bool) (held : List Token)
    (released : Nat) : Lexer :=
  { cursor := c, version := .current, flow := [], indents := indents, keyAllowed := allowed,
    key := none, held := held, released := released }

section Idle

variable {c c' : Cursor} {indents : List Nat} {allowed allowed' : Bool} {held : List Token}
  {released : Nat}

/-- Without pending keys none is stale. -/
theorem dropStale_idle :
    (idle c indents allowed held released).dropStale = .ok (idle c indents allowed held released) :=
  rfl

/-- Without pending keys all tokens are settled. -/
theorem release_idle : (idle c indents allowed held released).release
    = (held, idle c indents allowed [] (released + held.length)) :=
  rfl

/-- A lexer without a pending key goes to the next token and reads it. -/
theorem stepsTo_of_fetchToken {l' : Lexer} (hskip : SkipsTo c allowed c' allowed')
    (hindents : ∀ n ∈ indents, n ≤ c'.column) (hmore : c'.rest ≠ [])
    (htoken : (idle c' indents allowed' [] (released + held.length)).fetchToken = .ok l') :
    StepsTo (idle c indents allowed held released) held l' :=
  stepsTo_of_fetch dropStale_idle release_idle
    (fetch_of_fetchToken (hskip _ rfl rfl rfl) dropStale_idle rfl hindents hmore htoken)

/-! ## The steps of a line -/

/-- A lexer after the key of a line, which is pending: it may be the key of an entry. -/
def atColon (key rest : List Char) (m : Mark) (indents : List Nat) (required : Bool)
    (released : Nat) : Lexer :=
  { idle ⟨':' :: ' ' :: rest, m.along key.length⟩ indents false
      [⟨.scalar (String.ofList key) true, m, m.along key.length⟩] released with
    key := some ⟨released, required, m⟩ }

/-- A token that starts with a character of keys but the hyphen is a plain scalar. -/
theorem fetchToken_of_isPlainKeyChar {x : Char} (hx : IsPlainKeyChar x) (hhyphen : x ≠ '-')
    {l : Lexer} (hpeek : l.cursor.peek = x) : l.fetchToken = l.fetchPlain := by
  have hne : ∀ d, ¬ IsPlainKeyChar d → (x == d) = false := fun d hd => by simpa using hx.ne hd
  have hminus : (x == '-') = false := by simpa using hhyphen
  have hspace : x ≠ ' ' := hx.ne (by decide)
  have hstarts : ∀ k next, startsPlain k x next = true := by
    intro k next
    have hplain : isIndicator x = false := by
      have hmarks : [',', '[', ']', '\x7b', '\x7d', '?', ':', '#', '&', '*', '!', '|', '>', '\'',
          '"', '%', '@', '\x60'].all (fun d => decide (¬ IsPlainKeyChar d)) = true := by decide
      rw [Bool.eq_false_iff]
      intro hmark
      refine of_decide_eq_true (List.all_eq_true.mp hmarks x ?_) hx
      simpa [isIndicator, isFlowMark, or_assoc, hhyphen] using hmark
    simp [startsPlain, hplain, hx.isPrintable.not_isStop hspace]
  unfold fetchToken
  simp only [hpeek, atTriple, hstarts, hminus, hne '%' (by decide),
    hne '.' (by decide), hne '[' (by decide), hne ']' (by decide), hne '\x7b' (by decide),
    hne '\x7d' (by decide), hne ',' (by decide), hne '?' (by decide), hne ':' (by decide),
    hne '*' (by decide), hne '&' (by decide), hne '!' (by decide), hne '|' (by decide),
    hne '>' (by decide), hne '\'' (by decide), hne '"' (by decide), Bool.false_and, Bool.and_false,
    Bool.false_eq_true, if_false, if_true]

/-- A plain scalar is added, after what is remembered about keys. -/
theorem fetchPlain_of_scanPlain {l l' : Lexer} (hsave : l.saveKey = .ok l') {text : String}
    {endsLine : Bool} {c : Cursor} (hscan : scanPlain ⟨l'.version, l'.inFlow⟩ l'.contentIndent
      l'.cursor = ((text, endsLine), c)) :
    l.fetchPlain = .ok ({ l' with keyAllowed := endsLine }.takeTo c (.scalar text true)) := by
  unfold fetchPlain
  rw [hsave]
  simp only [bind, Except.bind]
  rw [hscan]
  rfl

/-- A plain key at the start of a line is read as a plain scalar, and is pending. -/
theorem fetchToken_key {key : List Char} (hkey : IsPlainKey key) (rest : List Char) (m : Mark) :
    ∃ required, (idle ⟨key ++ ':' :: ' ' :: rest, m⟩ indents true [] released).fetchToken
      = .ok (atColon key rest m indents required released) := by
  let l := idle ⟨key ++ ':' :: ' ' :: rest, m⟩ indents true [] released
  have hfetch : l.fetchToken = l.fetchPlain := by
    cases hkey with
    | mk hfirst _ => exact fetchToken_of_isPlainKeyChar (.inl hfirst) (hfirst.ne (by decide)) rfl
  have hsave : l.saveKey
      = .ok { l with key := some ⟨released, l.indent == (m.column : Int), m⟩ } := rfl
  exact ⟨l.indent == (m.column : Int),
    hfetch.trans (fetchPlain_of_scanPlain hsave (scanPlain_key hkey .current _ rest m))⟩

/-- A colon before a space is the one before a value. -/
theorem fetchToken_of_colon {l : Lexer} (hflow : l.flow = []) (hpeek : l.cursor.peek = ':')
    (hnext : l.cursor.peekAt 1 = ' ') : l.fetchToken = l.fetchValue := by
  have hstop : isStop ' ' = true := by decide
  unfold fetchToken
  simp [hpeek, atTriple, isValue, hflow, hnext, hstop]

/-- The kinds of the tokens before the first key: there the mapping starts. -/
def opening (indents : List Nat) : List Token.Kind :=
  if indents = [] then [.blockMappingStart] else []

/-- The tokens of a key and the colon after it. -/
def keyTokens (indents : List Nat) (key : List Char) (m : Mark) : List Token :=
  (opening indents).map (fun kind => ⟨kind, m, m⟩)
    ++ [⟨.key, m, m⟩, ⟨.scalar (String.ofList key) true, m, m.along key.length⟩,
      ⟨.value, m.along key.length, m.along (key.length + 1)⟩]

/-- The kinds of the tokens of a key. -/
theorem map_kind_keyTokens (indents : List Nat) (key : List Char) (m : Mark) :
    (keyTokens indents key m).map Token.kind
      = opening indents ++ [.key, .scalar (String.ofList key) true, .value] := by
  simp [keyTokens, Function.comp_def]

/-- At the colon the pending key turns out to be a key. -/
theorem fetchToken_colon (key rest : List Char) {m : Mark} (hm : m.column = 0)
    (hindents : indents = [] ∨ indents = [0]) (required : Bool) :
    (atColon key rest m indents required released).fetchToken
      = .ok (idle ⟨' ' :: rest, m.along (key.length + 1)⟩ [0] false
          (keyTokens indents key m) released) := by
  have hskip : skip 1 ⟨':' :: ' ' :: rest, m.along key.length⟩
      = ⟨' ' :: rest, m.along (key.length + 1)⟩ := by
    rw [← Mark.along_along]
    exact @skip_append [':'] (by decide) (' ' :: rest) (m.along key.length)
  rw [fetchToken_of_colon rfl rfl rfl]
  rcases hindents with rfl | rfl <;>
    simp [fetchValue, atColon, idle, inFlow, openBlock, indent, hm, insertAt, take, push, hskip,
      opening, keyTokens, pure, Except.pure]

/-- A key of at most the reach of keys is not stale at its colon. -/
theorem dropStale_atColon {key : List Char} (hkey : key.length ≤ keyReach) (rest : List Char)
    (m : Mark) (required : Bool) : (atColon key rest m indents required released).dropStale
      = .ok (atColon key rest m indents required released) := by
  have hnear : isStale (m.along key.length) ⟨released, required, m⟩ = false := by
    simpa [isStale, Mark.along] using hkey
  have hpending : stillPending (m.along key.length) (some ⟨released, required, m⟩)
      = .ok (some ⟨released, required, m⟩) := by
    simp [stillPending, hnear]
  unfold dropStale
  simp only [atColon, idle, hpending]
  rfl

/-- At its colon a pending key holds its token back. -/
theorem release_atColon (key rest : List Char) (m : Mark) (required : Bool) :
    (atColon key rest m indents required released).release
      = ([], atColon key rest m indents required released) := by
  have hfirst : (atColon key rest m indents required released).firstPending = some released := rfl
  unfold release
  rw [hfirst]
  simp [atColon, idle]

/-- The first step of a line reads the key. -/
theorem stepsTo_key {key : List Char} (hkey : IsPlainKey key) {rest : List Char} {m : Mark}
    (hskip : SkipsTo c allowed ⟨key ++ ':' :: ' ' :: rest, m⟩ true)
    (hindents : indents = [] ∨ indents = [0]) : ∃ required,
      StepsTo (idle c indents allowed held released) held
        (atColon key rest m indents required (released + held.length)) := by
  obtain ⟨required, htoken⟩ := @fetchToken_key indents (released + held.length) key hkey rest m
  refine ⟨required, stepsTo_of_fetchToken hskip ?_ ?_ htoken⟩
  · rcases hindents with rfl | rfl <;> simp
  · simp

/-- The second step of a line reads the colon. -/
theorem stepsTo_colon {key : List Char} (hkey : key.length ≤ keyReach) (rest : List Char) {m : Mark}
    (hm : m.column = 0) (hindents : indents = [] ∨ indents = [0]) (required : Bool) :
    StepsTo (atColon key rest m indents required released) []
      (idle ⟨' ' :: rest, m.along (key.length + 1)⟩ [0] false
        (keyTokens indents key m) released) := by
  have hdrop := @dropStale_atColon indents released key hkey rest m required
  refine stepsTo_of_fetch hdrop (release_atColon key rest m required) ?_
  refine fetch_of_fetchToken ?_ hdrop rfl ?_ ?_ (fetchToken_colon key rest hm hindents required)
  · exact skipsTo_self (by decide) (' ' :: rest) (m.along key.length) false _ rfl rfl rfl
  · rcases hindents with rfl | rfl <;> simp [atColon, idle]
  · simp [atColon, idle]

end Idle

/-! ## Lines -/

/-- A lexer comes to the rest of a text: to the start of a line, where a key may start, or to the
end. -/
def Arrives (c : Cursor) (allowed : Bool) (rest : List Char) : Prop :=
  ∃ m allowed', SkipsTo c allowed ⟨rest, m⟩ allowed' ∧ (rest ≠ [] → m.column = 0 ∧ allowed' = true)

/-- The end of the text, the last line feed before it, or a line feed and a line that starts with a
lower-case letter. -/
inductive EndsLine : List Char → Prop
  | atEnd : EndsLine []
  | lastFeed : EndsLine ['\n']
  | nextLine {x : Char} {more : List Char} (hx : IsLowercase x) : EndsLine ('\n' :: x :: more)

/-- Where a line ends a lexer comes to the next one. -/
theorem EndsLine.arrives {rest : List Char} (h : EndsLine rest) (m : Mark) (allowed : Bool) :
    Arrives ⟨rest, m⟩ allowed rest.tail := by
  cases h with
  | atEnd => exact ⟨m, allowed, skipsTo_nil m allowed, by simp⟩
  | lastFeed => exact ⟨_, true, skipsTo_lastFeed m allowed, by simp⟩
  | @nextLine x more hx =>
    exact ⟨_, true, skipsTo_lineFeed hx.startsToken more m allowed, fun _ => ⟨rfl, rfl⟩⟩

end Lexer

/-! ## Entries -/

/-- A scalar in a text, and whether it stands without quotes. -/
structure ScalarText where
  text : String
  plain : Bool

/-- The kind of the token of a scalar. -/
def ScalarText.kind (t : ScalarText) : Token.Kind :=
  .scalar t.text t.plain

/-- The kinds of the tokens of an entry: a key and a value that are scalars. -/
def entryKinds (e : ScalarText × ScalarText) : List Token.Kind :=
  [.key, e.1.kind, .value, e.2.kind]

/-- A line of a block of entries: a key, the value as it is written, and the scalar that it is read
as. -/
structure EntryLine where
  key : List Char
  written : List Char
  value : ScalarText

namespace EntryLine

open Lexer

/-- The characters of a line. -/
def chars (e : EntryLine) : List Char :=
  e.key ++ ':' :: ' ' :: e.written

/-- The key of a line as a text. -/
def name (e : EntryLine) : String :=
  String.ofList e.key

/-- The key and the value that a line is read as. -/
def entry (e : EntryLine) : ScalarText × ScalarText :=
  (⟨e.name, true⟩, e.value)

/-- The value of a line is read as its text, up to the end of the line. -/
def ReadsValue (e : EntryLine) : Prop :=
  ∃ x more, e.written = x :: more ∧ StartsToken x ∧
    ∀ rest, EndsLine rest → ∀ m released, ∃ c allowed stop,
      (idle ⟨e.written ++ rest, m⟩ [0] false [] released).fetchToken
        = .ok (idle c [0] allowed [⟨e.value.kind, m, stop⟩] released)
      ∧ Arrives c allowed rest.tail

/-- A line that is read as an entry. -/
structure IsRead (e : EntryLine) : Prop where
  key : IsPlainKey e.key
  near : e.key.length ≤ keyReach
  printable : ∀ c ∈ e.written, IsPrintable c
  value : e.ReadsValue

/-- The characters of further lines, each with the line feed before it. -/
def further (lines : List EntryLine) : List Char :=
  lines.flatMap fun e => '\n' :: e.chars

/-- The end of a block: nothing, or a line feed after its last line. -/
inductive EndsBlock : List Char → Prop
  | none : EndsBlock []
  | feed : EndsBlock ['\n']

/-- A text that consists of some lines, with or without a line feed after the last one. -/
def IsBlockOf (lines : List EntryLine) (text : String) : Prop :=
  ∃ ending, EndsBlock ending ∧ text.toList = Text.joinLines (lines.map chars) ++ ending

/-- A block may end without a line feed. -/
theorem isBlockOf_of_toList {lines : List EntryLine} {text : String}
    (h : text.toList = Text.joinLines (lines.map chars)) : IsBlockOf lines text :=
  ⟨[], .none, by rw [h, List.append_nil]⟩

/-- After the line feed at the end of a block there is nothing. -/
theorem EndsBlock.tail {ending : List Char} (h : EndsBlock ending) : ending.tail = [] := by
  cases h <;> rfl

/-- Before further lines, and at the end of the block, a line ends. -/
theorem endsLine_further {lines : List EntryLine} (h : ∀ e ∈ lines, e.IsRead) {ending : List Char}
    (hending : EndsBlock ending) : EndsLine (further lines ++ ending) := by
  cases lines with
  | nil =>
    cases hending with
    | none => exact .atEnd
    | feed => exact .lastFeed
  | cons e lines =>
    obtain ⟨key, written, value⟩ := e
    obtain ⟨hfirst, hmore⟩ := (h _ List.mem_cons_self).key
    exact .nextLine hfirst

/-- A line is read in three steps, and then the further lines are. -/
theorem lexes_line {e : EntryLine} (he : e.IsRead) {rest : List Char} (hrest : EndsLine rest)
    {c : Cursor} {allowed : Bool} (harrives : Arrives c allowed (e.chars ++ rest))
    {indents : List Nat} (hindents : indents = [] ∨ indents = [0]) {held : List Token}
    {released fuel : Nat} {after : List Token.Kind}
    (hfurther : ∀ c allowed held released, Arrives c allowed rest.tail →
      Lexes fuel (idle c [0] allowed held released) (held.map Token.kind ++ after)) :
    Lexes (fuel + 3) (idle c indents allowed held released)
      (held.map Token.kind ++ (opening indents ++ (entryKinds e.entry ++ after))) := by
  obtain ⟨m, allowed', hskip, hstart⟩ := harrives
  obtain ⟨hm, rfl⟩ := hstart (by simp [chars])
  have hchars : e.chars ++ rest = e.key ++ ':' :: ' ' :: (e.written ++ rest) := by simp [chars]
  rw [hchars] at hskip
  obtain ⟨required, hkey⟩ :=
    @stepsTo_key c indents allowed held released _ he.key _ _ hskip hindents
  have hcolon := @stepsTo_colon indents (released + held.length) _ he.near (e.written ++ rest) m hm
    hindents required
  obtain ⟨x, more, hwritten, hx, hvalue⟩ := he.value
  obtain ⟨c', allowed', stop, htoken, hnext⟩ := hvalue rest hrest
    ((m.along (e.key.length + 1)).along 1)
    (released + held.length + (keyTokens indents e.key m).length)
  have hspace : SkipsTo ⟨' ' :: (e.written ++ rest), m.along (e.key.length + 1)⟩ false
      ⟨e.written ++ rest, (m.along (e.key.length + 1)).along 1⟩ false := by
    rw [hwritten]
    exact skipsTo_space hx (more ++ rest) _ false
  have hread := stepsTo_of_fetchToken hspace (by simp) (by simp [hwritten]) htoken
  have hall := hkey.lexes (hcolon.lexes (hread.lexes (hfurther _ _ _ _ hnext)))
  rw [map_kind_keyTokens] at hall
  simpa [entryKinds, entry, name, ScalarText.kind] using hall

/-- At the end of the text the mapping is closed. -/
theorem lexes_end {c : Cursor} {allowed : Bool} (harrives : Arrives c allowed [])
    {held : List Token} {released : Nat} (fuel : Nat) :
    Lexes (fuel + 1) (idle c [0] allowed held released)
      (held.map Token.kind ++ [.blockEnd]) := by
  obtain ⟨m, allowed', hskip, -⟩ := harrives
  have hfetch : (idle c [0] allowed [] (released + held.length)).fetch
      = .ok (.finished (idle ⟨[], m⟩ [] false [⟨.blockEnd, m, m⟩] (released + held.length))) := by
    have hthere := hskip (idle c [0] allowed [] (released + held.length)) rfl rfl rfl
    rw [fetch_of_skipToToken hthere rfl rfl (by simp [idle])]
    rfl
  intro done
  refine ⟨held ++ [⟨.blockEnd, m, m⟩], m, ?_, by simp⟩
  rw [TokenStream.run]
  unfold step
  rw [dropStale_idle]
  dsimp only
  rw [release_idle, hfetch]
  simp [idle]

/-- The further lines are read one after the other, and then the mapping is closed. -/
theorem lexes_further {lines : List EntryLine} (h : ∀ e ∈ lines, e.IsRead) {ending : List Char}
    (hending : EndsBlock ending) {c : Cursor} {allowed : Bool}
    (harrives : Arrives c allowed (further lines ++ ending).tail) {held : List Token}
    {released : Nat} (fuel : Nat) : Lexes (3 * lines.length + (fuel + 1))
      (idle c [0] allowed held released)
      (held.map Token.kind ++ ((lines.map entry).flatMap entryKinds ++ [.blockEnd])) := by
  induction lines generalizing c allowed held released with
  | nil =>
    rw [List.length_nil, Nat.mul_zero, Nat.zero_add]
    exact lexes_end (hending.tail ▸ harrives) fuel
  | cons e lines ih =>
    have hlines : ∀ e ∈ lines, e.IsRead := fun e he => h e (List.mem_cons_of_mem _ he)
    have hfirst : (further (e :: lines) ++ ending).tail = e.chars ++ (further lines ++ ending) :=
      List.append_assoc _ _ _
    have hline := @lexes_line e (h e List.mem_cons_self) _ (endsLine_further hlines hending) c
      allowed (hfirst ▸ harrives) [0] (.inr rfl) held released _ _
      fun c allowed held released harrives => ih hlines harrives
    have hfuel : 3 * (e :: lines).length + (fuel + 1) = 3 * lines.length + (fuel + 1) + 3 := by
      rw [List.length_cons]
      omega
    rw [hfuel, List.map_cons, List.flatMap_cons, List.append_assoc]
    exact hline

/-- Further lines are longer than three characters each. -/
theorem length_le_further (lines : List EntryLine) :
    3 * lines.length ≤ (further lines).length := by
  induction lines with
  | nil => exact Nat.le_refl 0
  | cons e lines ih =>
    have hfirst : further (e :: lines) = '\n' :: e.chars ++ further lines := rfl
    rw [hfirst]
    simp only [List.length_cons, List.length_append, chars]
    omega

/-- The text of a line and further lines. -/
theorem joinLines_cons (e : EntryLine) (lines : List EntryLine) :
    Text.joinLines ((e :: lines).map chars) = e.chars ++ further lines := by
  induction lines generalizing e with
  | nil => simp [Text.joinLines, further]
  | cons d lines ih =>
    have hmore := ih d
    unfold Text.joinLines at hmore ⊢
    rw [List.map_cons] at hmore ⊢
    rw [List.map_cons, List.intercalate_cons_cons, hmore]
    simp [further]

/-- The characters of a line are printable. -/
theorem IsRead.isPrintable {e : EntryLine} (h : e.IsRead) : ∀ c ∈ e.chars, IsPrintable c := by
  intro c hc
  rcases List.mem_append.mp hc with hkey | hrest
  · exact (h.key.isPlainKeyChar c hkey).isPrintable
  · rcases List.mem_cons.mp hrest with rfl | hrest
    · decide
    · rcases List.mem_cons.mp hrest with rfl | hwritten
      · decide
      · exact h.printable c hwritten

/-- The characters of a block of entries are printable or line feeds. -/
theorem isPrintable_or_lineFeed {lines : List EntryLine} (h : ∀ e ∈ lines, e.IsRead)
    {text : String} (htext : IsBlockOf lines text) {c : Char} (hc : c ∈ text.toList) :
    IsPrintable c ∨ c = '\n' := by
  obtain ⟨ending, hending, htext⟩ := htext
  rw [htext] at hc
  rcases List.mem_append.mp hc with hlines | hend
  · cases lines with
    | nil => cases hlines
    | cons e lines =>
      rw [joinLines_cons] at hlines
      rcases List.mem_append.mp hlines with hfirst | hfurther
      · exact .inl ((h e List.mem_cons_self).isPrintable c hfirst)
      · obtain ⟨d, hd, hmem⟩ := List.mem_flatMap.mp hfurther
        rcases List.mem_cons.mp hmem with rfl | hmem
        · exact .inr rfl
        · exact .inl ((h d (List.mem_cons_of_mem e hd)).isPrintable c hmem)
  · cases hending with
    | none => cases hend
    | feed => exact .inr (List.mem_singleton.mp hend)

/-- The tokens of a block of entries. -/
theorem exists_tokens_of_lines {lines : List EntryLine} (hne : lines ≠ [])
    (h : ∀ e ∈ lines, e.IsRead) {text : String} (htext : IsBlockOf lines text) : ∃ tokens mark,
      TokenStream.ofText text = ⟨tokens, .ok mark⟩ ∧ tokens.map Token.kind
        = .blockMappingStart :: ((lines.map entry).flatMap entryKinds ++ [.blockEnd]) := by
  obtain ⟨ending, hending, htext⟩ := htext
  obtain ⟨e, lines, rfl⟩ := List.exists_cons_of_ne_nil hne
  have he := h e List.mem_cons_self
  have hlines : ∀ d ∈ lines, d.IsRead := fun d hd => h d (List.mem_cons_of_mem e hd)
  rw [joinLines_cons, List.append_assoc] at htext
  have hstart : Arrives ⟨e.chars ++ (further lines ++ ending), .start⟩ true
      (e.chars ++ (further lines ++ ending)) := by
    obtain ⟨key, written, value⟩ := e
    obtain ⟨hfirst, -⟩ := he.key
    exact ⟨.start, true, skipsTo_self hfirst.startsToken _ .start true, fun _ => ⟨rfl, rfl⟩⟩
  obtain ⟨fuel, hfuel⟩ : ∃ fuel, text.length + 2 = 3 * lines.length + (fuel + 1) + 3 := by
    have hlength := length_le_further lines
    have htotal := congrArg List.length htext
    simp only [String.length_toList, List.length_append, chars, List.length_cons] at htotal
    exact ⟨text.length - 2 - 3 * lines.length, by omega⟩
  have hrun := @lexes_line e he _ (endsLine_further hlines hending) _ true hstart [] (.inl rfl) []
    0 _ _ fun c allowed held released harrives => lexes_further hlines hending harrives fuel
  obtain ⟨tokens, mark, htokens, hkinds⟩ := hrun #[]
  refine ⟨tokens, mark, ?_, by simpa [opening] using hkinds⟩
  unfold TokenStream.ofText Lexer.ofText Cursor.ofText
  rw [hfuel, htext]
  exact htokens

/-! ## Values -/

/-- A quote starts a text in single quotes. -/
theorem fetchToken_of_quote {l : Lexer} (hpeek : l.cursor.peek = '\'') :
    l.fetchToken = l.fetchQuoted false := by
  unfold fetchToken
  simp [hpeek, atTriple]

/-- A printable text in single quotes is read as a value. -/
theorem readsValue_quoted (key : List Char) {cs : List Char} (h : ∀ c ∈ cs, IsPrintable c) :
    ReadsValue ⟨key, '\'' :: quotedRest cs [], ⟨String.ofList cs, false⟩⟩ := by
  refine ⟨'\'', _, rfl, by decide, ?_⟩
  intro rest hrest m released
  have hwritten : ('\'' :: quotedRest cs []) ++ rest = '\'' :: quotedRest cs rest := by
    simp [quotedRest]
  have hnoQuote : rest.head? ≠ some '\'' := by
    cases hrest <;> simp
  have hscan := scanQuoted_doubled h hnoQuote m
  refine ⟨afterQuoted cs rest (m.along 1), false, (afterQuoted cs rest (m.along 1)).mark, ?_,
    hrest.arrives _ false⟩
  dsimp only
  rw [hwritten, fetchToken_of_quote rfl]
  have hsave : (idle ⟨'\'' :: quotedRest cs rest, m⟩ [0] false [] released).saveKey
      = .ok (idle ⟨'\'' :: quotedRest cs rest, m⟩ [0] false [] released) := rfl
  unfold fetchQuoted
  rw [hsave]
  simp only [bind, Except.bind, idle]
  rw [hscan]
  rfl

end EntryLine

end FrontMatter.Yaml
