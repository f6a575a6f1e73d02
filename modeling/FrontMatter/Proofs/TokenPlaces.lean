import FrontMatter.Proofs.ScanPlaces
import FrontMatter.Yaml.Token.Stream

/-!
# `FrontMatter.Proofs.TokenPlaces` — the places of tokens

The lexer keeps places: those of the tokens it holds back, and those where a key may have started.
All of them are places where it once stood. Every move of the lexer preserves this, so the tokens of
a text start and stop at places of the text, and a fault of the lexer is at one.

## Contents

* `Token.IsAt`: a token between places with a property.
* `Lexer.IsAhead`: a lexer all of whose places are ahead of a cursor.
* `yields_dropStale`, `yields_saveKey`, `isAhead_release`: keys and held tokens.
* `yields_fetchToken`, `yields_step`: one token, and one step.
* `TokenStream.IsAt`, `isAt_tokenStream`: the tokens of a text.
-/

namespace FrontMatter.Yaml

open Cursor

/-! ## Tokens and lexers -/

/-- The places where a token starts and stops have a property. -/
structure Token.IsAt (p : Mark → Prop) (t : Token) : Prop where
  start : p t.start
  stop : p t.stop

/-- Every element of the results has a property if each result has. -/
theorem Yields.mapM {α β : Type} {p : Mark → Prop} {q : β → Prop} {f : α → Except Fault β}
    {xs : List α} (h : ∀ x ∈ xs, Yields p q (f x)) :
    Yields p (fun ys => ∀ y ∈ ys, q y) (xs.mapM f) := by
  induction xs with
  | nil => exact .ok (List.forall_mem_nil q)
  | cons x xs ih =>
    rw [List.mapM_cons]
    refine (h x List.mem_cons_self).bind fun y hy => ?_
    refine (ih fun z hz => h z (List.mem_cons_of_mem x hz)).bind fun ys hys => ?_
    exact .ok (List.forall_mem_cons.mpr ⟨hy, hys⟩)

namespace Lexer

/-- The lexer's own place and all places that it keeps are ahead of a cursor. -/
structure IsAhead (start : Cursor) (l : Lexer) : Prop where
  cursor : Reaches start l.cursor
  key : ∀ k, l.key = some k → start.Ahead k.mark
  flow : ∀ f ∈ l.flow, ∀ k, f.outerKey = some k → start.Ahead k.mark
  held : ∀ t ∈ l.held, t.IsAt start.Ahead

variable {start : Cursor} {l : Lexer}

/-- Before a text there is nothing to keep. -/
theorem isAhead_ofText (s : String) : IsAhead (Cursor.ofText s) (ofText s) where
  cursor := .refl _
  key := by rintro k ⟨⟩
  flow := List.forall_mem_nil _
  held := List.forall_mem_nil _

/-- A fault at the lexer's place. -/
theorem IsAhead.yields_fault {α : Type} {q : α → Prop} (h : IsAhead start l) (cause : Cause) :
    Yields start.Ahead q (l.fault cause) :=
  h.cursor.yields_fault cause

/-- Another cursor that is ahead. -/
theorem IsAhead.moveTo {c : Cursor} (h : IsAhead start l) (hc : Reaches start c) :
    IsAhead start { l with cursor := c } :=
  ⟨hc, h.key, h.flow, h.held⟩

/-- More tokens. -/
theorem IsAhead.push {ts : List Token} (h : IsAhead start l)
    (hts : ∀ t ∈ ts, t.IsAt start.Ahead) : IsAhead start (l.push ts) :=
  ⟨h.cursor, h.key, h.flow, List.forall_mem_append.mpr ⟨h.held, hts⟩⟩

/-- A token of no length at the lexer's place. -/
theorem IsAhead.isAt_here (h : IsAhead start l) (kind : Token.Kind) :
    Token.IsAt start.Ahead ⟨kind, l.cursor.mark, l.cursor.mark⟩ :=
  ⟨h.cursor.ahead, h.cursor.ahead⟩

/-- A token up to a cursor. -/
theorem IsAhead.takeTo {c : Cursor} (h : IsAhead start l) (hc : Reaches start c)
    (kind : Token.Kind) : IsAhead start (l.takeTo c kind) :=
  (h.push (List.forall_mem_singleton.mpr ⟨h.cursor.ahead, hc.ahead⟩)).moveTo hc

/-- A token of some characters. -/
theorem IsAhead.take (h : IsAhead start l) (n : Nat) (kind : Token.Kind) :
    IsAhead start (l.take n kind) :=
  h.takeTo (h.cursor.skip n) kind

/-- Where a key may start is not a place. -/
theorem IsAhead.allowKey (h : IsAhead start l) (allowed : Bool) :
    IsAhead start { l with keyAllowed := allowed } :=
  ⟨h.cursor, h.key, h.flow, h.held⟩

/-- Without a pending key. -/
theorem IsAhead.forgetKey (h : IsAhead start l) : IsAhead start { l with key := none } :=
  ⟨h.cursor, by rintro k ⟨⟩, h.flow, h.held⟩

/-! ## Pending keys -/

/-- A key that is still pending is where it was. -/
theorem yields_stillPending {p : Mark → Prop} {m : Mark} {k : Option PendingKey} (hm : p m)
    (hk : ∀ k', k = some k' → p k'.mark) :
    Yields p (fun k => ∀ k', k = some k' → p k'.mark) (stillPending m k) := by
  cases k with
  | none => exact .ok hk
  | some k =>
    simp only [stillPending]
    split
    · exact .ok hk
    · split
      · exact .error (Fault.isAt_of_mark rfl hm)
      · exact .ok fun k' hk' => nomatch hk'

/-- Stale keys are forgotten. -/
theorem yields_dropStale (h : IsAhead start l) :
    Yields start.Ahead (IsAhead start) l.dropStale := by
  simp only [dropStale]
  refine (yields_stillPending h.cursor.ahead h.key).bind fun key hkey => ?_
  have hflow : Yields start.Ahead
      (fun fs => ∀ f ∈ fs, ∀ k, f.outerKey = some k → start.Ahead k.mark)
      (l.flow.mapM fun f => do
        let k ← stillPending l.cursor.mark f.outerKey
        return { f with outerKey := k }) :=
    Yields.mapM fun f hf =>
      (yields_stillPending h.cursor.ahead (h.flow f hf)).bind fun _ hk => .ok hk
  exact hflow.bind fun flow hflow => .ok ⟨h.cursor, hkey, hflow, h.held⟩

/-- The pending key is forgotten. -/
theorem yields_dropKey (h : IsAhead start l) : Yields start.Ahead (IsAhead start) l.dropKey := by
  unfold dropKey
  split
  · exact .ok h
  · split
    · exact h.yields_fault _
    · exact .ok h.forgetKey

/-- The lexer's place is remembered. -/
theorem yields_saveKey (h : IsAhead start l) : Yields start.Ahead (IsAhead start) l.saveKey := by
  unfold saveKey
  split
  · exact .ok h
  · refine (yields_dropKey h).bind fun l' h' => .ok ⟨h'.cursor, ?_, h'.flow, h'.held⟩
    rintro k ⟨⟩
    exact h'.cursor.ahead

/-- Tokens are released. -/
theorem isAhead_release (h : IsAhead start l) :
    (∀ t ∈ l.release.1, t.IsAt start.Ahead) ∧ IsAhead start l.release.2 := by
  unfold release
  split
  · exact ⟨h.held, h.cursor, h.key, h.flow, List.forall_mem_nil _⟩
  · exact ⟨fun t ht => h.held t (List.mem_of_mem_take ht), h.cursor, h.key, h.flow,
      fun t ht => h.held t (List.mem_of_mem_drop ht)⟩

/-! ## Block collections -/

/-- A block collection is opened. -/
theorem IsAhead.openBlock (h : IsAhead start l) (column : Nat) :
    IsAhead start (l.openBlock column).2 := by
  unfold Lexer.openBlock
  split
  · exact ⟨h.cursor, h.key, h.flow, h.held⟩
  · exact h

/-- Block collections are closed. -/
theorem IsAhead.closeBlocks (h : IsAhead start l) (column : Int) :
    IsAhead start (l.closeBlocks column) := by
  unfold Lexer.closeBlocks
  split
  · exact h
  · refine ⟨h.cursor, h.key, h.flow, List.forall_mem_append.mpr ⟨h.held, ?_⟩⟩
    rintro t ht
    obtain ⟨n, -, rfl⟩ := List.mem_map.mp ht
    exact h.isAt_here _

/-- A collection is opened at the lexer's place. -/
theorem yields_openHere (h : IsAhead start l) (cause : Cause) (kind : Token.Kind) :
    Yields start.Ahead (IsAhead start) (l.openHere cause kind) := by
  unfold openHere
  split
  · exact .ok h
  · split
    · exact h.yields_fault _
    · have hopen := h.openBlock l.cursor.column
      have hpush := hopen.push (List.forall_mem_singleton.mpr (h.isAt_here kind))
      cases hopened : l.openBlock l.cursor.column with
      | mk opened l' =>
        rw [hopened] at hopen hpush
        cases opened with
        | false => exact .ok hopen
        | true => exact .ok hpush

/-! ## Between tokens -/

/-- Blanks, comments and line breaks. -/
theorem reaches_skipBlanks (inFlow : Bool) (steps : List Char) (allowed : Bool) {c : Cursor}
    (h : Reaches start c) : Reaches start (skipBlanks inFlow steps allowed c).2 := by
  induction steps generalizing allowed c with
  | nil => exact h
  | cons _ steps ih =>
    simp only [skipBlanks]
    have hblanks := h.skipWhile fun x => x == ' ' || (inFlow && x == '\t')
    generalize c.skipWhile (fun x => x == ' ' || (inFlow && x == '\t')) = d at hblanks ⊢
    have hcomment : Reaches start (if d.peek == '#' then d.skipLine else d) := by
      split
      · exact hblanks.skipWhile _
      · exact hblanks
    split
    · exact ih _ (hcomment.of_takeBreak ‹_›)
    · exact hcomment

/-- The next token. -/
theorem IsAhead.skipToToken (h : IsAhead start l) : IsAhead start l.skipToToken := by
  have hmark : Reaches start (if l.cursor.mark.index == 0 && l.cursor.peek == '\uFEFF' then
      l.cursor.advance else l.cursor) := by
    split
    · exact h.cursor.advance
    · exact h.cursor
  simp only [Lexer.skipToToken]
  exact ⟨reaches_skipBlanks _ _ _ hmark, h.key, h.flow, h.held⟩

/-! ## Tokens -/

/-- The end of a document. -/
theorem yields_endDocument (h : IsAhead start l) :
    Yields start.Ahead (IsAhead start) l.endDocument :=
  (yields_dropKey (h.closeBlocks (-1))).bind fun _ h' => .ok (h'.allowKey false)

/-- A directive line. -/
theorem yields_fetchDirective (h : IsAhead start l) :
    Yields start.Ahead (IsAhead start) l.fetchDirective := by
  unfold fetchDirective
  refine (yields_endDocument h).bind fun l' h' => ?_
  refine (scans_directive l'.version h'.cursor).bind fun r hr => ?_
  obtain ⟨⟨d, stop⟩, c⟩ := r
  have htoken : Token.IsAt start.Ahead ⟨.directive d, l'.cursor.mark, stop⟩ :=
    ⟨h'.cursor.ahead, hr.2⟩
  have hpush := (h'.push (List.forall_mem_singleton.mpr htoken)).moveTo hr.1
  exact .ok ⟨hpush.cursor, hpush.key, hpush.flow, hpush.held⟩

/-- A document marker. -/
theorem yields_fetchMarker (h : IsAhead start l) (kind : Token.Kind) :
    Yields start.Ahead (IsAhead start) (l.fetchMarker kind) :=
  (yields_endDocument h).bind fun _ h' => .ok (h'.take 3 kind)

/-- The start of a flow collection. -/
theorem yields_fetchFlowStart (h : IsAhead start l) (isSequence : Bool) :
    Yields start.Ahead (IsAhead start) (l.fetchFlowStart isSequence) := by
  refine (yields_saveKey h).bind fun l' h' => ?_
  have htake := h'.take 1 (if isSequence then .flowSequenceStart else .flowMappingStart)
  exact .ok ⟨htake.cursor, by rintro k ⟨⟩, List.forall_mem_cons.mpr ⟨htake.key, htake.flow⟩,
    htake.held⟩

/-- The end of a flow collection. -/
theorem yields_fetchFlowEnd (h : IsAhead start l) (kind : Token.Kind) :
    Yields start.Ahead (IsAhead start) (l.fetchFlowEnd kind) := by
  refine (yields_dropKey h).bind fun l' h' => .ok (IsAhead.take (IsAhead.allowKey ?_ false) 1 kind)
  cases hflow : l'.flow with
  | nil => exact h'
  | cons f flow =>
    have houter := List.forall_mem_cons.mp (hflow ▸ h'.flow)
    exact ⟨h'.cursor, houter.1, houter.2, h'.held⟩

/-- A comma. -/
theorem yields_fetchFlowEntry (h : IsAhead start l) :
    Yields start.Ahead (IsAhead start) l.fetchFlowEntry :=
  (yields_dropKey (h.allowKey true)).bind fun _ h' => .ok (h'.take 1 .flowEntry)

/-- A mark of a block collection: it may open the collection, and there is no key before it. -/
theorem yields_mark (h : IsAhead start l) (cause : Cause) (opening kind : Token.Kind)
    (allowed : Lexer → Bool) : Yields start.Ahead (IsAhead start) (do
      let l ← l.openHere cause opening
      let l ← { l with keyAllowed := allowed l }.dropKey
      return l.take 1 kind) :=
  (yields_openHere h cause opening).bind fun l' h' =>
    (yields_dropKey (h'.allowKey (allowed l'))).bind fun _ h'' => .ok (h''.take 1 kind)

/-- Tokens before a held one. -/
theorem IsAhead.insertAt {ts : List Token} (h : IsAhead start l) (number : Nat)
    (hts : ∀ t ∈ ts, t.IsAt start.Ahead) : IsAhead start (l.insertAt number ts) where
  cursor := h.cursor
  key := h.key
  flow := h.flow
  held := List.forall_mem_append.mpr ⟨List.forall_mem_append.mpr
    ⟨fun t ht => h.held t (List.mem_of_mem_take ht), hts⟩,
    fun t ht => h.held t (List.mem_of_mem_drop ht)⟩

/-- The dash before an item. -/
theorem yields_fetchBlockEntry (h : IsAhead start l) :
    Yields start.Ahead (IsAhead start) l.fetchBlockEntry :=
  yields_mark h .entryNotAllowed .blockSequenceStart .blockEntry fun _ => true

/-- The question mark before a key. -/
theorem yields_fetchKey (h : IsAhead start l) :
    Yields start.Ahead (IsAhead start) l.fetchKey :=
  yields_mark h .keyNotAllowed .blockMappingStart .key fun l => !l.inFlow

/-- The colon before a value. -/
theorem yields_fetchValue (h : IsAhead start l) :
    Yields start.Ahead (IsAhead start) l.fetchValue := by
  unfold fetchValue
  split
  · rename_i k hk
    have hplace := h.key k hk
    have hopen : IsAhead start (if l.inFlow then (false, l) else l.openBlock k.mark.column).2 := by
      split
      · exact h
      · exact h.openBlock _
    dsimp only
    generalize (if l.inFlow then (false, l) else l.openBlock k.mark.column) = opened at hopen ⊢
    have hts : ∀ t ∈ (if opened.1 then [⟨.blockMappingStart, k.mark, k.mark⟩,
        ⟨.key, k.mark, k.mark⟩] else [⟨.key, k.mark, k.mark⟩] : List Token),
        t.IsAt start.Ahead := by
      have htoken (kind : Token.Kind) : Token.IsAt start.Ahead ⟨kind, k.mark, k.mark⟩ :=
        ⟨hplace, hplace⟩
      split
      · exact List.forall_mem_cons.mpr ⟨htoken _, List.forall_mem_singleton.mpr (htoken _)⟩
      · exact List.forall_mem_singleton.mpr (htoken _)
    exact .ok (((hopen.insertAt k.number hts).forgetKey.allowKey false).take 1 .value)
  · exact yields_mark h _ _ _ fun l => !l.inFlow

/-- A token that is read from the place where a key may start. -/
theorem yields_fromKey {α : Type} {scan : Lexer → Except Fault (α × Cursor)}
    (kind : α → Token.Kind) (h : IsAhead start l)
    (hscan : ∀ l' : Lexer, Reaches start l'.cursor → start.Scans (scan l')) :
    Yields start.Ahead (IsAhead start) (do
      let l ← l.saveKey
      let (a, c) ← scan l
      return { l with keyAllowed := false }.takeTo c (kind a)) :=
  (yields_saveKey h).bind fun l' h' => (hscan l' h'.cursor).bind fun a _ hc =>
    .ok ((h'.allowKey false).takeTo hc (kind a))

/-- An alias or an anchor. -/
theorem yields_fetchName (h : IsAhead start l) (isAlias : Bool) :
    Yields start.Ahead (IsAhead start) (l.fetchName isAlias) :=
  yields_fromKey (fun name => if isAlias then .alias name else .anchor name) h fun _ =>
    scans_name isAlias

/-- A tag. -/
theorem yields_fetchTag (h : IsAhead start l) :
    Yields start.Ahead (IsAhead start) l.fetchTag :=
  yields_fromKey .tag h fun l' => scans_tag l'.version

/-- A literal or folded scalar. -/
theorem yields_fetchBlockText (h : IsAhead start l) (folded : Bool) :
    Yields start.Ahead (IsAhead start) (l.fetchBlockText folded) :=
  (yields_dropKey (h.allowKey true)).bind fun l' h' =>
    (scans_blockText folded l'.contentIndent h'.cursor).bind fun _ _ hc =>
      .ok (h'.takeTo hc _)

/-- A scalar in quotes. -/
theorem yields_fetchQuoted (h : IsAhead start l) (double : Bool) :
    Yields start.Ahead (IsAhead start) (l.fetchQuoted double) :=
  yields_fromKey (fun text => .scalar text false) h fun _ => scans_quoted double

/-- A scalar without quotes. -/
theorem yields_fetchPlain (h : IsAhead start l) :
    Yields start.Ahead (IsAhead start) l.fetchPlain :=
  (yields_saveKey h).bind fun l' h' =>
    .ok (IsAhead.takeTo (h'.allowKey _)
      (reaches_plain ⟨l'.version, l'.inFlow⟩ l'.contentIndent h'.cursor) _)

/-! ## Steps -/

/-- One token. -/
theorem yields_fetchToken (h : IsAhead start l) :
    Yields start.Ahead (IsAhead start) l.fetchToken := by
  simp only [fetchToken]
  exact .ite (yields_fetchDirective h)
    <| .ite (yields_fetchMarker h .documentStart)
    <| .ite (yields_fetchMarker h .documentEnd)
    <| .ite (yields_fetchFlowStart h true)
    <| .ite (yields_fetchFlowStart h false)
    <| .ite (yields_fetchFlowEnd h .flowSequenceEnd)
    <| .ite (yields_fetchFlowEnd h .flowMappingEnd)
    <| .ite (yields_fetchFlowEntry h)
    <| .ite (yields_fetchBlockEntry h)
    <| .ite (yields_fetchKey h)
    <| .ite (yields_fetchValue h)
    <| .ite (yields_fetchName h true)
    <| .ite (yields_fetchName h false)
    <| .ite (yields_fetchTag h)
    <| .ite (yields_fetchBlockText h false)
    <| .ite (yields_fetchBlockText h true)
    <| .ite (yields_fetchQuoted h false)
    <| .ite (yields_fetchQuoted h true)
    <| .ite (yields_fetchPlain h)
    <| h.yields_fault _

/-- The lexer after a step, whether or not it goes on. -/
def Step.lexer : Step → Lexer
  | .next l => l
  | .finished l => l

/-- The next token. -/
theorem yields_fetch (h : IsAhead start l) :
    Yields start.Ahead (fun s => IsAhead start s.lexer) l.fetch := by
  unfold fetch
  refine (yields_dropStale h.skipToToken).bind fun l' h' => ?_
  have hclose := h'.closeBlocks l'.cursor.column
  dsimp only
  split
  · exact (yields_endDocument hclose).bind fun _ h'' => .ok h''
  · exact (yields_fetchToken hclose).bind fun _ h'' => .ok h''

/-- One step. -/
theorem yields_step (h : IsAhead start l) :
    (∀ t ∈ l.step.1, t.IsAt start.Ahead)
      ∧ Yields start.Ahead (fun s => IsAhead start s.lexer) l.step.2 := by
  have hstale := yields_dropStale h
  unfold step
  cases hdrop : l.dropStale with
  | error f =>
    rw [hdrop] at hstale
    exact ⟨List.forall_mem_nil _, .error hstale.place⟩
  | ok l' =>
    rw [hdrop] at hstale
    have hrelease := isAhead_release hstale.result
    exact ⟨hrelease.1, yields_fetch hrelease.2⟩

end Lexer

/-! ## The tokens of a text -/

/-- The places of the tokens of a stream have a property, and so has the place of what comes after
them, the end or a fault. -/
structure TokenStream.IsAt (p : Mark → Prop) (ts : TokenStream) : Prop where
  tokens : ∀ t ∈ ts.tokens, t.IsAt p
  ending : Yields p p ts.ending

/-- All elements of an array and of a list that follows it. -/
theorem forall_mem_appendList {α : Type} {p : α → Prop} {xs : Array α} {ys : List α}
    (hxs : ∀ a ∈ xs.toList, p a) (hys : ∀ a ∈ ys, p a) : ∀ a ∈ (xs.appendList ys).toList, p a := by
  rw [Array.appendList_eq_append, Array.toList_appendList]
  exact List.forall_mem_append.mpr ⟨hxs, hys⟩

/-- Every step of the lexer adds tokens at places ahead. -/
theorem isAt_run {start : Cursor} (fuel : Nat) {l : Lexer} {done : Array Token}
    (h : l.IsAhead start) (hdone : ∀ t ∈ done.toList, t.IsAt start.Ahead) :
    (TokenStream.run fuel l done).IsAt start.Ahead := by
  induction fuel generalizing l done with
  | zero => exact ⟨hdone, .ok h.cursor.ahead⟩
  | succ fuel ih =>
    unfold TokenStream.run
    obtain ⟨hready, hnext⟩ := Lexer.yields_step h
    have hsettled := forall_mem_appendList hdone hready
    rcases hstep : l.step with ⟨ready, f | l' | l'⟩ <;> rw [hstep] at hnext hsettled
    · exact ⟨hsettled, .error hnext.place⟩
    · exact ih hnext.result hsettled
    · exact ⟨forall_mem_appendList hsettled hnext.result.held, .ok hnext.result.cursor.ahead⟩

/-- The tokens of a text start and stop at places that a cursor before the text comes to. -/
theorem isAt_tokenStream (s : String) :
    (TokenStream.ofText s).IsAt (Cursor.ofText s).Ahead :=
  isAt_run _ (Lexer.isAhead_ofText s) (List.forall_mem_nil _)

end FrontMatter.Yaml
