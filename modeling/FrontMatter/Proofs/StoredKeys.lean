import FrontMatter.Document.Read
import FrontMatter.Proofs.Batches
import FrontMatter.Proofs.DataParts
import FrontMatter.Proofs.EntryValues
import FrontMatter.Proofs.StoredEntries

/-!
# `FrontMatter.Proofs.StoredKeys` — which definition of a key wins

Keys are told apart twice. A mapping stores the first entry of several whose keys are the same as
data; then the keys become texts, and of several stored entries whose keys have one text the last
gives the value. So the first definition of a key wins exactly where the first and the last of these
have the same value.

## Contents

* `Data.value?`: the value of data, without limits.
* `StoredUnder`, `IsFirst`: the text that an entry is stored under, and the entry written first.
* `find?_stored_iff`: the entry written first is the first one stored.
* `get?_of_entries?`: the value of a key is that of the last one stored.
* `ReadsEntries`, `FirstWins`, `firstWins_iff`: where the first definition wins.
* `oneTwice`: a block where it does not.
-/

namespace FrontMatter.Yaml

/-! ## Values without limits -/

/-- The text of a key, if it is not too long. -/
def Data.text? (d : Data) : Option String :=
  d.keyText.toOption

mutual

/-- The value of data, unless some part of it has a type that may not occur. -/
def Data.value? : Data → Option Value
  | .scalar s => some (.scalar s)
  | .notANumber => some (.scalar (.float Decimal.notANumber))
  | .list items => (Data.values? items).map .list
  | .map _ entries => (Data.entries? entries).map fun es => .map (Table.ofList es)
  | _ => none

/-- The values of some data. -/
def Data.values? : List Data → Option (List Value)
  | [] => some []
  | d :: ds => do
    let v ← d.value?
    let vs ← Data.values? ds
    return v :: vs

/-- The texts of some keys and their values. -/
def Data.entries? : List (Data × Data) → Option (List (String × Value))
  | [] => some []
  | (k, d) :: es => do
    let key ← k.text?
    let v ← d.value?
    let vs ← Data.entries? es
    return (key, v) :: vs

end

/-- A key that passes has a text. -/
theorem text?_of_entryKey {k : Data} {s : String} (h : k.entryKey = .ok s) : k.text? = some s := by
  unfold Data.entryKey at h
  unfold Data.text?
  split at h
  · next t ht =>
    cases h
    rw [ht]
    rfl
  · cases h

mutual

/-- What data denotes in a walk is its value. -/
theorem value?_of_restrictFrom {seen depth n : Nat} {d : Data} {v : Value}
    (h : d.restrictFrom seen depth = .ok (v, n)) : d.value? = some v := by
  unfold Data.restrictFrom at h
  obtain ⟨-, -, h⟩ := exists_of_bind_eq_ok h
  cases d with
  | scalar s =>
    cases h
    rfl
  | notANumber =>
    cases h
    rfl
  | list items =>
    obtain ⟨⟨vs, m⟩, hitems, h⟩ := exists_of_bind_eq_ok h
    cases h
    rw [Data.value?, values?_of_restrictItems hitems]
    rfl
  | map ordered entries =>
    obtain ⟨⟨es, m⟩, hentries, h⟩ := exists_of_bind_eq_ok h
    cases h
    rw [Data.value?, entries?_of_restrictEntries hentries]
    rfl
  | bytes bs => cases h
  | tuple items => cases h
  | set members => cases h

/-- So it is for items, one after the other. -/
theorem values?_of_restrictItems {seen depth n : Nat} {ds : List Data} {vs : List Value}
    (h : Data.restrictItems seen depth ds = .ok (vs, n)) : Data.values? ds = some vs := by
  cases ds with
  | nil =>
    cases h
    rfl
  | cons d ds =>
    rw [Data.restrictItems] at h
    obtain ⟨⟨v, m⟩, hfirst, h⟩ := exists_of_bind_eq_ok h
    obtain ⟨⟨us, k⟩, hrest, h⟩ := exists_of_bind_eq_ok h
    cases h
    rw [Data.values?, value?_of_restrictFrom hfirst, values?_of_restrictItems hrest]
    rfl

/-- So it is for entries, each after its key. -/
theorem entries?_of_restrictEntries {seen depth n : Nat} {es : List (Data × Data)}
    {kvs : List (String × Value)} (h : Data.restrictEntries seen depth es = .ok (kvs, n)) :
    Data.entries? es = some kvs := by
  cases es with
  | nil =>
    cases h
    rfl
  | cons e es =>
    obtain ⟨k, d⟩ := e
    rw [Data.restrictEntries] at h
    obtain ⟨key, hkey, h⟩ := exists_of_bind_eq_ok h
    obtain ⟨⟨v, m⟩, hvalue, h⟩ := exists_of_bind_eq_ok h
    obtain ⟨⟨us, j⟩, hrest, h⟩ := exists_of_bind_eq_ok h
    cases h
    rw [Data.entries?, text?_of_entryKey hkey, value?_of_restrictFrom hvalue,
      entries?_of_restrictEntries hrest]
    rfl

end

/-- What data within the limits denotes is its value. -/
theorem value?_of_restrict {d : Data} {v : Value} (h : d.restrict = .ok v) : d.value? = some v := by
  obtain ⟨⟨u, n⟩, hwalk, rfl⟩ := exists_of_map_eq_ok h
  exact value?_of_restrictFrom hwalk

/-! ## The entry that is written first -/

/-- The text that an entry with a key is stored under, after some others are written: that of its
own key if the key is new, and otherwise that of the key that is there. -/
def StoredUnder (pre : List (Data × Data)) (key : Data) (k : String) : Prop :=
  (hasKey (stored pre) key = false ∧ key.text? = some k)
    ∨ ∃ f ∈ stored pre, f.1.same key = true ∧ f.1.text? = some k

/-- An entry is the first of those written that are stored under a text. -/
def IsFirst (entries : List (Data × Data)) (k : String) (e : Data × Data) : Prop :=
  ∃ pre post, entries = pre ++ e :: post ∧ StoredUnder pre e.1 k ∧
    ∀ pre' f post', pre = pre' ++ f :: post' → ¬ StoredUnder pre' f.1 k

/-- Whether the key of an entry has a text. -/
def hasText (k : String) (e : Data × Data) : Bool :=
  e.1.text? == some k

/-- Once an entry is stored under a text, there is a stored key with it. -/
theorem exists_stored_of_storedUnder {pre post : List (Data × Data)} {f : Data × Data} {k : String}
    (h : StoredUnder pre f.1 k) : ∃ g ∈ stored (pre ++ f :: post), hasText k g = true := by
  obtain ⟨rest, hrest⟩ := stored_append (pre ++ [f]) post
  have hsplit : pre ++ f :: post = (pre ++ [f]) ++ post := by simp
  rw [hsplit, hrest, stored_concat]
  rcases h with ⟨hnew, htext⟩ | ⟨g, hg, hsame, htext⟩
  · refine ⟨f, ?_, by simp [hasText, htext]⟩
    simp [hnew]
  · have hthere : hasKey (stored pre) f.1 = true := List.any_eq_true.mpr ⟨g, hg, hsame⟩
    refine ⟨g, ?_, by simp [hasText, htext]⟩
    simp [hthere, hg]

/-- Of the entries that are stored under a text, the one that is written first is the first whose
key has that text. -/
theorem find?_stored_iff {entries : List (Data × Data)} {k : String} {e : Data × Data} :
    (stored entries).find? (hasText k) = some e ↔ IsFirst entries k e := by
  constructor
  · intro h
    obtain ⟨htext, before, after, hstored, hbefore⟩ := List.find?_eq_some_iff_append.mp h
    obtain ⟨pre, post, rfl, rfl, hnew⟩ := exists_split_of_stored hstored
    refine ⟨pre, post, rfl, .inl ⟨hnew, by simpa [hasText] using htext⟩, ?_⟩
    rintro pre' f post' rfl hunder
    obtain ⟨g, hg, hgtext⟩ := @exists_stored_of_storedUnder pre' post' f k hunder
    have hnone := hbefore g hg
    rw [hgtext] at hnone
    cases hnone
  · rintro ⟨pre, post, rfl, hunder, hfirst⟩
    have hnone : ∀ g ∈ stored pre, ¬ hasText k g = true := by
      intro g hg htext
      obtain ⟨before, after, hsplit⟩ := List.append_of_mem hg
      obtain ⟨pre', post', rfl, rfl, hnew⟩ := exists_split_of_stored hsplit
      exact hfirst pre' g post' rfl (.inl ⟨hnew, by simpa [hasText] using htext⟩)
    rcases hunder with ⟨hnew, htext⟩ | ⟨g, hg, -, htext⟩
    · obtain ⟨rest, hrest⟩ := stored_append (pre ++ [e]) post
      have hsplit : pre ++ e :: post = (pre ++ [e]) ++ post := by simp
      rw [hsplit, hrest, stored_concat, hnew, if_neg (by simp), List.find?_eq_some_iff_append]
      refine ⟨by simp [hasText, htext], stored pre, rest, by simp, ?_⟩
      simpa using hnone
    · exact absurd (by simp [hasText, htext]) (hnone g hg)

/-! ## The entry that gives the value -/

/-- An entry is the text of its key and its value. -/
def IsEntry (e : Data × Data) (p : String × Value) : Prop :=
  e.1.text? = some p.1 ∧ e.2.value? = some p.2

/-- The entries of a mapping are those of its data, one by one. -/
theorem forall₂_of_entries? {es : List (Data × Data)} {kvs : List (String × Value)}
    (h : Data.entries? es = some kvs) : List.Forall₂ IsEntry es kvs := by
  induction es generalizing kvs with
  | nil =>
    cases h
    exact .nil
  | cons e es ih =>
    obtain ⟨key, d⟩ := e
    rw [Data.entries?] at h
    obtain ⟨s, hs, h⟩ := Option.bind_eq_some_iff.mp h
    obtain ⟨v, hv, h⟩ := Option.bind_eq_some_iff.mp h
    obtain ⟨vs, hvs, h⟩ := Option.bind_eq_some_iff.mp h
    cases h
    exact .cons ⟨hs, hv⟩ (ih hvs)

/-- Each of them has a text and a value. -/
theorem exists_isEntry_of_mem {es : List (Data × Data)} {kvs : List (String × Value)}
    (h : List.Forall₂ IsEntry es kvs) {e : Data × Data} (he : e ∈ es) : ∃ p, IsEntry e p := by
  induction h with
  | nil => cases he
  | @cons d p _ _ hp _ ih =>
    rcases List.mem_cons.mp he with rfl | he
    · exact ⟨p, hp⟩
    · exact ih he

/-- The value that is found for a text is that of the first entry whose key has it. -/
theorem get?_of_forall₂ {es : List (Data × Data)} {kvs : List (String × Value)}
    (h : List.Forall₂ IsEntry es kvs) (k : String) :
    Table.get? kvs k = (es.find? (hasText k)).bind fun e => e.2.value? := by
  induction h with
  | nil => rfl
  | @cons e p es kvs hp _ ih =>
    obtain ⟨htext, hvalue⟩ := hp
    have hkey : hasText k e = (p.1 == k) := by
      unfold hasText
      rw [htext, Option.some_beq_some]
    rw [Table.get?_cons, List.find?_cons, hkey, ih]
    cases p.1 == k with
    | true => exact hvalue.symm
    | false => rfl

/-- Of several stored entries whose keys have one text, the last gives the value. -/
theorem get?_of_entries? {es : List (Data × Data)} {kvs : List (String × Value)}
    (h : Data.entries? es = some kvs) (k : String) :
    Table.get? (Table.ofList kvs) k = (es.reverse.find? (hasText k)).bind fun e => e.2.value? := by
  rw [Table.get?_ofList]
  exact get?_of_forall₂ (List.forall₂_reverse_iff.mpr (forall₂_of_entries? h)) k

/-! ## Mappings that are read -/

/-- Data whose value is a mapping is a mapping, with the entries of the value. -/
theorem exists_of_value?_eq_map {d : Data} {es : Entries Value} (h : d.value? = some (.map es)) :
    ∃ ordered given kvs, d = .map ordered given ∧ Data.entries? given = some kvs
      ∧ es = Table.ofList kvs := by
  cases d with
  | map ordered given =>
    rw [Data.value?] at h
    obtain ⟨kvs, hkvs, hes⟩ := Option.map_eq_some_iff.mp h
    cases hes
    exact ⟨ordered, given, kvs, rfl, hkvs, rfl⟩
  | list items =>
    rw [Data.value?] at h
    obtain ⟨vs, -, hvs⟩ := Option.map_eq_some_iff.mp h
    cases hvs
  | scalar s => cases h
  | notANumber => cases h
  | bytes bs => cases h
  | tuple items => cases h
  | set members => cases h

/-- Of the mapping nodes those with the tag of mappings alone make mappings. -/
theorem tag_eq_map_of_ofNode {v : Version} {tag : Tag} {entries : List (Node × Node)} {m : Mark}
    {ordered : Bool} {given : List (Data × Data)}
    (h : Data.ofNode v (.mapping tag entries m) = .ok (.map ordered given)) : tag = .map := by
  unfold Data.ofNode build at h
  dsimp only at h
  split at h
  · next r hr =>
    cases r with
    | error f => cases h
    | ok a =>
      cases h
      have hleaf := isLeaf_of_buildScalar? hr
      cases hleaf
  · split at h
    · cases h
    · assumption
    · generalize buildMapping _ _ _ _ = o at h
      cases o <;> cases h
    · cases h
    · cases h
    · cases h

end FrontMatter.Yaml

namespace FrontMatter

open Yaml (Data Node Mark ScalarText Version)

/-! ## The definition that wins -/

/-- A block that is read as a mapping, and is written as one mapping without merge keys. -/
structure ReadsEntries (text : String) (es : Entries Value) (v : Version)
    (entries : List (Node × Node)) : Prop where
  reading : ∃ doc, Reading.ofText text = .ok doc ∧ doc.content = .mapping es
  document : ∃ start tag m,
    Yaml.Document.ofText? text = .ok (some ⟨start, v, .mapping tag entries m⟩)
  noMerge : ∀ e ∈ entries, e.1.tag ≠ .merge

/-- The data of the entries of a block that is read, and the values that they leave. -/
theorem ReadsEntries.exists_written {text : String} {es : Entries Value} {v : Version}
    {entries : List (Node × Node)} (h : ReadsEntries text es v entries) :
    ∃ ws kvs, Yaml.written v entries = .ok ws ∧ Data.entries? (Yaml.stored ws) = some kvs
      ∧ es = Table.ofList kvs := by
  obtain ⟨doc, hread, hcontent⟩ := h.reading
  obtain ⟨start, tag, m, hdocument⟩ := h.document
  obtain ⟨d, hdata, hrestrict⟩ :=
    exists_data_of_valueOfText (valueOfText_of_ofText hread hcontent).1
  obtain ⟨ordered, given, kvs, rfl, hkvs, rfl⟩ :=
    Yaml.exists_of_value?_eq_map (Yaml.value?_of_restrict hrestrict)
  rw [dataOfText_of_document hdocument] at hdata
  obtain rfl := Yaml.tag_eq_map_of_ofNode hdata
  rw [Yaml.ofNode_mapping v h.noMerge m] at hdata
  cases hwritten : Yaml.written v entries with
  | fault l f =>
    rw [hwritten] at hdata
    cases hdata
  | ok ws =>
    rw [hwritten] at hdata
    cases hdata
    exact ⟨ws, kvs, rfl, hkvs, rfl⟩

/-- The first definition of every key wins: what is found for a text is the value of the entry that
is written first of those that are stored under it. -/
def FirstWins (ws : List (Data × Data)) (es : Entries Value) : Prop :=
  ∀ k e, Yaml.IsFirst ws k e → ∃ v, e.2.value? = some v ∧ es.get? k = some v

/-- A key has the value of the last stored entry with its text. So the first definitions win exactly
where the first and the last stored entry of every text have the same value. -/
theorem firstWins_iff {text : String} {es : Entries Value} {v : Version}
    {entries : List (Node × Node)} (h : ReadsEntries text es v entries) :
    ∃ ws, Yaml.written v entries = .ok ws ∧
      (∀ k, es.get? k
        = ((Yaml.stored ws).reverse.find? (Yaml.hasText k)).bind fun e => e.2.value?) ∧
      (FirstWins ws es ↔ ∀ k first last, (Yaml.stored ws).find? (Yaml.hasText k) = some first →
        (Yaml.stored ws).reverse.find? (Yaml.hasText k) = some last →
        first.2.value? = last.2.value?) := by
  obtain ⟨ws, kvs, hwritten, hkvs, rfl⟩ := h.exists_written
  have hlast := Yaml.get?_of_entries? hkvs
  refine ⟨ws, hwritten, hlast, ?_, ?_⟩
  · intro hwins k first last hfirst hend
    obtain ⟨value, hvalue, hget⟩ := hwins k first (Yaml.find?_stored_iff.mp hfirst)
    rw [hlast, hend] at hget
    exact hvalue.trans hget.symm
  · intro hsame k first hfirst
    have hfind := Yaml.find?_stored_iff.mpr hfirst
    have hmem := List.mem_of_find?_eq_some hfind
    obtain ⟨⟨_, value⟩, -, hvalue⟩ :=
      Yaml.exists_isEntry_of_mem (Yaml.forall₂_of_entries? hkvs) hmem
    cases hend : (Yaml.stored ws).reverse.find? (Yaml.hasText k) with
    | none =>
      have hnone := List.find?_eq_none.mp hend first (List.mem_reverse.mpr hmem)
      exact absurd (List.find?_some hfind) hnone
    | some last =>
      refine ⟨value, hvalue, ?_⟩
      rw [hlast, hend]
      exact (hsame k first last hfind hend).symm.trans hvalue

/-! ## A key in two types -/

/-- A block with the number one as its first key, and the text of it as its second. -/
def oneTwice : String :=
  "1: a\n'1': b\n"

/-- The entries of the block: the first key without quotes. -/
def oneTwiceTexts : List (ScalarText × ScalarText) :=
  [(⟨"1", true⟩, ⟨"a", true⟩), (⟨"1", false⟩, ⟨"b", true⟩)]

/-- The tokens of the block are those of the entries. -/
theorem tokens_oneTwice : ∃ ts m, Yaml.TokenStream.ofText oneTwice = ⟨ts, .ok m⟩ ∧
    ts.map Yaml.Token.kind
      = .blockMappingStart :: (oneTwiceTexts.flatMap Yaml.entryKinds ++ [.blockEnd]) := by
  have hkinds : (Yaml.TokenStream.ofText oneTwice).tokens.map Yaml.Token.kind
      = .blockMappingStart :: (oneTwiceTexts.flatMap Yaml.entryKinds ++ [.blockEnd]) := by
    decide +kernel
  have hending : (Yaml.TokenStream.ofText oneTwice).ending = .ok ⟨12, 2, 0⟩ := by decide +kernel
  refine ⟨_, ⟨12, 2, 0⟩, ?_, hkinds⟩
  rw [← hending]

/-- What the keys of the block are made. -/
def oneTwiceKey (t : ScalarText) : Scalar :=
  if t.plain then .int 1 else .str t.text

/-- The data of the two entries. -/
def oneTwiceEntries : List (Data × Data) :=
  [(.scalar (.int 1), .scalar (.str "a")), (.scalar (.str "1"), .scalar (.str "b"))]

/-- The nodes of the entries make this data. -/
theorem written_oneTwice {nodes : List (Node × Node)}
    (hnodes : List.Forall₂ (Yaml.IsEntryNode .current) oneTwiceTexts nodes) :
    (∀ e ∈ nodes, e.1.tag ≠ .merge) ∧ Yaml.written .current nodes = .ok oneTwiceEntries := by
  refine @Yaml.written_of_isEntryNode .current oneTwiceTexts nodes hnodes (by decide +kernel)
    oneTwiceKey (fun t => .str t.text) ?_ ?_
  · rintro e (_ | ⟨_, _ | ⟨_, ⟨⟩⟩⟩)
    · exact ScalarText.makes_int (by decide +kernel) rfl true
    · exact ScalarText.makes_quoted .current true "1"
  · rintro e (_ | ⟨_, _ | ⟨_, ⟨⟩⟩⟩)
    · exact ScalarText.makes_plain (by decide +kernel) false
    · exact ScalarText.makes_plain (by decide +kernel) false

/-- The data is stored as it is, and both keys have one text. -/
theorem stored_oneTwice : List.Forall₂ Yaml.IsScalarEntry (Yaml.stored oneTwiceEntries)
    [("1", .str "a"), ("1", .str "b")] := by
  have hstored : Yaml.stored oneTwiceEntries = oneTwiceEntries := rfl
  have hkey : Data.entryKey (.scalar (.int 1)) = .ok "1" := by decide +kernel
  rw [hstored]
  exact .cons ⟨hkey, rfl⟩ (.cons ⟨rfl, rfl⟩ .nil)

/-- The block is read, and its entries are these two. -/
theorem exists_readsEntries_oneTwice : ∃ es entries, ReadsEntries oneTwice es .current entries ∧
    Yaml.written .current entries = .ok oneTwiceEntries ∧ es.get? "1" = some (.str "b") := by
  obtain ⟨ts, m, htokens, hkinds⟩ := tokens_oneTwice
  have hreadable : ∀ c ∈ oneTwice.toList, Yaml.IsPrintable c ∨ c = '\n' := by
    have hall : (oneTwice.toList.all fun c => decide (Yaml.IsPrintable c ∨ c = '\n')) = true := by
      decide +kernel
    simpa only [List.all_eq_true, decide_eq_true_eq] using hall
  obtain ⟨start, nodes, hnodes, hdocument⟩ :=
    Yaml.exists_document_of_kinds htokens hkinds hreadable
  obtain ⟨htags, hwritten⟩ := written_oneTwice hnodes
  have hread := reading_of_document hdocument (by decide +kernel) (by decide) htags hwritten
    stored_oneTwice (by decide) rfl
  exact ⟨_, nodes, ⟨⟨_, hread, rfl⟩, ⟨start, .map, start, hdocument⟩, htags⟩, hwritten, rfl⟩

/-- Both keys have one text. -/
theorem hasText_oneTwice : ∀ e ∈ oneTwiceEntries, Yaml.hasText "1" e = true := by
  decide +kernel

/-- The first definition of the key does not win there. -/
theorem not_firstWins_oneTwice : ¬ ∀ text es v entries ws, ReadsEntries text es v entries →
    Yaml.written v entries = .ok ws → FirstWins ws es := by
  intro hwins
  obtain ⟨es, entries, hreads, hwritten, hget⟩ := exists_readsEntries_oneTwice
  have hfirst : Yaml.IsFirst oneTwiceEntries "1" (.scalar (.int 1), .scalar (.str "a")) := by
    rw [← Yaml.find?_stored_iff]
    exact List.find?_cons_of_pos (hasText_oneTwice _ List.mem_cons_self)
  obtain ⟨v, hvalue, hv⟩ := hwins _ _ _ _ _ hreads hwritten "1" _ hfirst
  have htexts : some (Value.str "a") = some (.str "b") := hvalue.trans (hv.symm.trans hget)
  simp at htexts

/-- The last one does. -/
theorem lastWins_oneTwice : ∃ es entries ws, ReadsEntries oneTwice es .current entries ∧
    Yaml.written .current entries = .ok ws ∧ es.get? "1" = some (.str "b") ∧ ¬ FirstWins ws es := by
  obtain ⟨es, entries, hreads, hwritten, hget⟩ := exists_readsEntries_oneTwice
  obtain ⟨ws, hws, -, hiff⟩ := firstWins_iff hreads
  obtain rfl : oneTwiceEntries = ws := by
    rw [hwritten] at hws
    exact Yaml.Outcome.ok.inj hws
  refine ⟨es, entries, oneTwiceEntries, hreads, hws, hget, ?_⟩
  rw [hiff]
  intro hsame
  have htexts : some (Value.str "a") = some (.str "b") :=
    hsame "1" _ _ (List.find?_cons_of_pos (hasText_oneTwice _ List.mem_cons_self))
      (List.find?_cons_of_pos (hasText_oneTwice _ (List.mem_cons_of_mem _ List.mem_cons_self)))
  simp at htexts

end FrontMatter
