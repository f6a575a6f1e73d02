import FrontMatter.Diagnostic.Collector
import FrontMatter.Proofs.DraftFields
import FrontMatter.Proofs.Interleavings
import FrontMatter.Report.Text
import Mathlib.Data.List.DropRight
import Mathlib.Data.List.Nodup

/-!
# `FrontMatter.Proofs.CollectorRuns` — findings that several clients collect

Clients that share a collector add findings one by one or several at once, and may drop all that are
there. What the collector holds at any moment can be told from the calls in the order in which they
were made: it is what they have brought since all findings were dropped for the last time. A call
that is turned down brings nothing and changes nothing.

## Contents

* `CollectorCall`, `Collector.perform`: a call, and what it does to a collector.
* `CollectorCall.brought`, `CollectorCall.Earns`: the findings that a call brings, and what it is
  told.
* `serve_perform`: the collector after calls.
* `sinceClear`, `credited`: the calls that count, and their findings with those who brought them.
* `Collector.Summary`, `Collector.summary`: the number of findings and their files, also in the
  heading of a report.
* `Account`, `account_of_run`: what holds at any moment while clients make their calls.
-/

namespace FrontMatter

/-! ## Calls -/

/-- A call to a collector: to add a finding, to add several, or to drop all. -/
inductive CollectorCall
  | add (d : Draft)
  | extend (ds : List Draft)
  | clear

/-- The answer to a call: the finding that is added, nothing, or why the call is turned down. -/
abbrev CollectorAnswer := Except CallFault (Option Diagnostic)

/-- Makes a call. -/
def Collector.perform (c : Collector) : CollectorCall → CollectorAnswer × Collector
  | .add d =>
    let (result, next) := c.addDraft d
    (result.map some, next)
  | .extend ds =>
    let (result, next) := c.extendDrafts ds
    ((result.mapError .invalid).map fun _ => none, next)
  | .clear => (.ok none, c.clear)

namespace CollectorCall

/-- A call that drops all findings. -/
def isClear : CollectorCall → Bool
  | .clear => true
  | _ => false

/-- The findings that a call brings; a call that is turned down brings none. -/
def brought : CollectorCall → List Diagnostic
  | .add d => d.checkCall.toOption.toList
  | .extend ds => (Draft.checkAll ds).toOption.getD []
  | .clear => []

/-- The answer that a call gets from any collector. -/
def answer : CollectorCall → CollectorAnswer
  | .add d => d.checkCall.map some
  | .extend ds => ((Draft.checkAll ds).mapError .invalid).map fun _ => none
  | .clear => .ok none

/-- What a call is told, and the findings that it brings. -/
inductive Earns : CollectorCall → CollectorAnswer → List Diagnostic → Prop
  | added {d : Draft} {x : Diagnostic} (h : d.Calls x) : Earns (.add d) (.ok (some x)) [x]
  | notAdded {d : Draft} {fault : CallFault} (h : ∀ x, ¬ d.Calls x) :
      Earns (.add d) (.error fault) []
  | extended {ds : List Draft} {xs : List Diagnostic} (h : List.Forall₂ Draft.Gives ds xs) :
      Earns (.extend ds) (.ok none) xs
  | notExtended {ds : List Draft} {fault : CallFault} (h : ∃ d ∈ ds, ∀ x, ¬ d.Gives x) :
      Earns (.extend ds) (.error fault) []
  | cleared : Earns .clear (.ok none) []

/-- A call with valid fields is told that it brings its findings, and any other one that it does not
and brings none. -/
theorem earns (call : CollectorCall) : call.Earns call.answer call.brought := by
  cases call with
  | add d =>
    show (add d).Earns (d.checkCall.map some) d.checkCall.toOption.toList
    cases hd : d.checkCall with
    | ok x => exact .added (Draft.checkCall_eq_ok_iff.mp hd)
    | error fault =>
      refine .notAdded fun x hx => ?_
      rw [Draft.checkCall_eq_ok_iff.mpr hx] at hd
      cases hd
  | extend ds =>
    show (extend ds).Earns (((Draft.checkAll ds).mapError .invalid).map fun _ => none)
      ((Draft.checkAll ds).toOption.getD [])
    cases hds : Draft.checkAll ds with
    | ok xs => exact .extended (Draft.checkAll_eq_ok_iff.mp hds)
    | error faults => exact .notExtended (Draft.exists_of_checkAll_eq_error hds)
  | clear => exact .cleared

/-- A call that is turned down brings nothing, and it is none that drops findings. -/
theorem of_answer_eq_error {call : CollectorCall} {fault : CallFault}
    (h : call.answer = .error fault) : call.brought = [] ∧ call.isClear = false := by
  have hearns := call.earns
  rw [h] at hearns
  generalize call.brought = xs at hearns ⊢
  cases hearns with
  | notAdded _ => exact ⟨rfl, rfl⟩
  | notExtended _ => exact ⟨rfl, rfl⟩

end CollectorCall

namespace Collector

/-- Nothing more changes nothing. -/
theorem extend_nil (c : Collector) : c.extend [] = c := by
  simp [extend]

/-- What a call does: its answer is its own, and what it brings comes after what is there, unless
all is dropped. -/
theorem perform_eq (c : Collector) (call : CollectorCall) :
    c.perform call = (call.answer, if call.isClear then {} else c.extend call.brought) := by
  cases call with
  | add d =>
    simp only [perform, addDraft, CollectorCall.answer, CollectorCall.brought]
    cases d.checkCall with
    | ok x => rfl
    | error fault => exact Prod.ext rfl c.extend_nil.symm
  | extend ds =>
    simp only [perform, extendDrafts, CollectorCall.answer, CollectorCall.brought]
    cases Draft.checkAll ds with
    | ok xs => rfl
    | error faults => exact Prod.ext rfl c.extend_nil.symm
  | clear => rfl

/-- A call that is turned down changes nothing. -/
theorem perform_of_error {c : Collector} {call : CollectorCall} {fault : CallFault}
    (h : (c.perform call).1 = .error fault) : (c.perform call).2 = c := by
  rw [perform_eq] at h ⊢
  obtain ⟨hnone, hclear⟩ := CollectorCall.of_answer_eq_error h
  show (if call.isClear then {} else c.extend call.brought) = c
  rw [hclear, hnone, if_neg (by decide), extend_nil]

/-- The answers to calls, and the findings that they leave: those that were brought since the last
call that dropped all. -/
theorem serve_perform (calls : List CollectorCall) :
    serve perform {} calls = (calls.map CollectorCall.answer,
      ⟨(calls.rtakeWhile fun call => !call.isClear).flatMap CollectorCall.brought⟩) := by
  induction calls using List.reverseRecOn with
  | nil => rfl
  | append_singleton calls call ih =>
    rw [serve_append, ih, List.map_append]
    simp only [serve, perform_eq]
    by_cases hclear : call.isClear = true
    · rw [if_pos hclear, List.rtakeWhile_concat_neg _ _ _ (by simp [hclear])]
      rfl
    · rw [if_neg hclear, List.rtakeWhile_concat_pos _ _ _ (by simpa using hclear),
        List.flatMap_append, List.flatMap_singleton]
      rfl

end Collector

/-! ## Findings and those who brought them -/

/-- The calls that were made since the last one that dropped all findings. -/
def sinceClear (made : List (Made CollectorCall CollectorAnswer)) :
    List (Made CollectorCall CollectorAnswer) :=
  made.rtakeWhile fun m => !m.call.isClear

/-- The findings that calls bring, each with the client who brought it. -/
def credited (made : List (Made CollectorCall CollectorAnswer)) : List (Nat × Diagnostic) :=
  made.flatMap fun m => m.call.brought.map fun x => (m.client, x)

/-- The calls of a client that were made since the last call that dropped all findings. -/
def Shared.latestOf (s : Shared Collector CollectorCall CollectorAnswer) (i : Nat) :
    List CollectorCall :=
  ((sinceClear s.made).filter fun m => m.client == i).map Made.call

/-- The calls since then are found among the calls as they are among the calls with their
answers. -/
theorem map_call_sinceClear (made : List (Made CollectorCall CollectorAnswer)) :
    (sinceClear made).map Made.call
      = (made.map Made.call).rtakeWhile fun call => !call.isClear := by
  unfold sinceClear List.rtakeWhile
  rw [← List.map_reverse, List.takeWhile_map, List.map_reverse]
  rfl

/-- Without the clients, these are the findings that the calls bring. -/
theorem map_snd_credited (made : List (Made CollectorCall CollectorAnswer)) :
    (credited made).map Prod.snd = made.flatMap fun m => m.call.brought := by
  unfold credited
  rw [List.map_flatMap]
  simp only [List.map_map, Function.comp_def, List.map_id']

/-- Those of one client are what the calls of that client bring. -/
theorem filter_credited (made : List (Made CollectorCall CollectorAnswer)) (i : Nat) :
    ((credited made).filter fun e => e.1 == i).map Prod.snd
      = ((made.filter fun m => m.client == i).map Made.call).flatMap CollectorCall.brought := by
  induction made with
  | nil => rfl
  | cons m made ih =>
    have hcons : credited (m :: made)
        = (m.call.brought.map fun x => (m.client, x)) ++ credited made := rfl
    rw [hcons, List.filter_append, List.map_append, ih, List.filter_cons]
    by_cases hm : m.client = i
    · have hall : (m.call.brought.map fun x => (m.client, x)).filter (fun e => e.1 == i)
          = m.call.brought.map fun x => (m.client, x) := by
        rw [List.filter_eq_self]
        simp [hm]
      rw [hall, if_pos (by simpa using hm), List.map_cons, List.flatMap_cons, List.map_map]
      simp only [Function.comp_def, List.map_id']
    · have hnone : (m.call.brought.map fun x => (m.client, x)).filter (fun e => e.1 == i) = [] := by
        rw [List.filter_eq_nil_iff]
        simp [hm]
      rw [hnone, if_neg (by simpa using hm), List.map_nil, List.nil_append]

/-! ## Files -/

/-- Without repetitions, the items of a list stand in the order of their first places in it. -/
theorem pairwise_idxOf_eraseDups {α : Type} [BEq α] [LawfulBEq α] (l : List α) :
    l.eraseDups.Pairwise fun a b => l.idxOf a < l.idxOf b := by
  induction l using List.reverseRecOn with
  | nil => exact List.Pairwise.nil
  | append_singleton l a ih =>
    have hbefore : (l.eraseDups).Pairwise fun b c => (l ++ [a]).idxOf b < (l ++ [a]).idxOf c := by
      refine ih.imp_of_mem fun {b c} hb hc hlt => ?_
      rw [List.mem_eraseDups] at hb hc
      rwa [List.idxOf_append_of_mem hb, List.idxOf_append_of_mem hc]
    rw [List.eraseDups_append]
    by_cases ha : a ∈ l
    · have hgone : [a].removeAll l = [] := by simp [List.removeAll, ha]
      rw [hgone, List.eraseDups_nil, List.append_nil]
      exact hbefore
    · -- A new item stands at the end, behind the places of all others.
      have hkept : [a].removeAll l = [a] := by simp [List.removeAll, ha]
      rw [hkept, List.pairwise_append]
      refine ⟨hbefore, by simp [List.eraseDups_cons], fun b hb c hc => ?_⟩
      obtain rfl : c = a := by simpa using hc
      rw [List.mem_eraseDups] at hb
      rw [List.idxOf_append_of_mem hb, List.idxOf_append_of_notMem ha]
      exact Nat.lt_of_lt_of_le (List.idxOf_lt_length_of_mem hb) (Nat.le_add_right _ _)

/-- No file is listed twice. -/
theorem nodup_filesOf (ds : List Diagnostic) : (Collector.filesOf ds).Nodup := by
  unfold Collector.filesOf
  refine (pairwise_idxOf_eraseDups _).imp fun {f g} hlt hsame => ?_
  rw [hsame] at hlt
  exact Nat.lt_irrefl _ hlt

/-- The files that are listed are those of the findings. -/
theorem mem_filesOf_iff {ds : List Diagnostic} {file : String} :
    file ∈ Collector.filesOf ds ↔ ∃ x ∈ ds, x.file = file := by
  unfold Collector.filesOf
  rw [List.mem_eraseDups, List.mem_map]

/-- A report counts the files that are listed. -/
theorem fileCount_eq (ds : List Diagnostic) : fileCount ds = (Collector.filesOf ds).length := by
  -- The files that are counted: those that were there at the start, and those of the findings.
  have hcounted : ∀ files : List String, files.Nodup →
      (ds.foldl (fun files d => files.insert d.file) files).Nodup
        ∧ ∀ file, file ∈ ds.foldl (fun files d => files.insert d.file) files
          ↔ file ∈ files ∨ ∃ x ∈ ds, x.file = file := by
    induction ds with
    | nil =>
      intro files hfiles
      exact ⟨hfiles, by simp⟩
    | cons d ds ih =>
      intro files hfiles
      obtain ⟨hnodup, hmem⟩ := ih _ (List.Nodup.insert hfiles)
      refine ⟨hnodup, fun file => ?_⟩
      rw [List.foldl_cons, hmem, List.mem_insert_iff]
      simp only [List.mem_cons, exists_eq_or_imp, eq_comm (a := file)]
      tauto
  obtain ⟨hnodup, hmem⟩ := hcounted [] List.nodup_nil
  refine List.Perm.length_eq ((List.perm_ext_iff_of_nodup hnodup (nodup_filesOf ds)).mpr ?_)
  intro file
  rw [hmem, mem_filesOf_iff]
  simp

/-- The first line of a report is its heading. -/
theorem exists_heading_report {ds : List Diagnostic} (h : ds ≠ []) (l : ReportStyle)
    (sources : SourceLines) :
    ∃ body, report l sources ds = l.apply ⟨some .red, true⟩ (heading ds) ++ "\n" ++ body := by
  obtain ⟨d, ds, rfl⟩ := List.exists_cons_of_ne_nil h
  unfold report reportLines
  rw [if_neg (by simp), List.flatMap_cons, List.singleton_append, List.cons_append,
    String.intercalate_cons_cons]
  exact ⟨_, rfl⟩

/-- What a collector tells about its findings. -/
structure Collector.Summary (c : Collector) : Prop where
  /-- The number of findings, and whether there are any. -/
  count : c.count = c.diagnostics.length
  any : c.any = true ↔ 0 < c.count
  /-- The files of the findings, each once and in the order of their first findings. -/
  distinct : c.files.Nodup
  holds : ∀ file, file ∈ c.files ↔ ∃ x ∈ c.diagnostics, x.file = file
  firstSeen : c.files.Pairwise fun f g =>
    (c.diagnostics.map Diagnostic.file).idxOf f < (c.diagnostics.map Diagnostic.file).idxOf g
  /-- Both numbers stand in the first line of any report on the findings. -/
  heading : c.diagnostics ≠ [] → ∀ (l : ReportStyle) (sources : SourceLines), ∃ body,
    report l sources c.diagnostics
      = l.apply ⟨some .red, true⟩ ("Validation failed with " ++ counted c.count "error" "errors"
          ++ " in " ++ counted c.files.length "file" "files" ++ ":") ++ "\n" ++ body

/-- Every collector tells the truth about its findings. -/
theorem Collector.summary (c : Collector) : c.Summary where
  count := rfl
  any := by
    unfold any
    exact decide_eq_true_iff
  distinct := nodup_filesOf c.diagnostics
  holds _ := mem_filesOf_iff
  firstSeen := pairwise_idxOf_eraseDups _
  heading := by
    intro hne l sources
    obtain ⟨body, hbody⟩ := exists_heading_report hne l sources
    refine ⟨body, hbody.trans ?_⟩
    unfold FrontMatter.heading
    rw [fileCount_eq]
    rfl

/-! ## Runs -/

/-- What holds at any moment while clients make their calls. -/
structure Account (calls : List (List CollectorCall))
    (s : Shared Collector CollectorCall CollectorAnswer) : Prop where
  /-- Every client makes its calls in its own order; those since the last drop are its latest. -/
  inOrder : ∀ i (hi : i < calls.length),
    ∃ rest, s.waiting[i]? = some rest ∧ s.callsOf i ++ rest = calls[i]
  latest : ∀ i, s.latestOf i <:+ s.callsOf i
  /-- Every call was told whether it brings its findings. -/
  answered : ∀ m ∈ s.made, m.call.Earns m.answer m.call.brought
  /-- A call that is turned down leaves everything as it is. -/
  unchanged : ∀ call fault,
    (s.state.perform call).1 = .error fault → (s.state.perform call).2 = s.state
  /-- The findings are those that were brought since the last drop, in the order of the calls. -/
  kept : s.state.diagnostics = (sinceClear s.made).flatMap fun m => m.call.brought
  /-- They are those of the clients, each client's in the order of its calls and none else. -/
  shared : s.state.diagnostics = (credited (sinceClear s.made)).map Prod.snd
  clients : ∀ e ∈ credited (sinceClear s.made), e.1 < calls.length
  ofClient : ∀ i, ((credited (sinceClear s.made)).filter fun e => e.1 == i).map Prod.snd
    = (s.latestOf i).flatMap CollectorCall.brought
  /-- Where nothing is ever dropped, all calls count in the end. -/
  complete : s.IsDone → (∀ own ∈ calls, ∀ call ∈ own, call.isClear = false) →
    ∀ i (hi : i < calls.length), s.latestOf i = calls[i]
  /-- What the collector tells about its findings is right. -/
  summary : s.state.Summary

section Run

variable {calls : List (List CollectorCall)} {s : Shared Collector CollectorCall CollectorAnswer}

/-- The findings that clients leave are those that were brought since the last drop. -/
theorem diagnostics_of_run (h : Shared.Run Collector.perform (Shared.start {} calls) s) :
    s.state.diagnostics = (sinceClear s.made).flatMap fun m => m.call.brought := by
  have hserve := h.serve_eq
  rw [Collector.serve_perform] at hserve
  have hstate := (Prod.mk.inj hserve).2
  rw [← hstate]
  show List.flatMap _ _ = _
  unfold Shared.calls
  rw [← map_call_sinceClear, List.flatMap_map]

/-- Every call got the answer that any collector gives it. -/
theorem answer_of_mem_made (h : Shared.Run Collector.perform (Shared.start {} calls) s)
    {m : Made CollectorCall CollectorAnswer} (hm : m ∈ s.made) : m.answer = m.call.answer := by
  have hserve := h.serve_eq
  rw [Collector.serve_perform] at hserve
  have hanswers := (Prod.mk.inj hserve).1
  unfold Shared.calls at hanswers
  rw [List.map_map] at hanswers
  exact (List.map_inj_left.mp hanswers m hm).symm

/-- However the calls of clients follow each other, at every moment the collector holds what was
brought since the last drop: of every client what its calls brought, in its own order, and nothing
else. -/
theorem account_of_run (h : Shared.Run Collector.perform (Shared.start {} calls) s) :
    Account calls s where
  inOrder := h.callsOf_append
  latest i := ((List.rtakeWhile_suffix _ _).filter _).map _
  answered := by
    intro m hm
    rw [answer_of_mem_made h hm]
    exact m.call.earns
  unchanged _ _ := Collector.perform_of_error
  kept := diagnostics_of_run h
  shared := (diagnostics_of_run h).trans (map_snd_credited _).symm
  clients := by
    intro e he
    obtain ⟨m, hm, hfinding⟩ := List.mem_flatMap.mp he
    obtain ⟨x, -, rfl⟩ := List.mem_map.mp hfinding
    exact h.client_lt m ((List.rtakeWhile_suffix _ _).subset hm)
  ofClient := filter_credited _
  complete := by
    intro hdone hkeeps i hi
    have hall : sinceClear s.made = s.made := by
      unfold sinceClear
      rw [List.rtakeWhile_eq_self_iff]
      intro m hm
      have hcall : m.call ∈ calls.flatten := (h.mem_calls_iff hdone _).mp (List.mem_map_of_mem hm)
      obtain ⟨own, hown, hmem⟩ := List.mem_flatten.mp hcall
      rw [hkeeps own hown m.call hmem]
      rfl
    rw [← h.callsOf_eq hdone i hi]
    unfold Shared.latestOf
    rw [hall]
    rfl
  summary := s.state.summary

/-- A finding of a file as loose fields. -/
def sampleDraft (file kind : String) : Draft :=
  [("file", .str file), ("kind", .str kind), ("message", .str "m")]

/-- One client drops all findings after its first one, and each client makes a call that is turned
down. -/
def sampleCalls : List (List CollectorCall) :=
  [[.add (sampleDraft "a.md" "unknown_key"), .clear, .add [("file", .str "c.md")],
      .add (sampleDraft "b.md" "unknown_key")],
    [.extend [sampleDraft "b.md" "missing_field", sampleDraft "a.md" "missing_field"],
      .extend [sampleDraft "c.md" "missing_field", sampleDraft "c.md" "no kind"]]]

/-- Where the second client adds its findings between those of the first, they stay together, and
nothing is left of the first finding and of those that are turned down. -/
theorem account_of_run_sample :
    ∃ s : Shared Collector CollectorCall CollectorAnswer,
      Shared.Run Collector.perform (Shared.start {} sampleCalls) s ∧ s.IsDone
        ∧ s.state.diagnostics = [⟨"b.md", .missingField, "m", none, none, none⟩,
          ⟨"a.md", .missingField, "m", none, none, none⟩,
          ⟨"b.md", .unknownKey, "m", none, none, none⟩]
        ∧ Account sampleCalls s := by
  obtain ⟨s, h, hdone, hkept⟩ : ∃ s : Shared Collector CollectorCall CollectorAnswer,
      Shared.Run Collector.perform (Shared.start {} sampleCalls) s ∧ s.IsDone
        ∧ s.state.diagnostics = [⟨"b.md", .missingField, "m", none, none, none⟩,
          ⟨"a.md", .missingField, "m", none, none, none⟩,
          ⟨"b.md", .unknownKey, "m", none, none, none⟩] := by
    refine ⟨_, (((((Relation.ReflTransGen.single (.call (i := 0) rfl)).tail
      (.call (i := 0) rfl)).tail (.call (i := 1) rfl)).tail (.call (i := 0) rfl)).tail
      (.call (i := 1) rfl)).tail (.call (i := 0) rfl), ?_, by decide⟩
    intro rest hrest
    simpa [Shared.after, Shared.start, sampleCalls] using hrest
  exact ⟨s, h, hdone, hkept, account_of_run h⟩

end Run

end FrontMatter
