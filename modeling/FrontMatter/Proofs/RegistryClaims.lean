import FrontMatter.Proofs.Interleavings
import FrontMatter.Proofs.Tables
import FrontMatter.Rules.Registry
import Mathlib.Data.Finset.Card

/-!
# `FrontMatter.Proofs.RegistryClaims` — claims of several workers

Workers that share a registry claim ids for files. The registry after some claims depends only on
the claims in the order in which they were made: of each id the first one counts. Owners never
change, so every answer that a worker was given, at whatever moment, can be read off the registry at
the end.

## Contents

* `Claim`, `Registry.take`: a claim, and what it does to a registry.
* `Registry.ofClaims`: the registry after claims, with `owner?_ofClaims` and `keys_ofClaims`.
* `Registry.answer`: what a registry tells a claim that has been made.
* `take_ofClaims`, `serve_take`: one more claim, and all claims.
* `Agreement`, `agreement_of_run`: what holds when all claims of all workers have been made.
-/

namespace FrontMatter

/-- A claim of an id for a file. -/
structure Claim where
  id : String
  file : String
  deriving Repr, DecidableEq

namespace Registry

/-- Makes a claim. -/
def take (r : Registry) (c : Claim) : Option String × Registry :=
  r.claim c.id c.file

/-! ## The registry after claims -/

/-- The first claim of each id, as the owners of a registry. -/
def ofClaims (claims : List Claim) : Registry :=
  ⟨Table.firsts (claims.map fun c => (c.id, c.file))⟩

/-- An id is owned by the file of the first claim of it. -/
theorem owner?_ofClaims (claims : List Claim) (id : String) :
    (ofClaims claims).owner? id = (claims.find? fun c => c.id == id).map Claim.file := by
  unfold owner? ofClaims
  rw [Table.get?_firsts]
  unfold Table.get?
  rw [List.find?_map, Option.map_map]
  rfl

/-- The ids are owned in the order of their first claims. -/
theorem keys_ofClaims (claims : List Claim) :
    (ofClaims claims).owners.keys = (claims.map Claim.id).eraseDups := by
  unfold ofClaims
  rw [Table.keys_firsts]
  unfold Table.keys
  rw [List.map_map]
  rfl

/-- An id that is claimed has an owner. -/
theorem isSome_owner?_ofClaims (claims : List Claim) (id : String) :
    ((ofClaims claims).owner? id).isSome = true ↔ ∃ c ∈ claims, c.id = id := by
  rw [owner?_ofClaims, Option.isSome_map, List.find?_isSome]
  simp only [beq_iff_eq]

/-- Claims that come later do not change the owner of an id. -/
theorem owner?_ofClaims_append {claims : List Claim} {c : Claim} (h : c ∈ claims)
    (more : List Claim) :
    (ofClaims (claims ++ more)).owner? c.id = (ofClaims claims).owner? c.id := by
  have hsome : (claims.find? fun d => d.id == c.id).isSome = true :=
    List.find?_isSome.mpr ⟨c, h, beq_self_eq_true _⟩
  rw [owner?_ofClaims, owner?_ofClaims, List.find?_append, Option.or_of_isSome hsome]

/-! ## Answers -/

/-- What the owners say about a claim that has been made: nothing if it is the owner's own, and the
owner otherwise. -/
def answer (r : Registry) (c : Claim) : Option String :=
  if r.owner? c.id = some c.file then none else r.owner? c.id

/-- Where the id has an owner, the claim is told the owner unless it is its own. -/
theorem answer_of_owner {r : Registry} {c : Claim} {owner : String}
    (h : r.owner? c.id = some owner) :
    r.answer c = if c.file = owner then none else some owner := by
  unfold answer
  rw [h]
  simp only [Option.some.injEq, eq_comm]

/-- One more claim gives the registry after one claim more, and the answer is read off that. -/
theorem take_ofClaims (claims : List Claim) (c : Claim) :
    (ofClaims claims).take c
      = ((ofClaims (claims ++ [c])).answer c, ofClaims (claims ++ [c])) := by
  have hfirsts : (ofClaims (claims ++ [c])).owners
      = if Table.holds (claims.map fun c => (c.id, c.file)) c.id then (ofClaims claims).owners
        else (ofClaims claims).owners ++ [(c.id, c.file)] := by
    unfold ofClaims
    rw [List.map_append]
    exact Table.firsts_append_singleton _ _
  have hholds : Table.holds (claims.map fun c => (c.id, c.file)) c.id
      = ((ofClaims claims).owner? c.id).isSome := by
    rw [Table.holds_eq_isSome, owner?, ofClaims, Table.get?_firsts]
  rw [hholds] at hfirsts
  unfold take claim
  cases howner : (ofClaims claims).owner? c.id with
  | none =>
    -- The claim is the first one of its id.
    have hnew : (ofClaims (claims ++ [c])).owners = (ofClaims claims).owners.put c.id c.file := by
      rw [hfirsts, howner, Table.put, Table.holds_eq_isSome]
      unfold owner? at howner
      rw [howner]
      rfl
    have hself : (ofClaims (claims ++ [c])).owner? c.id = some c.file := by
      rw [owner?, hnew, Table.get?_put]
      simp
    rw [answer_of_owner hself, if_pos rfl]
    exact Prod.ext rfl (congrArg Registry.mk hnew.symm)
  | some owner =>
    have hold : ofClaims (claims ++ [c]) = ofClaims claims := by
      rw [howner] at hfirsts
      exact congrArg Registry.mk hfirsts
    rw [hold, answer_of_owner howner]
    simp only [beq_iff_eq, eq_comm (a := owner)]

/-- The answers to claims can all be read off the registry after the last one. -/
theorem serve_take (claims : List Claim) :
    serve take {} claims = (claims.map (ofClaims claims).answer, ofClaims claims) := by
  induction claims using List.reverseRecOn with
  | nil => rfl
  | append_singleton claims c ih =>
    have hkept : claims.map (ofClaims (claims ++ [c])).answer
        = claims.map (ofClaims claims).answer := by
      refine List.map_congr_left fun d hd => ?_
      unfold answer
      rw [owner?_ofClaims_append hd]
    rw [serve_append, ih, List.map_append, hkept]
    simp only [serve, take_ofClaims]
    rfl

end Registry

/-! ## Workers -/

/-- What holds when workers have made their claims. -/
structure Agreement (claims : List (List Claim)) (s : Shared Registry Claim (Option String)) :
    Prop where
  inOrder : ∀ i (hi : i < claims.length), s.callsOf i = claims[i]
  firstOwns : ∀ id, s.state.owner? id = (s.calls.find? fun c => c.id == id).map Claim.file
  noOther : ∀ id, (s.state.owner? id).isSome = true ↔ ∃ c ∈ claims.flatten, c.id = id
  answered : ∀ m ∈ s.made, ∃ owner, s.state.owner? m.call.id = some owner
    ∧ m.answer = if m.call.file = owner then none else some owner
  size : s.state.size = (claims.flatten.map Claim.id).toFinset.card
  snapshot : s.state.owners.keys = (s.calls.map Claim.id).eraseDups
  oneFile : ∀ c ∈ claims.flatten,
    ∃! file, ∃ m ∈ s.made, m.call = ⟨c.id, file⟩ ∧ m.answer = none

section Run

variable {claims : List (List Claim)} {s : Shared Registry Claim (Option String)}

/-- The registry that workers leave is the one after their claims. -/
theorem state_of_run (h : Shared.Run Registry.take (Shared.start {} claims) s) :
    s.state = Registry.ofClaims s.calls := by
  have hserve := h.serve_eq
  rw [Registry.serve_take] at hserve
  exact (Prod.mk.inj hserve).2.symm

/-- Every answer that was given while other claims were still to come is that of the registry which
all of them leave. -/
theorem answer_of_run (h : Shared.Run Registry.take (Shared.start {} claims) s) {m : Made Claim _}
    (hm : m ∈ s.made) : m.answer = s.state.answer m.call := by
  have hserve := h.serve_eq
  rw [Registry.serve_take] at hserve
  have hanswers := (Prod.mk.inj hserve).1
  rw [← state_of_run h, Shared.calls, List.map_map] at hanswers
  exact (List.map_inj_left.mp hanswers m hm).symm

/-- The ids that are owned are those of the claims. -/
theorem isSome_owner?_of_run (h : Shared.Run Registry.take (Shared.start {} claims) s)
    (hdone : s.IsDone) (id : String) :
    (s.state.owner? id).isSome = true ↔ ∃ c ∈ claims.flatten, c.id = id := by
  rw [state_of_run h, Registry.isSome_owner?_ofClaims]
  simp only [h.mem_calls_iff hdone]

/-- There is one of them for each id that is claimed. -/
theorem size_of_run (h : Shared.Run Registry.take (Shared.start {} claims) s) (hdone : s.IsDone) :
    s.state.size = (claims.flatten.map Claim.id).toFinset.card := by
  have hkeys := state_of_run h ▸ Registry.keys_ofClaims s.calls
  have hnodup : s.state.owners.keys.Nodup := by
    rw [state_of_run h]
    exact Table.nodup_keys_firsts _
  have hids : s.state.owners.keys.toFinset = (claims.flatten.map Claim.id).toFinset := by
    ext id
    rw [List.mem_toFinset, List.mem_toFinset, hkeys, List.mem_eraseDups]
    simp only [List.mem_map, h.mem_calls_iff hdone]
  rw [← hids, List.toFinset_card_of_nodup hnodup]
  exact (List.length_map _).symm

/-- The owner of an id made a claim of it, and was told nothing. -/
theorem exists_made_of_owner (h : Shared.Run Registry.take (Shared.start {} claims) s)
    {id owner : String} (howner : s.state.owner? id = some owner) :
    ∃ m ∈ s.made, m.call = ⟨id, owner⟩ ∧ m.answer = none := by
  have hfirst := howner
  rw [state_of_run h, Registry.owner?_ofClaims] at hfirst
  obtain ⟨first, hfind, rfl⟩ := Option.map_eq_some_iff.mp hfirst
  obtain rfl : first.id = id := by simpa using List.find?_some hfind
  obtain ⟨m, hm, rfl⟩ := List.mem_map.mp (List.mem_of_find?_eq_some hfind)
  exact ⟨m, hm, rfl, by rw [answer_of_run h hm, Registry.answer_of_owner howner, if_pos rfl]⟩

/-- However the claims of workers follow each other, when all are made the first claim of each id
owns it, no other id is owned, every claim has been told the owner unless it is its own, and of the
files for which an id was claimed exactly one was told nothing. -/
theorem agreement_of_run (h : Shared.Run Registry.take (Shared.start {} claims) s)
    (hdone : s.IsDone) : Agreement claims s where
  inOrder := h.callsOf_eq hdone
  firstOwns id := by rw [state_of_run h, Registry.owner?_ofClaims]
  noOther := isSome_owner?_of_run h hdone
  answered := by
    intro m hm
    have hcall : m.call ∈ claims.flatten := (h.mem_calls_iff hdone _).mp (List.mem_map_of_mem hm)
    obtain ⟨owner, howner⟩ := Option.isSome_iff_exists.mp
      ((isSome_owner?_of_run h hdone _).mpr ⟨_, hcall, rfl⟩)
    exact ⟨owner, howner, by rw [answer_of_run h hm, Registry.answer_of_owner howner]⟩
  size := size_of_run h hdone
  snapshot := by rw [state_of_run h, Registry.keys_ofClaims]
  oneFile := by
    intro c hc
    obtain ⟨owner, howner⟩ := Option.isSome_iff_exists.mp
      ((isSome_owner?_of_run h hdone _).mpr ⟨c, hc, rfl⟩)
    refine ⟨owner, exists_made_of_owner h howner, ?_⟩
    -- A claim for another file is told the owner.
    rintro file ⟨n, hn, hcall, hnone⟩
    rw [answer_of_run h hn, hcall, Registry.answer_of_owner (c := ⟨c.id, file⟩) howner] at hnone
    by_contra hother
    rw [if_neg hother] at hnone
    cases hnone

/-- Two workers claim three ids, one of them the empty text. -/
def sampleClaims : List (List Claim) :=
  [[⟨"a", "x.md"⟩, ⟨"", "x.md"⟩], [⟨"a", "y.md"⟩, ⟨"a", "x.md"⟩, ⟨"b", ""⟩]]

/-- Where the second worker makes the first claim, it owns the id that both of them want. -/
theorem agreement_of_run_sample :
    ∃ s : Shared Registry Claim (Option String),
      Shared.Run Registry.take (Shared.start {} sampleClaims) s ∧ s.IsDone
        ∧ s.state.owners = [("a", "y.md"), ("", "x.md"), ("b", "")]
        ∧ Agreement sampleClaims s := by
  obtain ⟨s, h, hdone, howners⟩ : ∃ s : Shared Registry Claim (Option String),
      Shared.Run Registry.take (Shared.start {} sampleClaims) s ∧ s.IsDone
        ∧ s.state.owners = [("a", "y.md"), ("", "x.md"), ("b", "")] := by
    refine ⟨_, ((((Relation.ReflTransGen.single (.call (i := 1) rfl)).tail
      (.call (i := 0) rfl)).tail (.call (i := 1) rfl)).tail
      (.call (i := 0) rfl)).tail (.call (i := 1) rfl), ?_, by decide⟩
    intro rest hrest
    simpa [Shared.after, Shared.start, sampleClaims] using hrest
  exact ⟨s, h, hdone, howners, agreement_of_run h hdone⟩

end Run

end FrontMatter
