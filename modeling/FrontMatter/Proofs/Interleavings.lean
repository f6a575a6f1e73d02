import Mathlib.Logic.Relation

/-!
# `FrontMatter.Proofs.Interleavings` — clients that share a state

Some clients make calls to a state that they share. A call is answered and changes the state in one
step, which no other call can interrupt. Each client makes its own calls in its own order, but any
client may be the next one to make a call. Whatever the order is, the calls are answered as if one
client had made all of them, and those of each client stand in its own order.

## Contents

* `serve`: the calls of a single client.
* `Made`, `Shared`: the calls that have been made, and those that wait.
* `Shared.Step`, `Shared.Run`: one call, and any number of them.
* `Shared.Run.serve_eq`: the answers and the state are those of a single client.
* `Shared.Run.callsOf_eq`, `Shared.Run.mem_calls_iff`: every call of every client is made, and
  no others.
-/

namespace FrontMatter

variable {σ α β : Type}

/-! ## One client -/

/-- The answers to calls that are made one after the other, and the state after them. -/
def serve (act : σ → α → β × σ) (state : σ) : List α → List β × σ
  | [] => ([], state)
  | call :: calls =>
    let (answer, next) := act state call
    let (answers, last) := serve act next calls
    (answer :: answers, last)

/-- More calls go on with the state that the first ones leave. -/
theorem serve_append (act : σ → α → β × σ) (state : σ) (calls more : List α) :
    serve act state (calls ++ more)
      = ((serve act state calls).1 ++ (serve act (serve act state calls).2 more).1,
        (serve act (serve act state calls).2 more).2) := by
  induction calls generalizing state with
  | nil => rfl
  | cons call calls ih =>
    rw [List.cons_append]
    simp only [serve]
    rw [ih]
    rfl

/-! ## Several clients -/

/-- A call that has been made: the client, what it asked for, and the answer. -/
structure Made (α β : Type) where
  client : Nat
  call : α
  answer : β
  deriving Repr, DecidableEq

/-- A state that clients share, the calls that each of them has still to make, and the calls that
have been made. -/
structure Shared (σ α β : Type) where
  state : σ
  waiting : List (List α)
  made : List (Made α β)

namespace Shared

/-- Before the first call. -/
def start (state : σ) (calls : List (List α)) : Shared σ α β :=
  ⟨state, calls, []⟩

/-- The calls that have been made, in the order in which they were made. -/
def calls (s : Shared σ α β) : List α :=
  s.made.map Made.call

/-- The calls that a client has made. -/
def callsOf (s : Shared σ α β) (i : Nat) : List α :=
  (s.made.filter fun m => m.client == i).map Made.call

/-- No client has a call left to make. -/
def IsDone (s : Shared σ α β) : Prop :=
  ∀ rest ∈ s.waiting, rest = []

variable (act : σ → α → β × σ)

/-- After a client has made a call, with other calls left to make. -/
def after (s : Shared σ α β) (i : Nat) (call : α) (rest : List α) : Shared σ α β where
  state := (act s.state call).2
  waiting := s.waiting.set i rest
  made := s.made ++ [⟨i, call, (act s.state call).1⟩]

/-- Some client makes its next call. -/
inductive Step : Shared σ α β → Shared σ α β → Prop
  | call {s : Shared σ α β} {i : Nat} {call : α} {rest : List α}
      (h : s.waiting[i]? = some (call :: rest)) : Step s (s.after act i call rest)

/-- Any number of calls, by any clients in any order. -/
abbrev Run : Shared σ α β → Shared σ α β → Prop :=
  Relation.ReflTransGen (Step act)

variable {act} {s : Shared σ α β}

/-- A call that is made is the last one. -/
theorem calls_after (i : Nat) (call : α) (rest : List α) :
    (s.after act i call rest).calls = s.calls ++ [call] :=
  List.map_append

/-- It is a call of the client that makes it. -/
theorem callsOf_after (i j : Nat) (call : α) (rest : List α) :
    (s.after act i call rest).callsOf j
      = if i = j then s.callsOf j ++ [call] else s.callsOf j := by
  by_cases hij : i = j <;> simp [callsOf, after, List.filter_append, hij]

/-! ## The order of the calls -/

variable {state : σ} {calls : List (List α)}

/-- The answers and the state are what a single client gets that makes all the calls. -/
theorem Run.serve_eq (h : Run act (start state calls) s) :
    serve act state s.calls = (s.made.map Made.answer, s.state) := by
  induction h with
  | refl => rfl
  | tail _ hlast ih =>
    obtain ⟨-⟩ := hlast
    rw [calls_after, serve_append, ih]
    simp [serve, after]

/-- No client comes or goes. -/
theorem Run.length_waiting (h : Run act (start state calls) s) :
    s.waiting.length = calls.length := by
  induction h with
  | refl => rfl
  | tail _ hlast ih =>
    obtain ⟨-⟩ := hlast
    exact List.length_set.trans ih

/-- What a client has made and what it has still to make are together its calls. -/
theorem Run.callsOf_append (h : Run act (start state calls) s) (i : Nat) (hi : i < calls.length) :
    ∃ rest, s.waiting[i]? = some rest ∧ s.callsOf i ++ rest = calls[i] := by
  induction h with
  | refl => exact ⟨calls[i], List.getElem?_eq_getElem hi, rfl⟩
  | tail hrun hlast ih =>
    obtain ⟨hnext⟩ := hlast
    rename_i u j call rest
    obtain ⟨left, hleft, hcalls⟩ := ih
    rw [callsOf_after]
    by_cases hji : j = i
    · -- The call moves from those of the client that wait to those that it has made.
      subst hji
      obtain rfl : call :: rest = left := Option.some.inj (hnext.symm.trans hleft)
      refine ⟨rest, List.getElem?_set_self (Run.length_waiting hrun ▸ hi), ?_⟩
      rw [if_pos rfl, ← hcalls, List.append_assoc, List.singleton_append]
    · refine ⟨left, (List.getElem?_set_ne hji).trans hleft, ?_⟩
      rw [if_neg hji, hcalls]

/-- Every call that is made is made by one of the clients. -/
theorem Run.client_lt (h : Run act (start state calls) s) :
    ∀ m ∈ s.made, m.client < calls.length := by
  induction h with
  | refl => exact fun m hm => nomatch hm
  | tail hrun hlast ih =>
    obtain ⟨hnext⟩ := hlast
    intro m hm
    rcases List.mem_append.mp hm with hm | hm
    · exact ih m hm
    · obtain rfl := List.mem_singleton.mp hm
      obtain ⟨hlt, -⟩ := List.getElem?_eq_some_iff.mp hnext
      exact Run.length_waiting hrun ▸ hlt

/-- When no call is left, each client has made its calls in its own order. -/
theorem Run.callsOf_eq (h : Run act (start state calls) s) (hdone : s.IsDone) (i : Nat)
    (hi : i < calls.length) : s.callsOf i = calls[i] := by
  obtain ⟨rest, hrest, heq⟩ := h.callsOf_append i hi
  obtain rfl := hdone rest (List.mem_of_getElem? hrest)
  rw [← heq, List.append_nil]

/-- When no call is left, the calls that have been made are those of the clients. -/
theorem Run.mem_calls_iff (h : Run act (start state calls) s) (hdone : s.IsDone) (call : α) :
    call ∈ s.calls ↔ call ∈ calls.flatten := by
  rw [List.mem_flatten]
  constructor
  · intro hcall
    obtain ⟨m, hm, rfl⟩ := List.mem_map.mp hcall
    have hclient := h.client_lt m hm
    refine ⟨calls[m.client], List.getElem_mem hclient, ?_⟩
    rw [← h.callsOf_eq hdone m.client hclient]
    exact List.mem_map.mpr ⟨m, List.mem_filter.mpr ⟨hm, beq_self_eq_true _⟩, rfl⟩
  · rintro ⟨own, hown, hcall⟩
    obtain ⟨i, hi, rfl⟩ := List.mem_iff_getElem.mp hown
    rw [← h.callsOf_eq hdone i hi] at hcall
    obtain ⟨m, hm, rfl⟩ := List.mem_map.mp hcall
    exact List.mem_map.mpr ⟨m, (List.mem_filter.mp hm).1, rfl⟩

end Shared

end FrontMatter
