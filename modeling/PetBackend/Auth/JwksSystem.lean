import PetBackend.Auth.Jwks
import Mathlib.Tactic.Linarith

/-!
# Concurrent calls on one provider

Any number of `get_signing_key` and `start` calls, each a task cut at its suspension points.
A step runs one task to its next suspension point, at clock readings that never decrease. The log
is a history for the statements; no step reads it.
-/

namespace PetBackend.Auth

variable {K : Type}

/-- How a fetch came about: its task, the `_is_stale` reading under the lock (`start` makes none),
and the forced-refresh mark set on the way. -/
structure Ticket where
  task : Nat
  checkedAt : Option ℚ
  markedAt : Option ℚ

inductive Task (K : Type) where
  | idle
  | waiting (kid : String)
  | fetching (kid : String) (key : Option (PyJWK K)) (ticket : Ticket)
  | done (kid : String) (outcome : Except PyExc (PyJWK K))
  | startWaiting
  | startFetching
  | started (outcome : Except PyExc Unit)
  | cancelled

def Task.ticket? (i : Nat) : Task K → Option Ticket
  | .fetching _ _ ticket => some ticket
  | .startFetching => some ⟨i, none, none⟩
  | _ => none

inductive Entry (K : Type) where
  | fetchStarted (ticket : Ticket) (kid : Option String)
  | refreshed (ticket : Ticket) (exchange : HttpExchange) (keys : KeyMap K) (stamp : ℚ)
  /-- The answer that `_refresh` raised on, none when it was cancelled. -/
  | refreshFailed (ticket : Ticket) (exchange : Option HttpExchange)
  | returned (task : Nat) (kid : String) (key : PyJWK K) (now : ℚ)

/-- Newest entry first. -/
abbrev Log (K : Type) := List (Entry K)

structure System (K : Type) where
  provider : ProviderState K := {}
  lock : Option Nat := none
  tasks : Nat → Task K := fun _ => .idle
  clock : ℚ
  log : Log K := []

def System.setTask (s : System K) (i : Nat) (task : Task K) : System K :=
  { s with tasks := Function.update s.tasks i task }

def refreshEntry (ticket : Ticket) (exchange : HttpExchange) (now : ℚ) :
    Except PyExc Unit × ProviderState K → Entry K
  | (.ok (), s) => .refreshed ticket exchange s.keysByKid now
  | (.error _, _) => .refreshFailed ticket (some exchange)

def returnEntries (i : Nat) (kid : String) (now : ℚ) : Except PyExc (PyJWK K) → Log K
  | .ok key => [.returned i kid key now]
  | .error _ => []

section
variable (p : JWKSProvider) (fromDict : JsonObject → Except PyExc (List (PyJWK K)))

inductive Step : System K → System K → Prop where
  | fast {s : System K} {i : Nat} {kid : String} {now : ℚ} {key : PyJWK K}
      (idle : s.tasks i = .idle) (clock : s.clock ≤ now)
      (run : getSigningKeyFast p s.provider kid now = some key) :
      Step s { s.setTask i (.done kid (.ok key)) with
        clock := now, log := .returned i kid key now :: s.log }
  | queue {s : System K} {i : Nat} {kid : String} {now : ℚ}
      (idle : s.tasks i = .idle) (clock : s.clock ≤ now)
      (run : getSigningKeyFast p s.provider kid now = none) :
      Step s { s.setTask i (.waiting kid) with clock := now }
  | hit {s : System K} {i : Nat} {kid : String} {now later : ℚ} {key : PyJWK K}
      {provider : ProviderState K} (waiting : s.tasks i = .waiting kid) (free : s.lock = none)
      (clock : s.clock ≤ now) (order : now ≤ later)
      (run : getSigningKeyLocked p s.provider kid now later = (.hit key, provider)) :
      Step s { s.setTask i (.done kid (.ok key)) with
        provider := provider, clock := later, log := .returned i kid key now :: s.log }
  | limited {s : System K} {i : Nat} {kid : String} {now later : ℚ} {raised : PyExc}
      {provider : ProviderState K} (waiting : s.tasks i = .waiting kid) (free : s.lock = none)
      (clock : s.clock ≤ now) (order : now ≤ later)
      (run : getSigningKeyLocked p s.provider kid now later = (.raised raised, provider)) :
      Step s { s.setTask i (.done kid (.error raised)) with provider := provider, clock := later }
  | fetch {s : System K} {i : Nat} {kid : String} {now later : ℚ} {key : Option (PyJWK K)}
      {marked : Option ℚ} {provider : ProviderState K}
      (waiting : s.tasks i = .waiting kid) (free : s.lock = none)
      (clock : s.clock ≤ now) (order : now ≤ later)
      (run : getSigningKeyLocked p s.provider kid now later = (.fetch key marked, provider)) :
      Step s { s.setTask i (.fetching kid key ⟨i, some now, marked⟩) with
        provider := provider, lock := some i, clock := later
        log := .fetchStarted ⟨i, some now, marked⟩ (some kid) :: s.log }
  | answer {s : System K} {i : Nat} {kid : String} {key : Option (PyJWK K)} {ticket : Ticket}
      {now : ℚ} {exchange : HttpExchange} {outcome : Except PyExc Unit} {provider : ProviderState K}
      (fetching : s.tasks i = .fetching kid key ticket) (clock : s.clock ≤ now)
      (run : refresh p fromDict exchange now s.provider = (outcome, provider)) :
      Step s { s.setTask i (.done kid (getSigningKeyFetched p kid key now (outcome, provider))) with
        provider := provider, lock := none, clock := now
        log := returnEntries i kid now (getSigningKeyFetched p kid key now (outcome, provider)) ++
          refreshEntry ticket exchange now (outcome, provider) :: s.log }
  | startQueue {s : System K} {i : Nat} (idle : s.tasks i = .idle) :
      Step s (s.setTask i .startWaiting)
  | startFetch {s : System K} {i : Nat} (waiting : s.tasks i = .startWaiting)
      (free : s.lock = none) :
      Step s { s.setTask i .startFetching with
        lock := some i, log := .fetchStarted ⟨i, none, none⟩ none :: s.log }
  | startAnswer {s : System K} {i : Nat} {now : ℚ} {exchange : HttpExchange}
      {outcome : Except PyExc Unit} {provider : ProviderState K}
      (fetching : s.tasks i = .startFetching) (clock : s.clock ≤ now)
      (run : refresh p fromDict exchange now s.provider = (outcome, provider)) :
      Step s { s.setTask i (.started outcome) with
        provider := provider, lock := none, clock := now
        log := refreshEntry ⟨i, none, none⟩ exchange now (outcome, provider) :: s.log }
  /-- `CancelledError` at the lock or at the fetch; leaving `async with` frees the lock. -/
  | cancelWaiting {s : System K} {i : Nat}
      (waiting : (∃ kid, s.tasks i = .waiting kid) ∨ s.tasks i = .startWaiting) :
      Step s (s.setTask i .cancelled)
  | cancelFetching {s : System K} {i : Nat} {ticket : Ticket}
      (fetching : (s.tasks i).ticket? i = some ticket) :
      Step s { s.setTask i .cancelled with
        lock := none, log := .refreshFailed ticket none :: s.log }

inductive Reachable : System K → Prop where
  | initial (clock : ℚ) : Reachable { clock := clock }
  | step {s t : System K} : Reachable s → Step p fromDict s t → Reachable t

end

end PetBackend.Auth
