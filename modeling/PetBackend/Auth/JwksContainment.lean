import PetBackend.Auth.JwksCache
import PetBackend.Auth.JwksParsing

/-!
# Which bad answers the provider contains

`_refresh` guards the fetch, the decoding and `PyJWKSet.from_dict`, each against its own exception
classes. Past these the parsing loop and the sorting of repeated kids run unguarded.
-/

namespace PetBackend.Auth
open Outcome

variable {K : Type}

section
variable (p : JWKSProvider) (fromDict : JsonObject → Except PyExc (List (PyJWK K)))

/-- The new map and its stamp come together, or nothing changes and the provider is unavailable. -/
def Contained (exchange : HttpExchange) (now : ℚ) (s : ProviderState K) : Prop :=
  (∃ payload keys, getJson exchange = .ok payload ∧ parseJwks p fromDict payload = .ok keys ∧
    refresh p fromDict exchange now s =
      (.ok (), { s with keysByKid := keys, fetchedAtMonotonic := some now })) ∨
    ∃ message, refresh p fromDict exchange now s = (.error (.jwksProviderUnavailable message), s)

def Expected (raised : PyExc) : Prop :=
  ∃ message, raised = .signingKeyNotFound message ∨ raised = .jwksProviderUnavailable message

structure Survives (exchange : HttpExchange) (now : ℚ) (s : ProviderState K) : Prop where
  contained : Contained p fromDict exchange now s
  raises : ∀ kid raised,
    getSigningKeyFetched p kid (s.find kid) now (refresh p fromDict exchange now s) = .error raised →
      Expected raised
  fallsBack : ∀ kid key stamp raised, s.find kid = some key → s.fetchedAtMonotonic = some stamp →
    now - stamp ≤ p.cacheTtlSeconds + p.maxStaleSeconds →
      (refresh p fromDict exchange now s).1 = .error raised →
        getSigningKeyFetched p kid (some key) now (refresh p fromDict exchange now s) = .ok key

/-- The answers whose faults are caught: the fetch and the decoding fail in a listed class, and
the key set has no unhashable value on the loop's way and no repeated kids that cannot be sorted. -/
def Containable : HttpExchange → Prop
  | .error (.httpStatusError _) | .error (.requestError _) | .error (.jwksProviderUnavailable _) => True
  | .error _ => False
  | .ok (.error (.valueError _)) | .ok (.error (.jwksProviderUnavailable _)) => True
  | .ok (.error _) => False
  | .ok (.ok (.dict payload)) => ∀ keys, fromDict payload = .ok keys → Orderly p keys
  | .ok (.ok _) => True

end

section
variable {p : JWKSProvider} {fromDict : JsonObject → Except PyExc (List (PyJWK K))}

theorem parseKeys_contained {keys : List (PyJWK K)} :
    (∀ raised, parseKeys p keys = .error raised → ∃ message, raised = .jwksProviderUnavailable message) ↔
      Orderly p keys := by
  constructor
  · intro contained
    cases parsed : parseKeys p keys with
    | error raised =>
      obtain ⟨message, rfl⟩ := contained raised parsed
      rcases parseKeys_error parsed with ⟨impossible, _⟩ | ⟨_, orderly⟩
      · cases impossible
      · exact orderly
    | ok entries =>
      obtain ⟨intact, nodup, _, _⟩ := parseKeys_ok.mp parsed
      refine ⟨intact, fun a b twice _ _ => ?_⟩
      have once := List.nodup_iff_count_le_one.mp nodup a
      omega
  · intro orderly raised parsed
    rcases parseKeys_error parsed with ⟨_, disorder⟩ | ⟨unavailable, _⟩
    · exact (disorder orderly).elim
    · exact unavailable

/-- Hypothesis on `PyJWKSet.from_dict`: it raises only what `_parse_jwks` catches. -/
def FromDictCaught (fromDict : JsonObject → Except PyExc (List (PyJWK K))) : Prop :=
  ∀ payload raised, fromDict payload = .error raised → caughtByParse raised = true

def OnlyUnavailable {α : Type} (outcome : Except PyExc α) : Prop :=
  ∀ raised, outcome = .error raised → ∃ message, raised = .jwksProviderUnavailable message

theorem parseJwks_contained (caught : FromDictCaught fromDict) (payload : JsonObject) :
    OnlyUnavailable (parseJwks p fromDict (.dict payload)) ↔
      ∀ keys, fromDict payload = .ok keys → Orderly p keys := by
  cases read : fromDict payload with
  | error raised =>
    have parsed : parseJwks p fromDict (.dict payload) =
        .error (.jwksProviderUnavailable "JWKS parse failed") := by
      simp [parseJwks, read, caught payload raised read]
    simp [OnlyUnavailable, parsed]
  | ok keys =>
    have parsed : parseJwks p fromDict (.dict payload) = parseKeys p keys := by
      simp [parseJwks, read]
    simp [OnlyUnavailable, parsed, ← parseKeys_contained]

theorem answer_contained (caught : FromDictCaught fromDict) (exchange : HttpExchange) :
    OnlyUnavailable (getJson exchange >>= parseJwks p fromDict) ↔ Containable p fromDict exchange := by
  rcases exchange with raised | raised | body
  · cases raised <;> simp [OnlyUnavailable, getJson, Containable, bind, Except.bind]
  · cases raised <;> simp [OnlyUnavailable, getJson, Containable, bind, Except.bind]
  · cases body with
    | dict payload => exact parseJwks_contained caught payload
    | _ => simp [OnlyUnavailable, getJson, Containable, parseJwks, bind, Except.bind]

theorem contained_iff {exchange : HttpExchange} {now : ℚ} {s : ProviderState K} :
    Contained p fromDict exchange now s ↔
      OnlyUnavailable (getJson exchange >>= parseJwks p fromDict) := by
  constructor
  · intro contained raised read
    have failed := (refresh_raised now s).mpr read
    rcases contained with ⟨_, _, _, _, run⟩ | ⟨message, run⟩
    · simp [run] at failed
    · simp [run] at failed
      exact ⟨message, failed.symm⟩
  · intro only
    cases decoded : getJson exchange with
    | error raised =>
      obtain ⟨message, rfl⟩ := only raised (by simp [decoded, bind, Except.bind])
      exact Or.inr ⟨message, by simp [refresh, decoded]⟩
    | ok payload =>
      cases parsed : parseJwks p fromDict payload with
      | error raised =>
        obtain ⟨message, rfl⟩ := only raised (by simp [decoded, parsed, bind, Except.bind])
        exact Or.inr ⟨message, by simp [refresh, decoded, parsed]⟩
      | ok keys => exact Or.inl ⟨payload, keys, decoded, parsed, by simp [refresh, decoded, parsed]⟩

theorem fetched_expected {kid : String} {held : Option (PyJWK K)} {now : ℚ}
    {outcome : Except PyExc Unit} {s : ProviderState K} {raised : PyExc}
    (only : OnlyUnavailable outcome)
    (h : getSigningKeyFetched p kid held now (outcome, s) = .error raised) : Expected raised := by
  cases outcome with
  | ok =>
    simp only [getSigningKeyFetched] at h
    split at h <;> cases h
    exact ⟨_, Or.inl rfl⟩
  | error failure =>
    obtain ⟨message, rfl⟩ := only failure rfl
    simp only [getSigningKeyFetched] at h
    repeat' split at h
    all_goals cases h
    all_goals exact ⟨_, Or.inr rfl⟩

theorem survives_iff (caught : FromDictCaught fromDict) (exchange : HttpExchange) (now : ℚ)
    (s : ProviderState K) :
    Survives p fromDict exchange now s ↔ Containable p fromDict exchange := by
  rw [← answer_contained caught]
  constructor
  · intro survives
    exact contained_iff.mp survives.contained
  · intro only
    have contained : Contained p fromDict exchange now s := contained_iff.mpr only
    have failing : OnlyUnavailable (refresh p fromDict exchange now s).1 :=
      fun raised failed => only raised ((refresh_raised now s).mp failed)
    refine ⟨contained, fun kid raised => fetched_expected failing, ?_⟩
    intro kid key stamp raised found fetched young failed
    rcases contained with ⟨_, _, _, _, run⟩ | ⟨message, run⟩
    · simp [run] at failed
    · have usable : isStaleUsable p s now = true :=
        isStaleUsable_true.mpr ⟨stamp, fetched, by linarith⟩
      simp [run, getSigningKeyFetched, usable]

/-! ### Runs -/

def AnswersContainable (p : JWKSProvider)
    (fromDict : JsonObject → Except PyExc (List (PyJWK K))) (log : Log K) : Prop :=
  ∀ ticket exchange, .refreshFailed ticket (some exchange) ∈ log → Containable p fromDict exchange

theorem step_log {s t : System K} (step : Step p fromDict s t) : ∃ newer, t.log = newer ++ s.log := by
  cases step with
  | fast | hit | fetch | startFetch | startAnswer | cancelFetching => exact ⟨[_], rfl⟩
  | queue | limited | startQueue | cancelWaiting => exact ⟨[], rfl⟩
  | @answer i kid key ticket now exchange outcome provider =>
    exact ⟨returnEntries i kid now (getSigningKeyFetched p kid key now (outcome, provider)) ++
      [refreshEntry ticket exchange now (outcome, provider)], by simp⟩

theorem reachable_expected (caught : FromDictCaught fromDict) {s : System K}
    (h : Reachable p fromDict s) (answers : AnswersContainable p fromDict s.log) :
    ∀ i kid raised, s.tasks i = .done kid (.error raised) → Expected raised := by
  induction h with
  | initial clock => simp
  | @step s t before step ih =>
    obtain ⟨newer, log⟩ := step_log step
    have earlier := ih fun ticket exchange member =>
      answers ticket exchange (log ▸ List.mem_append_right newer member)
    have kept : ∀ {i : Nat} {task : Task K}, (∀ kid raised, task = .done kid (.error raised) →
        Expected raised) → ∀ j kid raised,
        (s.setTask i task).tasks j = .done kid (.error raised) → Expected raised := by
      intro i task own j kid raised done
      by_cases same : j = i
      · subst same
        exact own kid raised (by simpa [System.setTask] using done)
      · exact earlier j kid raised (by simpa [System.setTask, same] using done)
    cases step with
    | limited waiting free clock order run =>
      refine kept ?_
      rintro kid raised ⟨⟩
      exact ⟨_, Or.inl (locked_raised run).2.2.2.1⟩
    | @answer i kid key ticket now exchange outcome provider fetching clock run =>
      refine kept ?_
      intro kid' raised done
      have failed : getSigningKeyFetched p kid key now (outcome, provider) = .error raised := by
        injection done
      refine fetched_expected ?_ failed
      rintro failure rfl
      have containable := answers ticket exchange (by simp [refreshEntry])
      have only := (answer_contained caught exchange).mpr containable
      refine only failure ((refresh_raised now s.provider).mp ?_)
      rw [run]
    | _ => exact kept (by simp)

end

theorem sampleFromDict_caught : FromDictCaught sampleFromDict := by
  intro payload raised read
  unfold sampleFromDict at read
  split at read <;> cases read
  rfl

theorem sample_unhashable : refresh sampleProvider sampleFromDict
    (sampleExchange [.list [.str "a"]]) 310 sampleStarted.provider =
      (.error .typeError, sampleStarted.provider) := rfl

end PetBackend.Auth
