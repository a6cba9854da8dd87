import PetBackend.Auth.Authentication
import PetBackend.Auth.JwksContainment
import PetBackend.Auth.JwksProgress

/-!
# Lookups

Which key a credential makes the verifier look up, and what the lookups of the provider end in.
-/

namespace PetBackend.Auth

variable {K : Type}

/-- The kid that a credential makes `verify` look up, if it gets so far. -/
def soughtKid (v : KeycloakVerifier) (jwt : Jwt K) : Option String → Option String
  | none => none
  | some rawToken =>
    if rawToken = "" then none
    else match unverifiedHeader jwt rawToken with
      | .error _ => none
      | .ok header => match header.get "kid", header.get "alg" with
        | .str kid, .str alg => if alg ∈ v.allowedAlgorithms then some kid else none
        | _, _ => none

section
variable {v : KeycloakVerifier} {jwt : Jwt K} {first second : String → Except PyExc (PyJWK K)}

theorem signingKeyFor_congr {header : JsonObject}
    (agree : ∀ kid alg, header.get "kid" = .str kid → header.get "alg" = .str alg →
      alg ∈ v.allowedAlgorithms → first kid = second kid) :
    signingKeyFor v first header = signingKeyFor v second header := by
  unfold signingKeyFor
  split
  · rename_i kid kidRead
    split
    · rename_i alg algRead
      by_cases allowed : alg ∈ v.allowedAlgorithms
      · rw [if_neg (not_not.mpr allowed), if_neg (not_not.mpr allowed), agree kid alg kidRead algRead allowed]
      · rw [if_pos allowed, if_pos allowed]
    · rfl
  · rfl

theorem soughtKid_header {rawToken kid alg : String} {header : JsonObject} (nonempty : rawToken ≠ "")
    (read : unverifiedHeader jwt rawToken = .ok header) (kidRead : header.get "kid" = .str kid)
    (algRead : header.get "alg" = .str alg) (allowed : alg ∈ v.allowedAlgorithms) :
    soughtKid v jwt (some rawToken) = some kid := by
  simp only [soughtKid, if_neg nonempty, read, kidRead, algRead, if_pos allowed]

/-- No other key has a say in what becomes of the credential. -/
theorem getCurrentPrincipal_congr {credentials : Option String}
    (agree : ∀ kid, soughtKid v jwt credentials = some kid → first kid = second kid) :
    getCurrentPrincipal v jwt first credentials = getCurrentPrincipal v jwt second credentials := by
  cases credentials with
  | none => rfl
  | some rawToken =>
    have same : verify v jwt first rawToken = verify v jwt second rawToken := by
      unfold verify
      by_cases empty : rawToken = ""
      · rw [if_pos empty, if_pos empty]
        rfl
      · rw [if_neg empty, if_neg empty]
        cases read : unverifiedHeader jwt rawToken with
        | error raised => rfl
        | ok header =>
          have key : signingKeyFor v first header = signingKeyFor v second header :=
            signingKeyFor_congr fun kid alg kidRead algRead allowed =>
              agree kid (soughtKid_header empty read kidRead algRead allowed)
          show (signingKeyFor v first header >>= _) = (signingKeyFor v second header >>= _)
          rw [key]
    unfold getCurrentPrincipal
    dsimp only
    rw [same]

theorem principal_sought {getSigningKey : String → Except PyExc (PyJWK K)} {credentials : Option String}
    {principal : Principal} (verified : getCurrentPrincipal v jwt getSigningKey credentials = .ok principal) :
    ∃ kid, soughtKid v jwt credentials = some kid := by
  cases sought : soughtKid v jwt credentials with
  | some kid => exact ⟨kid, rfl⟩
  | none =>
    have refused : getCurrentPrincipal v jwt (fun _ => .error .keyError) credentials = .ok principal := by
      rw [← verified]
      exact getCurrentPrincipal_congr fun kid other => by cases sought.symm.trans other
    obtain ⟨rawToken, -, accepted⟩ := getCurrentPrincipal_ok refused
    obtain ⟨header, key, -, -, keyRead, -⟩ := verify_ok accepted
    obtain ⟨kid, alg, -, -, -, found⟩ := signingKeyFor_ok.mp keyRead
    cases found

end

/-! ### How a lookup ends -/

def Task.kid? : Task K → Option String
  | .waiting kid | .fetching kid _ _ | .done kid _ => some kid
  | _ => none

section
variable {p : JWKSProvider} {fromDict : JsonObject → Except PyExc (List (PyJWK K))} {s t : System K}

/-- What a finished lookup holds was delivered at some step of the run. -/
theorem done_delivered (reached : Reachable p fromDict s) {i : Nat} {kid : String}
    {outcome : Except PyExc (PyJWK K)} (done : s.tasks i = .done kid outcome) :
    ∃ t, Delivered p fromDict t kid outcome := by
  induction reached with
  | initial clock => cases done
  | @step before after reached step ih =>
    by_cases already : before.tasks i = .done kid outcome
    · exact ih already
    · exact ⟨after, before, i, reached, step, already, done⟩

/-- A property of exceptions that holds of the provider's own and of those that refreshes of the run raised. -/
structure Covers (p : JWKSProvider) (fromDict : JsonObject → Except PyExc (List (PyJWK K)))
    (among : PyExc → Prop) (log : Log K) : Prop where
  notFound : ∀ message, among (.signingKeyNotFound message)
  refreshes : ∀ ticket exchange, .refreshFailed ticket (some exchange) ∈ log →
    ∀ raised, getJson exchange >>= parseJwks p fromDict = .error raised → among raised

theorem fetched_error {kid : String} {held : Option (PyJWK K)} {now : ℚ} {outcome : Except PyExc Unit}
    {provider : ProviderState K} {raised : PyExc}
    (failed : getSigningKeyFetched p kid held now (outcome, provider) = .error raised) :
    outcome = .error raised ∨ ∃ message, raised = .signingKeyNotFound message := by
  unfold getSigningKeyFetched at failed
  split at failed
  · split at failed <;> cases failed
    exact Or.inr ⟨_, rfl⟩
  · rename_i same
    cases same
    split at failed
    · split at failed <;> cases failed
      exact Or.inl rfl
    · cases failed
      exact Or.inl rfl
  · rename_i same
    cases same
    cases failed
    exact Or.inl rfl

theorem done_covered {among : PyExc → Prop} (reached : Reachable p fromDict s)
    (covers : Covers p fromDict among s.log) {i : Nat} {kid : String} {raised : PyExc}
    (done : s.tasks i = .done kid (.error raised)) : among raised := by
  induction reached with
  | initial clock => cases done
  | @step before after reached step ih =>
    have earlier : Covers p fromDict among before.log := by
      obtain ⟨newer, log⟩ := step_log step
      exact ⟨covers.notFound, fun ticket exchange member =>
        covers.refreshes ticket exchange (log ▸ List.mem_append_right newer member)⟩
    by_cases already : before.tasks i = .done kid (.error raised)
    · exact ih earlier already
    · cases step with
      | limited waiting free clock order run =>
        obtain ⟨-, same⟩ := moved_task already done
        cases same
        rw [(locked_raised run).2.2.2.1]
        exact covers.notFound _
      | @answer j kid' held ticket now exchange outcome provider fetching clock run =>
        obtain ⟨-, same⟩ := moved_task already done
        injection same with sameKid failed
        rcases fetched_error failed with rfl | ⟨message, rfl⟩
        · refine covers.refreshes ticket exchange (by simp [refreshEntry]) raised ?_
          refine (refresh_raised now before.provider).mp ?_
          rw [run]
        · exact covers.notFound message
      | _ =>
        obtain ⟨-, same⟩ := moved_task already done
        cases same

/-! ### What becomes of a lookup -/

theorem kid_kept {i j : Nat} {task : Task K} {kid : String} (tasks : t.tasks = (s.setTask j task).tasks)
    (sought : (s.tasks i).kid? = some kid) (here : i = j → task.kid? = some kid ∨ task = .cancelled) :
    (t.tasks i).kid? = some kid ∨ t.tasks i = .cancelled := by
  rw [tasks]
  by_cases same : i = j
  · rw [same, setTask_self]
    exact here same
  · rw [setTask_other same]
    exact Or.inl sought

theorem step_kid {i : Nat} {kid : String} (step : Step p fromDict s t)
    (sought : (s.tasks i).kid? = some kid) : (t.tasks i).kid? = some kid ∨ t.tasks i = .cancelled := by
  cases step with
  | fast idle | queue idle | startQueue idle =>
    refine kid_kept rfl sought ?_
    rintro rfl
    rw [idle] at sought
    cases sought
  | hit waiting | limited waiting | fetch waiting =>
    refine kid_kept rfl sought ?_
    rintro rfl
    rw [waiting] at sought
    exact Or.inl sought
  | answer fetching =>
    refine kid_kept rfl sought ?_
    rintro rfl
    rw [fetching] at sought
    exact Or.inl sought
  | startFetch waiting | startAnswer waiting =>
    refine kid_kept rfl sought ?_
    rintro rfl
    rw [waiting] at sought
    cases sought
  | cancelWaiting | cancelFetching => exact kid_kept rfl sought fun _ => Or.inr rfl

theorem cancelled_stays {i : Nat} (step : Step p fromDict s t)
    (cancelled : s.tasks i = .cancelled) : t.tasks i = .cancelled := by
  obtain ⟨j, lower, others⟩ := step_rank step
  rw [others i]
  · exact cancelled
  · rintro rfl
    rw [cancelled] at lower
    cases lower

end

end PetBackend.Auth
