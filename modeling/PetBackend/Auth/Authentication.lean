import PetBackend.Auth.Claims
import PetBackend.Auth.JwksCache
import PetBackend.Auth.JwksParsing

/-!
# A principal rests on one accepted token

Every check between the bearer credential and the principal is read back from success, and the
key is traced through the concurrent provider to the newest accepted payload.
-/

namespace PetBackend.Auth
open Outcome

variable {K : Type}

/-! ### What each check establishes -/

def Targets (claims : JsonObject) (expected : String) : Prop :=
  claims.get "aud" = .str expected ∨
    (∃ items, claims.get "aud" = .list items ∧ .str expected ∈ items) ∨
    (claims.get "azp" = .str expected ∧ expected ≠ "")

theorem coerceStrList_mem {value : Json} {expected : String} (member : expected ∈ coerceStrList value) :
    value = .str expected ∨ ∃ items, value = .list items ∧ .str expected ∈ items := by
  cases value with
  | str found =>
    obtain rfl := List.mem_singleton.mp member
    exact Or.inl rfl
  | list items => exact Or.inr ⟨items, rfl, mem_strings.mp member⟩
  | _ => cases member

theorem candidate_targets {claims : JsonObject} {expected : String}
    (candidate : expected ∈ audienceCandidates claims) : Targets claims expected := by
  have fromAudience : expected ∈ coerceStrList (claims.get "aud") → Targets claims expected := by
    intro member
    rcases coerceStrList_mem member with same | listed
    · exact Or.inl same
    · exact Or.inr (Or.inl listed)
  simp only [audienceCandidates] at candidate
  split at candidate
  · rename_i azp read
    split at candidate
    · exact fromAudience candidate
    · rcases List.mem_cons.mp candidate with rfl | member
      · exact Or.inr (Or.inr ⟨read, ‹_›⟩)
      · exact fromAudience member
  · exact fromAudience candidate

theorem validateAudience_ok {v : KeycloakVerifier} {claims : JsonObject}
    (h : validateAudience v claims = .ok ()) : ∃ expected ∈ v.audiences, Targets claims expected := by
  unfold validateAudience at h
  split at h
  · rename_i passed
    obtain ⟨expected, configured, candidate⟩ :=
      List.any_eq_true.mp (passed.resolve_left v.audiences_nonempty)
    exact ⟨expected, configured, candidate_targets (of_decide_eq_true candidate)⟩
  · cases h

theorem unverifiedHeader_ok {jwt : Jwt K} {rawToken : String} {header : JsonObject}
    (h : unverifiedHeader jwt rawToken = .ok header) : jwt.getUnverifiedHeader rawToken = .ok header := by
  unfold unverifiedHeader at h
  split at h
  · cases h
  · exact h

theorem signingKeyFor_ok {v : KeycloakVerifier} {getSigningKey : String → Except PyExc (PyJWK K)}
    {header : JsonObject} {key : PyJWK K} :
    signingKeyFor v getSigningKey header = .ok key ↔ ∃ kid alg, header.get "kid" = .str kid ∧
      header.get "alg" = .str alg ∧ alg ∈ v.allowedAlgorithms ∧ getSigningKey kid = .ok key := by
  unfold signingKeyFor
  constructor
  · intro h
    split at h
    · split at h
      · split at h
        · cases h
        · split at h
          · cases h
          · cases h
          · exact ⟨_, _, ‹_›, ‹_›, not_not.mp ‹_›, h⟩
      · cases h
    · cases h
  · rintro ⟨kid, alg, kidRead, algRead, allowed, found⟩
    simp [kidRead, algRead, allowed, found]

theorem decodeClaims_ok {v : KeycloakVerifier} {jwt : Jwt K} {rawToken : String} {key : K}
    {claims : JsonObject} (h : decodeClaims v jwt rawToken key = .ok claims) :
    jwt.decode rawToken key v.allowedAlgorithms v.issuer v.leeway requiredClaims = .ok claims := by
  unfold decodeClaims at h
  split at h
  · split at h <;> cases h
  · exact h

theorem verify_ok {v : KeycloakVerifier} {jwt : Jwt K}
    {getSigningKey : String → Except PyExc (PyJWK K)} {rawToken : String} {principal : Principal}
    (h : verify v jwt getSigningKey rawToken = .ok principal) : ∃ header key claims,
      jwt.getUnverifiedHeader rawToken = .ok header ∧
      signingKeyFor v getSigningKey header = .ok key ∧
      jwt.decode rawToken key.key v.allowedAlgorithms v.issuer v.leeway requiredClaims = .ok claims ∧
      (∃ expected ∈ v.audiences, Targets claims expected) ∧ Named claims principal := by
  unfold verify at h
  split at h
  · cases h
  · obtain ⟨header, headerRead, h⟩ := bind_ok.mp h
    obtain ⟨key, keyRead, h⟩ := bind_ok.mp h
    obtain ⟨claims, claimsRead, h⟩ := bind_ok.mp h
    obtain ⟨_, audience, h⟩ := bind_ok.mp h
    exact ⟨header, key, claims, unverifiedHeader_ok headerRead, keyRead, decodeClaims_ok claimsRead,
      validateAudience_ok audience, (buildPrincipal_ok h).toNamed⟩

/-! ### Where the key comes from -/

section
variable {p : JWKSProvider} {fromDict : JsonObject → Except PyExc (List (PyJWK K))}

/-- A call for `kid` ends with `outcome` in the step that leads a run to `t`. -/
def Delivered (p : JWKSProvider) (fromDict : JsonObject → Except PyExc (List (PyJWK K)))
    (t : System K) (kid : String) (outcome : Except PyExc (PyJWK K)) : Prop :=
  ∃ s i, Reachable p fromDict s ∧ Step p fromDict s t ∧ s.tasks i ≠ .done kid outcome ∧
    t.tasks i = .done kid outcome

theorem delivered_cached {t : System K} {kid : String} {key : PyJWK K}
    (h : Delivered p fromDict t kid (.ok key)) : t.provider.find kid = some key := by
  obtain ⟨s, i, reached, step, before, after⟩ := h
  cases step with
  | fast idle clock run =>
    obtain ⟨_, same⟩ := moved_task before after
    cases same
    exact (fast_some run).1
  | hit waiting free clock order run =>
    obtain ⟨_, same⟩ := moved_task before after
    cases same
    obtain ⟨rfl, found, _⟩ := locked_hit run
    exact found
  | @answer i kid' held ticket now exchange outcome provider fetching clock run =>
    obtain ⟨rfl, same⟩ := moved_task before after
    injection same with sameKid result
    subst sameKid
    rcases fetched_ok result with ⟨_, found⟩ | ⟨raised, rfl, rfl, _⟩
    · exact found
    · rcases refresh_cases run with ⟨_, _, rfl⟩ | ⟨impossible, _⟩
      · exact ((reachable_inv reached).carried _ _ _ _ fetching).symm
      · cases impossible
  | queue | limited | fetch | startQueue | startFetch | startAnswer | cancelWaiting
  | cancelFetching =>
    obtain ⟨_, same⟩ := moved_task before after
    cases same

theorem cached_usable {s : System K} (h : Reachable p fromDict s) {kid : String} {key : PyJWK K}
    (found : s.provider.find kid = some key) : Usable p key ∧ key.keyId = .str kid := by
  have inv := reachable_inv h
  have current := inv.current
  cases newest : lastRefresh s.log with
  | none =>
    rw [newest] at current
    simp [ProviderState.find, current.1] at found
  | some latest =>
    rw [newest] at current
    obtain ⟨payload, _, parsed⟩ := lastRefresh_parsed inv.sound newest
    obtain ⟨_, keys, _, _, accepted⟩ := parseJwks_ok parsed
    rw [ProviderState.find, current.1] at found
    exact (parseKeys_usable accepted found).2

/-! ### The dependency -/

/-- Hypothesis on `jwt.decode` with an `issuer`: accepted claims carry it. -/
def ChecksIssuer (jwt : Jwt K) : Prop :=
  ∀ rawToken key algorithms issuer leeway required claims,
    jwt.decode rawToken key algorithms issuer leeway required = .ok claims →
      claims.get "iss" = .str issuer

structure Evidence (K : Type) where
  header : JsonObject
  kid : String
  alg : String
  key : PyJWK K
  claims : JsonObject

section
variable (p : JWKSProvider) (fromDict : JsonObject → Except PyExc (List (PyJWK K)))
  (issuer : String) (audiences allowedAlgorithms : List String) (leewaySeconds : Int) (jwt : Jwt K)
  (getSigningKey : String → Except PyExc (PyJWK K))

/-- The evidence belongs to the token, passed every check, and names the principal. -/
structure Vouches (rawToken : String) (principal : Principal) (e : Evidence K) : Prop where
  header : jwt.getUnverifiedHeader rawToken = .ok e.header
  kid : e.header.get "kid" = .str e.kid
  alg : e.header.get "alg" = .str e.alg
  allowed : e.alg ∈ allowedAlgorithms
  lookup : getSigningKey e.kid = .ok e.key
  trusted : ∀ s, Delivered p fromDict s e.kid (.ok e.key) →
    s.provider.find e.kid = some e.key ∧ Usable p e.key ∧ e.key.keyId = .str e.kid
  accepted : jwt.decode rawToken e.key.key allowedAlgorithms.eraseDups issuer leewaySeconds
    requiredClaims = .ok e.claims
  issued : principal.issuer = issuer
  named : Named e.claims principal
  audience : ∃ expected ∈ audiences, Targets e.claims expected

end

theorem init_fields {issuer : String} {audiences allowedAlgorithms : List String}
    {leewaySeconds : Int} {v : KeycloakVerifier}
    (built : KeycloakVerifier.init p issuer audiences allowedAlgorithms leewaySeconds = .ok v) :
    v.jwks = p ∧ v.issuer = issuer ∧ v.audiences = audiences.eraseDups ∧
      v.allowedAlgorithms = allowedAlgorithms.eraseDups ∧ v.leeway = leewaySeconds := by
  unfold KeycloakVerifier.init at built
  split at built
  · cases built
  · split at built <;> cases built
    exact ⟨rfl, rfl, rfl, rfl, rfl⟩

theorem getCurrentPrincipal_fails_closed {v : KeycloakVerifier} {jwt : Jwt K}
    {getSigningKey : String → Except PyExc (PyJWK K)} {credentials : Option String}
    {raised : PyExc} (h : getCurrentPrincipal v jwt getSigningKey credentials = .error raised) :
    ∃ error, raised = .authentication error := by
  unfold getCurrentPrincipal at h
  split at h
  · cases h
    exact ⟨_, rfl⟩
  · split at h <;> cases h
    · exact ⟨_, rfl⟩
    · exact ⟨_, rfl⟩

theorem getCurrentPrincipal_ok {v : KeycloakVerifier} {jwt : Jwt K}
    {getSigningKey : String → Except PyExc (PyJWK K)} {credentials : Option String}
    {principal : Principal}
    (h : getCurrentPrincipal v jwt getSigningKey credentials = .ok principal) :
    ∃ rawToken, credentials = some rawToken ∧ verify v jwt getSigningKey rawToken = .ok principal := by
  unfold getCurrentPrincipal at h
  split at h
  · cases h
  · split at h <;> cases h
    exact ⟨_, rfl, ‹_›⟩

/-- Every failure is an `AuthenticationError`, and a principal is vouched for by its own token and
by the key the provider delivered for the token's kid. -/
theorem principal_vouched {issuer : String} {audiences allowedAlgorithms : List String}
    {leewaySeconds : Int} {v : KeycloakVerifier}
    (built : KeycloakVerifier.init p issuer audiences allowedAlgorithms leewaySeconds = .ok v)
    {jwt : Jwt K} (checksIssuer : ChecksIssuer jwt)
    (getSigningKey : String → Except PyExc (PyJWK K)) (credentials : Option String) :
    (∀ raised, getCurrentPrincipal v jwt getSigningKey credentials = .error raised →
      ∃ error, raised = .authentication error) ∧
    ∀ principal, getCurrentPrincipal v jwt getSigningKey credentials = .ok principal →
      ∃ rawToken e, credentials = some rawToken ∧ Vouches p fromDict issuer audiences
        allowedAlgorithms leewaySeconds jwt getSigningKey rawToken principal e := by
  refine ⟨fun _ => getCurrentPrincipal_fails_closed, ?_⟩
  intro principal h
  obtain ⟨rawToken, present, verified⟩ := getCurrentPrincipal_ok h
  obtain ⟨header, key, claims, headerRead, keyRead, accepted, audience, named⟩ := verify_ok verified
  obtain ⟨kid, alg, kidRead, algRead, allowed, found⟩ := signingKeyFor_ok.mp keyRead
  obtain ⟨_, sameIssuer, sameAudiences, sameAlgorithms, sameLeeway⟩ := init_fields built
  rw [sameAlgorithms, sameIssuer, sameLeeway] at accepted
  simp only [sameAudiences, List.mem_eraseDups] at audience
  rw [sameAlgorithms, List.mem_eraseDups] at allowed
  refine ⟨rawToken, ⟨header, kid, alg, key, claims⟩, present, ?_⟩
  exact {
    header := headerRead
    kid := kidRead
    alg := algRead
    allowed := allowed
    lookup := found
    trusted := fun s delivered => by
      have cached := delivered_cached delivered
      obtain ⟨before, _, reached, step, _⟩ := delivered
      exact ⟨cached, cached_usable (.step reached step) cached⟩
    accepted := accepted
    issued := Json.str.inj (named.issuer.1.symm.trans (checksIssuer _ _ _ _ _ _ _ accepted))
    named := named
    audience := audience }

end

/-! ### A sample token -/

def sampleClaims (issuer : String) : JsonObject :=
  [("sub", .str "u1"), ("iss", .str issuer), ("preferred_username", .str "ann"),
    ("email", .str "ann@example.org"), ("aud", .list [.str "account", .str "pet"])]

def sampleJwt : Jwt JsonObject where
  getUnverifiedHeader _ := .ok [("kid", .str "k1"), ("alg", .str "RS256")]
  decode _ _ _ issuer _ _ := .ok (sampleClaims issuer)

def samplePrincipal : Principal where
  subject := "u1"
  issuer := "https://id/realms/pet"
  username := "ann"
  email := "ann@example.org"
  rawClaims := sampleClaims "https://id/realms/pet"

def sampleVerifier : KeycloakVerifier where
  jwks := sampleProvider
  issuer := "https://id/realms/pet"
  audiences := ["pet"]
  allowedAlgorithms := ["RS256"]
  leeway := 30
  audiences_nonempty := by simp
  none_excluded := by simp

theorem principal_vouched_sample :
    Delivered sampleProvider sampleFromDict sampleServed "k1" (.ok (sampleKey (.str "k1"))) ∧
    ∃ rawToken e, some "t" = some rawToken ∧ Vouches sampleProvider sampleFromDict
      "https://id/realms/pet" ["pet"] ["RS256"] 30 sampleJwt
      (fun _ => .ok (sampleKey (.str "k1"))) rawToken samplePrincipal e := by
  refine ⟨?_, (principal_vouched (v := sampleVerifier) ?_ ?_ _ _).2 samplePrincipal ?_⟩
  · exact ⟨sampleStarted, 1, sampleStarted_reachable, sampleServed_step, by simp [sampleStarted],
      by simp [sampleServed, System.setTask]⟩
  · rfl
  · rintro _ _ _ _ _ _ _ ⟨⟩
    rfl
  · rfl

end PetBackend.Auth
