import PetBackend.Auth.Authentication
import Mathlib.Data.List.Nodup

/-!
# The wiring of the auth components

`di/auth.py`. The verifier gets the configured algorithms and the provider keeps its defaults, so
the two agree only where the key's algorithm happens to be the default one.
-/

namespace PetBackend.Auth
open Outcome

variable {K : Type}

/-- The validated settings that `build_auth_components` reads. -/
structure KeycloakSettings where
  issuerUrl : String
  jwksUri : String
  clientId : String
  audience : List String := []
  allowedAlgorithms : List String := ["RS256"]
  jwksCacheTtlSeconds : Int := 300
  leewaySeconds : Int := 30
  httpTimeoutSeconds : ℚ := 5
  ttl_nonnegative : 0 ≤ jwksCacheTtlSeconds := by decide
  leeway_nonnegative : 0 ≤ leewaySeconds := by decide
  timeout_nonnegative : 0 ≤ httpTimeoutSeconds := by norm_num

def jwksOptions (settings : KeycloakSettings) : JwksOptions where
  jwksUri := settings.jwksUri
  httpTimeoutSeconds := settings.httpTimeoutSeconds
  cacheTtlSeconds := settings.jwksCacheTtlSeconds

/-- `build_auth_components`, on the answer that `start` gets at the reading `now`. -/
def buildAuthComponents (fromDict : JsonObject → Except PyExc (List (PyJWK K)))
    (settings : KeycloakSettings) (exchange : HttpExchange) (now : ℚ) :
    Except PyExc (JWKSProvider × ProviderState K × KeycloakVerifier) := do
  let jwks ← JWKSProvider.init (jwksOptions settings)
  let (started, state) := refresh jwks fromDict exchange now {}
  started
  let audiences := (settings.audience ++ [settings.clientId]).eraseDups
  let verifier ← KeycloakVerifier.init jwks settings.issuerUrl audiences settings.allowedAlgorithms
    settings.leewaySeconds
  return (jwks, state, verifier)

theorem build_fields {fromDict : JsonObject → Except PyExc (List (PyJWK K))}
    {settings : KeycloakSettings} {exchange : HttpExchange} {now : ℚ} {jwks : JWKSProvider}
    {state : ProviderState K} {v : KeycloakVerifier}
    (built : buildAuthComponents fromDict settings exchange now = .ok (jwks, state, v)) :
    jwks.toJwksOptions = jwksOptions settings ∧
      v.allowedAlgorithms = settings.allowedAlgorithms.eraseDups := by
  unfold buildAuthComponents at built
  obtain ⟨provider, initialized, built⟩ := bind_ok.mp built
  obtain ⟨_, _, built⟩ := bind_ok.mp built
  obtain ⟨verifier, verified, built⟩ := bind_ok.mp built
  cases pure_ok.mp built
  obtain ⟨_, _, _, algorithms, _⟩ := init_fields verified
  exact ⟨init_options initialized, algorithms⟩

/-- `get_signing_key` once its own refresh has succeeded. -/
def lookupAfterRefresh (jwks : JWKSProvider) (s : ProviderState K) (now : ℚ) (kid : String) :
    Except PyExc (PyJWK K) :=
  getSigningKeyFetched jwks kid none now (.ok (), s)

theorem lookupAfterRefresh_ok {jwks : JWKSProvider} {s : ProviderState K} {now : ℚ} {kid : String}
    {key : PyJWK K} : lookupAfterRefresh jwks s now kid = .ok key ↔ s.find kid = some key := by
  cases found : s.find kid <;> simp [lookupAfterRefresh, getSigningKeyFetched, found]

/-- The declared or derived algorithm of a published key. -/
def PyJWK.DeclaredFor (key : PyJWK K) (alg : String) : Prop := key.algorithmName = some (.str alg)

def PyJWK.Signing (key : PyJWK K) : Prop := key.publicKeyUse = .null ∨ key.publicKeyUse = .str "sig"

/-- The keys that the provider's default lists let through, under a kid that is not empty. -/
def PyJWK.Default (key : PyJWK K) : Prop :=
  key.keyType = .str "RSA" ∧ key.DeclaredFor "RS256" ∧ key.keyId ≠ .str ""

section
variable (settings : KeycloakSettings) (v : KeycloakVerifier)
  (getSigningKey : String → Except PyExc (PyJWK K)) (keys : List (PyJWK K))
  (header : JsonObject) (kid alg : String)

structure Agree : Prop where
  handed : (∃ key, signingKeyFor v getSigningKey header = .ok key ∧ key.DeclaredFor alg) ↔
    alg ∈ settings.allowedAlgorithms ∧
      ∃ key ∈ keys, key.keyId = .str kid ∧ key.Signing ∧ key.DeclaredFor alg
  declared : ∀ key, signingKeyFor v getSigningKey header = .ok key → key.DeclaredFor alg

/-- The published key is a default one exactly when it is for the token's algorithm. -/
def DefaultsFit : Prop :=
  alg ∈ settings.allowedAlgorithms → ∀ key ∈ keys, key.keyId = .str kid → key.Signing →
    (key.DeclaredFor alg ↔ key.Default)

end

theorem usable_default {jwks : JWKSProvider} {settings : KeycloakSettings}
    (options : jwks.toJwksOptions = jwksOptions settings) {key : PyJWK K} {kid : String}
    (identified : key.keyId = .str kid) :
    loadedKid jwks key = some (.str kid) ↔ key.Signing ∧ key.Default := by
  have types : jwks.allowedKeyTypes = ["RSA"] := by rw [options]; rfl
  have uses : jwks.allowedPublicKeyUses = ["sig"] := by rw [options]; rfl
  have algorithms : jwks.allowedAlgorithms = ["RS256"] := by rw [options]; rfl
  rw [loadedKid_some, identified]
  constructor
  · rintro ⟨truthy, usable, _⟩
    have keyType := usable.keyType
    have use := usable.publicKeyUse
    have algorithm := usable.algorithm
    rw [types] at keyType
    rw [uses] at use
    rw [algorithms] at algorithm
    simp [Admits] at keyType use algorithm
    refine ⟨use, keyType, algorithm, ?_⟩
    simpa [identified] using truthy
  · rintro ⟨signing, keyType, algorithm, nonempty⟩
    refine ⟨by simpa [identified] using nonempty, ⟨?_, ?_, ?_⟩, rfl⟩
    · simp [Admits, types, keyType]
    · simpa [Admits, uses, PyJWK.Signing] using signing
    · simpa [Admits, algorithms, PyJWK.DeclaredFor] using algorithm

theorem lookup_of_mem {entries : KeyMap K} {kid : HashKey} {key : PyJWK K}
    (nodup : (entries.map Prod.fst).Nodup) (member : (kid, key) ∈ entries) :
    entries.lookup kid = some key := by
  induction entries with
  | nil => cases member
  | cons entry rest ih =>
    rcases entry with ⟨first, value⟩
    rw [List.map_cons, List.nodup_cons] at nodup
    by_cases same : kid = first
    · subst same
      rcases List.mem_cons.mp member with equal | later
      · cases equal
        exact List.lookup_cons_self
      · exact (nodup.1 (List.mem_map.mpr ⟨_, later, rfl⟩)).elim
    · have later : (kid, key) ∈ rest := by simpa [same] using member
      simpa [List.lookup_cons, beq_false_of_ne same] using ih nodup.2 later

theorem refreshed_find {jwks : JWKSProvider} {settings : KeycloakSettings}
    (options : jwks.toJwksOptions = jwksOptions settings)
    {fromDict : JsonObject → Except PyExc (List (PyJWK K))} {exchange : HttpExchange} {now : ℚ}
    {s t : ProviderState K} {payload : JsonObject} {keys : List (PyJWK K)}
    (refreshed : refresh jwks fromDict exchange now s = (.ok (), t))
    (answered : getJson exchange = .ok (.dict payload)) (published : fromDict payload = .ok keys)
    {kid : String} {key : PyJWK K} : t.find kid = some key ↔
      key ∈ keys ∧ key.keyId = .str kid ∧ key.Signing ∧ key.Default := by
  have accepted : parseKeys jwks keys = .ok t.keysByKid := by
    rcases refresh_cases refreshed with ⟨_, impossible, _⟩ | ⟨_, ⟨body, decoded, parsed⟩, _⟩
    · cases impossible
    · obtain ⟨members, found, rfl, read, accepted⟩ := parseJwks_ok parsed
      cases decoded.symm.trans answered
      cases read.symm.trans published
      exact accepted
  obtain ⟨_, nodup, _, entries⟩ := parseKeys_ok.mp accepted
  rw [ProviderState.find, entries]
  constructor
  · intro found
    obtain ⟨member, loads⟩ := loaded_mem.mp (Library.mem_of_lookup found)
    have identified := hashKey_str_iff.mp (loadedKid_some.mp loads).2.2
    exact ⟨member, identified, (usable_default options identified).mp loads⟩
  · rintro ⟨member, identified, usable⟩
    exact lookup_of_mem nodup
      (loaded_mem.mpr ⟨member, (usable_default options identified).mpr usable⟩)

theorem signingKeyFor_published {fromDict : JsonObject → Except PyExc (List (PyJWK K))}
    {settings : KeycloakSettings} {startExchange : HttpExchange} {startedAt : ℚ}
    {jwks : JWKSProvider} {state : ProviderState K} {v : KeycloakVerifier}
    (built : buildAuthComponents fromDict settings startExchange startedAt = .ok (jwks, state, v))
    {s t : ProviderState K} {exchange : HttpExchange} {fetchedAt : ℚ} {payload : JsonObject}
    {keys : List (PyJWK K)}
    (refreshed : refresh jwks fromDict exchange fetchedAt s = (.ok (), t))
    (answered : getJson exchange = .ok (.dict payload)) (published : fromDict payload = .ok keys)
    {header : JsonObject} {kid alg : String}
    (headerKid : header.get "kid" = .str kid) (headerAlg : header.get "alg" = .str alg) (now : ℚ) (key : PyJWK K) :
    signingKeyFor v (lookupAfterRefresh jwks t now) header = .ok key ↔
      alg ∈ settings.allowedAlgorithms ∧ key ∈ keys ∧ key.keyId = .str kid ∧ key.Signing ∧ key.Default := by
  obtain ⟨options, algorithms⟩ := build_fields built
  rw [signingKeyFor_ok, algorithms]
  constructor
  · rintro ⟨kid', alg', kidRead, algRead, allowed, found⟩
    cases kidRead.symm.trans headerKid
    cases algRead.symm.trans headerAlg
    exact ⟨List.mem_eraseDups.mp allowed,
      (refreshed_find options refreshed answered published).mp (lookupAfterRefresh_ok.mp found)⟩
  · rintro ⟨allowed, kept⟩
    exact ⟨kid, alg, headerKid, headerAlg, List.mem_eraseDups.mpr allowed,
      lookupAfterRefresh_ok.mpr ((refreshed_find options refreshed answered published).mpr kept)⟩

/-- Right after a successful fetch of a key set the components agree on a token header exactly when
the defaults of the provider fit its algorithm. -/
theorem algorithms_agree {fromDict : JsonObject → Except PyExc (List (PyJWK K))}
    {settings : KeycloakSettings} {startExchange : HttpExchange} {startedAt : ℚ}
    {jwks : JWKSProvider} {state : ProviderState K} {v : KeycloakVerifier}
    (built : buildAuthComponents fromDict settings startExchange startedAt = .ok (jwks, state, v))
    {s t : ProviderState K} {exchange : HttpExchange} {fetchedAt : ℚ} {payload : JsonObject}
    {keys : List (PyJWK K)}
    (refreshed : refresh jwks fromDict exchange fetchedAt s = (.ok (), t))
    (answered : getJson exchange = .ok (.dict payload)) (published : fromDict payload = .ok keys)
    (distinct : (keys.map PyJWK.keyId).Nodup) {header : JsonObject} {kid alg : String}
    (headerKid : header.get "kid" = .str kid) (headerAlg : header.get "alg" = .str alg) (now : ℚ) :
    Agree settings v (lookupAfterRefresh jwks t now) keys header kid alg ↔
      DefaultsFit settings keys kid alg := by
  have handed := signingKeyFor_published built refreshed answered published headerKid headerAlg now
  constructor
  · intro agree allowed key member identified signing
    constructor
    · intro declared
      obtain ⟨other, found, _⟩ := agree.handed.mpr ⟨allowed, key, member, identified, signing, declared⟩
      obtain ⟨_, present, same, _, kept⟩ := (handed other).mp found
      have equal : other = key :=
        List.inj_on_of_nodup_map distinct present member (same.trans identified.symm)
      exact equal ▸ kept
    · intro kept
      exact agree.declared key ((handed key).mpr ⟨allowed, member, identified, signing, kept⟩)
  · intro fit
    refine ⟨⟨?_, ?_⟩, ?_⟩
    · rintro ⟨key, found, declared⟩
      obtain ⟨allowed, member, identified, signing, _⟩ := (handed key).mp found
      exact ⟨allowed, key, member, identified, signing, declared⟩
    · rintro ⟨allowed, key, member, identified, signing, declared⟩
      have kept := (fit allowed key member identified signing).mp declared
      exact ⟨key, (handed key).mpr ⟨allowed, member, identified, signing, kept⟩, declared⟩
    · intro key found
      obtain ⟨allowed, member, identified, signing, kept⟩ := (handed key).mp found
      exact (fit allowed key member identified signing).mpr kept

/-! ### A sample wiring -/

def wiringKey (kid alg : String) : PyJWK JsonObject :=
  ⟨.str kid, .str "RSA", .str "sig", some (.str alg),
    [("kid", .str kid), ("kty", .str "RSA"), ("use", .str "sig"), ("alg", .str alg)]⟩

def wiringPayload : JsonObject :=
  [("keys", .list [.dict (wiringKey "k1" "RS256").key, .dict (wiringKey "k2" "RS512").key])]

def wiringSettings : KeycloakSettings where
  issuerUrl := "https://id/realms/pet"
  jwksUri := "https://id/realms/pet/certs"
  clientId := "pet"
  allowedAlgorithms := ["RS256", "RS512"]

def wiringProvider : JWKSProvider :=
  { sampleProvider with
    jwksUri := "https://id/realms/pet/certs"
    uri_nonempty := by decide }

def wiringState : ProviderState JsonObject where
  keysByKid := [(.str "k1", wiringKey "k1" "RS256")]
  fetchedAtMonotonic := some 10

def wiringVerifier : KeycloakVerifier where
  jwks := wiringProvider
  issuer := "https://id/realms/pet"
  audiences := ["pet"]
  allowedAlgorithms := ["RS256", "RS512"]
  leeway := 30
  audiences_nonempty := sampleVerifier.audiences_nonempty
  none_excluded := by simp

theorem wiring_refresh (s : ProviderState JsonObject) :
    refresh wiringProvider sampleFromDict (.ok (.ok (.dict wiringPayload))) 10 s =
      (.ok (), { s with keysByKid := wiringState.keysByKid, fetchedAtMonotonic := some 10 }) := rfl

theorem wiring_built : buildAuthComponents sampleFromDict wiringSettings
    (.ok (.ok (.dict wiringPayload))) 10 = .ok (wiringProvider, wiringState, wiringVerifier) := by
  have options : jwksOptions wiringSettings = wiringProvider.toJwksOptions := by
    simp [jwksOptions, wiringSettings, wiringProvider, sampleProvider]
  have initialized : JWKSProvider.init (jwksOptions wiringSettings) = .ok wiringProvider := by
    rw [options, init_ok]
  simp only [buildAuthComponents, initialized, bind, Except.bind, wiring_refresh]
  rfl

theorem algorithms_agree_sample : Agree wiringSettings wiringVerifier
    (lookupAfterRefresh wiringProvider wiringState 11) [wiringKey "k1" "RS256", wiringKey "k2" "RS512"]
    [("kid", .str "k1"), ("alg", .str "RS256")] "k1" "RS256" := by
  have published : sampleFromDict wiringPayload =
      .ok [wiringKey "k1" "RS256", wiringKey "k2" "RS512"] := rfl
  refine (algorithms_agree wiring_built (wiring_refresh {}) rfl published ?_ rfl rfl 11).mpr ?_
  · simp [wiringKey]
  · intro _ key member identified _
    simp only [List.mem_cons, List.not_mem_nil, or_false] at member
    rcases member with rfl | rfl
    · simp [PyJWK.DeclaredFor, PyJWK.Default, wiringKey]
    · simp [wiringKey] at identified

/-- The token of the other configured algorithm does not, and a token that names it with the kid of
the first key gets that key. -/
theorem algorithms_disagree :
    buildAuthComponents sampleFromDict wiringSettings (.ok (.ok (.dict wiringPayload))) 10 =
      .ok (wiringProvider, wiringState, wiringVerifier) ∧
    ¬ Agree wiringSettings wiringVerifier (lookupAfterRefresh wiringProvider wiringState 11)
      [wiringKey "k1" "RS256", wiringKey "k2" "RS512"]
      [("kid", .str "k2"), ("alg", .str "RS512")] "k2" "RS512" ∧
    signingKeyFor wiringVerifier (lookupAfterRefresh wiringProvider wiringState 11)
      [("kid", .str "k1"), ("alg", .str "RS512")] = .ok (wiringKey "k1" "RS256") := by
  refine ⟨wiring_built, ?_, rfl⟩
  intro agree
  obtain ⟨key, handed, _⟩ := agree.handed.mpr ⟨by simp [wiringSettings], wiringKey "k2" "RS512",
    by simp, rfl, Or.inr rfl, rfl⟩
  cases handed

end PetBackend.Auth
