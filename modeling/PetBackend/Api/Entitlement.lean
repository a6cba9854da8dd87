import PetBackend.Api.ServiceRuns

/-!
# Who may write

Every committed row goes back to a request whose token was verified, and says what that token said.
-/

namespace PetBackend.Api
open Library Auth Persistence Postgres Outcome

variable {K : Type}

/-- What the route makes of a principal, and on which conditions. -/
inductive Grants (a : App K) (i : Nat) (principal : Principal) : Job → Prop where
  | login (route : (a.requests i).route = .login) :
      Grants a i principal (.provisionUser principal (a.requests i).uuidGen)
  | createOrganization {body : PyJson} {name : String}
      (route : (a.requests i).route = .createOrganization (.ok body))
      (scope : "organizations:write" ∈ principal.scopes)
      (read : createOrgDtoIn a.framework a.unicode body = .ok name) :
      Grants a i principal (.createOrganization { name := name, principal := principal } (a.requests i).uuidGen)

/-- The settings of the verifier. -/
structure Trust where
  audiences : List String
  allowedAlgorithms : List String
  leewaySeconds : Int

/-- The request presented a token for the principal. It was verified with a key that the provider had fetched
and held in some state of the run, under the token's own kid. -/
structure Presents (a : App K) (trust : Trust) (i : Nat) (principal : Principal) (rawToken : String)
    (e : Evidence K) (t : System K) : Prop where
  credentials : (a.requests i).credentials = some rawToken
  vouches : Vouches a.provider a.fromDict a.issuerUrl trust.audiences trust.allowedAlgorithms trust.leewaySeconds
    a.jwt (fun _ => .ok e.key) rawToken principal e
  delivered : Delivered a.provider a.fromDict t e.kid (.ok e.key)
  held : t.provider.find e.kid = some e.key ∧ Usable a.provider e.key

def Entitled (a : App K) (trust : Trust) (i : Nat) (principal : Principal) (job : Job) : Prop :=
  (∃ rawToken e t, Presents a trust i principal rawToken e t) ∧ Grants a i principal job

section
variable {a : App K} {s : Service K} {i : Nat} {job : Job} {trust : Trust}

theorem readBody_ok {framework : Framework} {u : UnicodeData} {body : Except (List RawError) PyJson} {name : String}
    (read : readBody framework u body = .ok name) :
    ∃ json, body = .ok json ∧ createOrgDtoIn framework u json = .ok name := bind_ok.mp (mapError_ok_iff.mp read)

theorem accept_ok {outcome : Except PyExc (PyJWK K)} (admitted : a.accept i outcome = .ok job) : ∃ principal,
    getCurrentPrincipal a.verifier a.jwt (fun _ => outcome) (a.requests i).credentials = .ok principal ∧
      Grants a i principal job := by
  obtain ⟨principal, verified, granted⟩ := bind_ok.mp admitted
  refine ⟨principal, mapError_ok_iff.mp verified, ?_⟩
  cases route : (a.requests i).route with
  | login =>
    rw [route] at granted
    cases granted
    exact .login route
  | createOrganization body =>
    rw [route] at granted
    obtain ⟨passing, gated, granted⟩ := bind_ok.mp granted
    obtain ⟨name, read, granted⟩ := bind_ok.mp granted
    cases granted
    obtain ⟨json, rfl, valid⟩ := readBody_ok read
    have passed := mapError_ok_iff.mp gated
    have same : passing = principal := by
      unfold requiredScopes gate at passed
      dsimp only at passed
      split at passed <;> cases passed
      rfl
    rw [same] at passed
    exact .createOrganization route (gate_ok.mp passed _ (List.mem_singleton.mpr rfl)) valid

theorem verify_nonempty {v : KeycloakVerifier} {jwt : Jwt K} {getSigningKey : String → Except PyExc (PyJWK K)}
    {rawToken : String} {principal : Principal} (verified : verify v jwt getSigningKey rawToken = .ok principal) :
    rawToken ≠ "" := by
  rintro rfl
  cases verified

theorem verify_vouches {issuer : String} {audiences allowedAlgorithms : List String} {leewaySeconds : Int}
    {p : JWKSProvider} {fromDict : JsonObject → Except PyExc (List (PyJWK K))} {v : KeycloakVerifier} {jwt : Jwt K}
    {getSigningKey : String → Except PyExc (PyJWK K)} {rawToken : String} {principal : Principal}
    (built : KeycloakVerifier.init p issuer audiences allowedAlgorithms leewaySeconds = .ok v)
    (checksIssuer : ChecksIssuer jwt) (verified : verify v jwt getSigningKey rawToken = .ok principal) :
    ∃ e, Vouches p fromDict issuer audiences allowedAlgorithms leewaySeconds jwt getSigningKey rawToken principal e := by
  obtain ⟨header, key, claims, headerRead, keyRead, accepted, audience, named⟩ := verify_ok verified
  obtain ⟨kid, alg, kidRead, algRead, allowed, found⟩ := signingKeyFor_ok.mp keyRead
  obtain ⟨-, sameIssuer, sameAudiences, sameAlgorithms, sameLeeway⟩ := init_fields built
  rw [sameAlgorithms, sameIssuer, sameLeeway] at accepted
  have issued : principal.issuer = issuer :=
    Json.str.inj (named.issuer.1.symm.trans (checksIssuer _ _ _ _ _ _ _ accepted))
  refine ⟨⟨header, kid, alg, key, claims⟩, headerRead, kidRead, algRead, ?_, found, ?_, accepted, issued, named, ?_⟩
  · exact List.mem_eraseDups.mp (sameAlgorithms ▸ allowed)
  · intro s delivered
    have cached := delivered_cached delivered
    obtain ⟨before, task, reached, step, -⟩ := delivered
    exact ⟨cached, cached_usable (.step reached step) cached⟩
  · simpa only [sameAudiences, List.mem_eraseDups] using audience

theorem admitted_entitled
    (built : KeycloakVerifier.init a.provider a.issuerUrl trust.audiences trust.allowedAlgorithms
      trust.leewaySeconds = .ok a.verifier) (checksIssuer : ChecksIssuer a.jwt) (admitted : Admitted a i job) :
    ∃ principal, Entitled a trust i principal job := by
  obtain ⟨kid, outcome, t, sought, delivered, accepted⟩ := admitted
  obtain ⟨principal, verified, grants⟩ := accept_ok accepted
  obtain ⟨rawToken, presented, verifies⟩ := getCurrentPrincipal_ok verified
  have vouched : ∃ e, Vouches a.provider a.fromDict a.issuerUrl trust.audiences trust.allowedAlgorithms
      trust.leewaySeconds a.jwt (fun _ => outcome) rawToken principal e := verify_vouches built checksIssuer verifies
  obtain ⟨e, vouches⟩ := vouched
  -- the key was looked up under the kid of the token's own header
  have header : unverifiedHeader a.jwt rawToken = .ok e.header := by
    unfold unverifiedHeader
    rw [vouches.header]
  have allowed : e.alg ∈ a.verifier.allowedAlgorithms := by
    rw [(init_fields built).2.2.2.1, List.mem_eraseDups]
    exact vouches.allowed
  have own : soughtKid a.verifier a.jwt (some rawToken) = some e.kid :=
    soughtKid_header (verify_nonempty verifies) header vouches.kid vouches.alg allowed
  rw [presented, own] at sought
  cases sought
  have key : outcome = .ok e.key := vouches.lookup
  subst key
  obtain ⟨found, usable, -⟩ := vouches.trusted t delivered
  exact ⟨principal, ⟨rawToken, e, t, presented, vouches, delivered, found, usable⟩, grants⟩

/-! ### Committed rows -/

def nobody : Principal := { subject := "", issuer := "", username := "", email := "" }

/-- What requests that are not admitted may be taken for, where it is organizations that are at issue. -/
def idleLogin : Job := .provisionUser nobody fun _ => 0

/-- And where it is users. -/
def idleJob : Job := .createOrganization ⟨"", nobody⟩ fun _ => 0

theorem jobs_held {default : Job} (held : s.jobs default i = job) (other : default ≠ job) :
    (s.phases i).job? = some job := by
  unfold Service.jobs at held
  cases known : (s.phases i).job? with
  | some found =>
    rw [known] at held
    exact congrArg some held
  | none =>
    rw [known] at held
    exact (other held).elim

theorem held_admitted (inv : s.Inv a) (held : (s.phases i).job? = some job) : Admitted a i job := by
  have fits := inv.fits i
  cases phase : s.phases i with
  | running other program =>
    rw [phase] at held fits
    cases held
    exact fits
  | finished other outcome response =>
    rw [phase] at held fits
    cases held
    exact fits.1
  | _ =>
    rw [phase] at held
    cases held

/-- The row is the principal's. -/
structure Depicts (row : UserRow) (principal : Principal) : Prop where
  identity : row.values.authIssuer = principal.issuer ∧ row.values.authSubject = principal.subject
  contact : row.values.username = principal.username ∧ row.values.email = principal.email
  names : row.values.firstName = principal.firstName ∧ row.values.lastName = principal.lastName

/-- Each version of a user shows the principal that the request which wrote it was verified to be. Each
organization was created by a request whose principal may create organizations and owns it. There are no other
memberships, and every request that wrote anything was admitted. -/
structure OnlyEntitledWrites (a : App K) (trust : Trust) (s : Service K) : Prop where
  users : ∀ id row, row ∈ s.store.users.versions id → ∃ principal,
    Entitled a trust row.writtenBy principal (.provisionUser principal (a.requests row.writtenBy).uuidGen) ∧
      Depicts row principal
  organizations : ∀ id o, o ∈ s.store.organizations.versions id → ∃ principal name,
    Entitled a trust o.writtenBy principal
      (.createOrganization { name := name, principal := principal } (a.requests o.writtenBy).uuidGen) ∧
    "organizations:write" ∈ principal.scopes ∧
    ∃ mid m row, m ∈ s.store.memberships.versions mid ∧ m.orgId = id ∧ m.userRole = .owner ∧
      row ∈ s.store.users.versions m.userId ∧ row.values.authIssuer = principal.issuer ∧
      row.values.authSubject = principal.subject
  memberships : ∀ mid m, m ∈ s.store.memberships.versions mid → m.userRole = .owner ∧
    (∃ o, o ∈ s.store.organizations.versions m.orgId) ∧
    ∀ mid' m', m' ∈ s.store.memberships.versions mid' → m'.orgId = m.orgId → mid' = mid ∧ m' = m
  writers : ∀ i, ¬ Lost i s.store → ∃ principal job, Entitled a trust i principal job

theorem authored_depicts {row : UserRow} {principal : Principal} {publicId : PublicId} {now : DateTime}
    (issuer : row.values.authIssuer = principal.issuer) (subject : row.values.authSubject = principal.subject)
    (update : row.update = userUpdate (userFromClaims principal publicId now)) (profile : row.profile = row.update) :
    Depicts row principal := by
  have same : row.profile = userUpdate (userFromClaims principal publicId now) := profile.trans update
  exact ⟨⟨issuer, subject⟩, ⟨congrArg UserUpdate.username same, congrArg UserUpdate.email same⟩,
    ⟨congrArg UserUpdate.firstName same, congrArg UserUpdate.lastName same⟩⟩

end

end PetBackend.Api
