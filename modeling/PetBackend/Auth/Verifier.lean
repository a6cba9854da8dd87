import PetBackend.Auth.Jwks
import PetBackend.Domain.Principal
import PetBackend.PyString
import Mathlib.Data.Finset.Dedup

/-!
# The Keycloak verifier

`infra/auth/keycloak_verifier.py` and the bearer dependency of `api/auth.py`. `jwt` is a
parameter, and so is the outcome of the awaited `get_signing_key`.
-/

namespace PetBackend.Auth

variable {K : Type}

/-- The two functions of `jwt` that `verify` calls. `decode` takes the token, the raw key, the
algorithms, the issuer, the leeway and the required claims, and leaves the audience alone. -/
structure Jwt (K : Type) where
  getUnverifiedHeader : String → Except PyExc JsonObject
  decode : String → K → List String → String → Int → List String → Except PyExc JsonObject

structure KeycloakVerifier where
  jwks : JWKSProvider
  issuer : String
  audiences : List String
  allowedAlgorithms : List String
  leeway : Int
  audiences_nonempty : audiences ≠ []
  none_excluded : "none" ∉ allowedAlgorithms

theorem eraseDups_ne_nil {names : List String} (nonempty : names ≠ []) : names.eraseDups ≠ [] := by
  obtain ⟨name, member⟩ := List.exists_mem_of_ne_nil names nonempty
  exact List.ne_nil_of_mem (List.mem_eraseDups.mpr member)

def KeycloakVerifier.init (jwksProvider : JWKSProvider) (issuer : String)
    (audiences allowedAlgorithms : List String) (leewaySeconds : Int) :
    Except PyExc KeycloakVerifier :=
  if empty : audiences = [] then .error (.valueError "audiences must not be empty")
  else if unsafeAlgorithm : "none" ∈ allowedAlgorithms then
    .error (.valueError "Algorithm 'none' is not permitted")
  else .ok {
    jwks := jwksProvider
    issuer := issuer
    audiences := audiences.eraseDups
    allowedAlgorithms := allowedAlgorithms.eraseDups
    leeway := leewaySeconds
    audiences_nonempty := eraseDups_ne_nil empty
    none_excluded := fun member => unsafeAlgorithm (List.mem_eraseDups.mp member) }

def requiredClaims : List String := ["sub", "iss", "iat", "exp"]

def invalidToken (description : String) : PyExc := .authentication (.invalidToken description)

def tokenVerificationUnavailable : PyExc := .authentication .tokenVerificationUnavailable

def strings (items : List Json) : List String :=
  items.filterMap fun | .str value => some value | _ => none

def coerceStrList : Json → List String
  | .str value => [value]
  | .list items => strings items
  | _ => []

def extractScopes (claims : JsonObject) : Finset String :=
  let fromScp := match claims.get "scp" with
    | .list items => (strings items).toFinset
    | _ => ∅
  match claims.get "scope" with
  | .str raw => if raw = "" then fromScp else (PyString.split raw).toFinset
  | _ => fromScp

def rolesOf (body : JsonObject) : Option (Finset String) :=
  match body.get "roles" with
  | .list items => some (strings items).toFinset
  | _ => none

def extractRealmRoles (claims : JsonObject) : Finset String :=
  match claims.get "realm_access" with
  | .dict realmAccess => (rolesOf realmAccess).getD ∅
  | _ => ∅

def extractClientRoles (claims : JsonObject) : List (String × Finset String) :=
  match claims.get "resource_access" with
  | .dict resourceAccess => resourceAccess.filterMap fun
    | (client, .dict body) => (rolesOf body).map (client, ·)
    | _ => none
  | _ => []

def requireStrClaim (claims : JsonObject) (name : String) : Except PyExc String :=
  match claims.get name with
  | .str value =>
    if value = "" then .error (invalidToken s!"Token missing required claim: '{name}'") else .ok value
  | _ => .error (invalidToken s!"Token missing required claim: '{name}'")

def optionalStrClaim (claims : JsonObject) (name : String) : Except PyExc (Option String) :=
  match claims.get name with
  | .null => .ok none
  | .str value => .ok (some value)
  | _ => .error (invalidToken s!"Token claim '{name}' must be a string")

def buildPrincipal (claims : JsonObject) : Except PyExc Principal := do
  return {
    subject := ← requireStrClaim claims "sub"
    issuer := ← requireStrClaim claims "iss"
    username := ← requireStrClaim claims "preferred_username"
    email := ← requireStrClaim claims "email"
    firstName := ← optionalStrClaim claims "given_name"
    lastName := ← optionalStrClaim claims "family_name"
    scopes := extractScopes claims
    realmRoles := extractRealmRoles claims
    clientRoles := extractClientRoles claims
    rawClaims := claims }

/-- The set `candidates` of `_validate_audience`. -/
def audienceCandidates (claims : JsonObject) : List String :=
  let tokenAudience := coerceStrList (claims.get "aud")
  match claims.get "azp" with
  | .str azp => if azp = "" then tokenAudience else azp :: tokenAudience
  | _ => tokenAudience

section
variable (v : KeycloakVerifier)

def validateAudience (claims : JsonObject) : Except PyExc Unit :=
  if v.audiences = [] ∨ v.audiences.any (fun expected => expected ∈ audienceCandidates claims) then
    .ok ()
  else .error (invalidToken "Invalid token audience")

variable (jwt : Jwt K)

def unverifiedHeader (rawToken : String) : Except PyExc JsonObject :=
  match jwt.getUnverifiedHeader rawToken with
  | .error (.jwt _) => .error (invalidToken "Malformed token header")
  | outcome => outcome

/-- From the header to the key: the checks of `kid` and `alg`, and the lookup. -/
def signingKeyFor (getSigningKey : String → Except PyExc (PyJWK K)) (header : JsonObject) :
    Except PyExc (PyJWK K) :=
  match header.get "kid" with
  | .str kid =>
    match header.get "alg" with
    | .str alg =>
      if alg ∉ v.allowedAlgorithms then .error (invalidToken "Disallowed token algorithm")
      else match getSigningKey kid with
        | .error (.signingKeyNotFound _) => .error (invalidToken "Token signed by an unknown key")
        | .error (.jwksProviderUnavailable _) => .error tokenVerificationUnavailable
        | outcome => outcome
    | _ => .error (invalidToken "Disallowed token algorithm")
  | _ => .error (invalidToken "Token header is missing 'kid'")

def JwtError.rejection : JwtError → Option String
  | .expiredSignature => some "Token has expired"
  | .immatureSignature => some "Token is not yet valid"
  | .invalidIssuer => some "Invalid token issuer"
  | .invalidSignature => some "Invalid token signature"
  | .missingRequiredClaim => some "Token is missing required claims"
  | .invalidAlgorithm => some "Disallowed token algorithm"
  | .invalidToken _ => some "Invalid token"
  | .other _ => none

def decodeClaims (rawToken : String) (key : K) : Except PyExc JsonObject :=
  match jwt.decode rawToken key v.allowedAlgorithms v.issuer v.leeway requiredClaims with
  | .error (.jwt raised) =>
    match raised.rejection with
    | some description => .error (invalidToken description)
    | none => .error (.jwt raised)
  | outcome => outcome

def verify (getSigningKey : String → Except PyExc (PyJWK K)) (rawToken : String) :
    Except PyExc Principal := do
  if rawToken = "" then
    throw (invalidToken "Empty Token")
  let header ← unverifiedHeader jwt rawToken
  let signingKey ← signingKeyFor v getSigningKey header
  let claims ← decodeClaims v jwt rawToken signingKey.key
  validateAudience v claims
  buildPrincipal claims

/-- The dependency of the protected routes, on the bearer credentials if there are any. -/
def getCurrentPrincipal (getSigningKey : String → Except PyExc (PyJWK K)) :
    Option String → Except PyExc Principal
  | none => .error (.authentication .missingToken)
  | some credentials =>
    match verify v jwt getSigningKey credentials with
    | .ok principal => .ok principal
    | .error (.authentication raised) => .error (.authentication raised)
    | .error _ => .error (invalidToken "Token verification failed")

end

end PetBackend.Auth
