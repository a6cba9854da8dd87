import PetBackend.Json
import PetBackend.Auth.Exc

/-!
# The JWKS provider

`infra/auth/jwks.py`: constructor checks, parsing, the refresh, and `get_signing_key` cut at its
two suspension points, the lock and the HTTP fetch. Log calls are left out.
-/

namespace PetBackend.Auth

variable {K : Type}

/-- A `jwt.PyJWK`: the raw members of the key, and its raw key object. -/
structure PyJWK (K : Type) where
  keyId : Json
  keyType : Json
  publicKeyUse : Json
  /-- Absent when the attribute raises a `PyJWTError`. -/
  algorithmName : Option Json
  key : K

structure JwksOptions where
  jwksUri : String
  httpTimeoutSeconds : ℚ := 5
  allowedKeyTypes : List String := ["RSA"]
  allowedPublicKeyUses : List String := ["sig"]
  allowedAlgorithms : List String := ["RS256"]
  cacheTtlSeconds : ℚ := 300
  maxStaleSeconds : ℚ := 300
  minForcedRefreshIntervalSeconds : ℚ := 5

structure JWKSProvider extends JwksOptions where
  uri_nonempty : jwksUri ≠ ""
  ttl_positive : 0 < cacheTtlSeconds
  stale_nonnegative : 0 ≤ maxStaleSeconds
  interval_positive : 0 < minForcedRefreshIntervalSeconds
  timeout_positive : 0 < httpTimeoutSeconds

def JWKSProvider.init (options : JwksOptions) : Except PyExc JWKSProvider :=
  if uri : options.jwksUri = "" then .error (.valueError "jwks_uri must not be empty")
  else if ttl : options.cacheTtlSeconds ≤ 0 then
    .error (.valueError "cache_ttl_seconds must be positive")
  else if stale : options.maxStaleSeconds < 0 then
    .error (.valueError "max_stale_seconds must be non-negative")
  else if interval : options.minForcedRefreshIntervalSeconds ≤ 0 then
    .error (.valueError "min_forced_refresh_interval_seconds must be positive")
  else if timeout : options.httpTimeoutSeconds ≤ 0 then
    .error (.valueError "http_timeout_seconds must be positive")
  else .ok { options with
    uri_nonempty := uri
    ttl_positive := not_le.mp ttl
    stale_nonnegative := not_lt.mp stale
    interval_positive := not_le.mp interval
    timeout_positive := not_le.mp timeout }

theorem init_options {options : JwksOptions} {provider : JWKSProvider}
    (h : JWKSProvider.init options = .ok provider) : provider.toJwksOptions = options := by
  unfold JWKSProvider.init at h
  repeat' split at h
  all_goals cases h
  rfl

theorem init_ok (provider : JWKSProvider) :
    JWKSProvider.init provider.toJwksOptions = .ok provider := by
  unfold JWKSProvider.init
  rw [dif_neg provider.uri_nonempty, dif_neg (not_le.mpr provider.ttl_positive),
    dif_neg (not_lt.mpr provider.stale_nonnegative), dif_neg (not_le.mpr provider.interval_positive),
    dif_neg (not_le.mpr provider.timeout_positive)]

/-- `dict[str, PyJWK]` in insertion order. A key is a raw JSON value until proved a string. -/
abbrev KeyMap (K : Type) := List (HashKey × PyJWK K)

structure ProviderState (K : Type) where
  keysByKid : KeyMap K := []
  lastForcedRefreshAtMonotonic : ℚ := 0
  fetchedAtMonotonic : Option ℚ := none

def ProviderState.find (s : ProviderState K) (kid : String) : Option (PyJWK K) :=
  s.keysByKid.lookup (.str kid)

/-- The JWKS request: what `get` and `raise_for_status` raise, or what `response.json()` does. -/
abbrev HttpExchange := Except PyExc (Except PyExc Json)

def getJson : HttpExchange → Except PyExc Json
  | .error (.httpStatusError _) => .error (.jwksProviderUnavailable "jwks_fetch failed")
  | .error (.requestError _) => .error (.jwksProviderUnavailable "jwks_fetch failed")
  | .error raised => .error raised
  | .ok (.error (.valueError _)) =>
    .error (.jwksProviderUnavailable "jwks_fetch returned invalid JSON")
  | .ok (.error raised) => .error raised
  | .ok (.ok body) => .ok body

/-- `value in names`, which hashes the value. -/
def memberOf (value : Json) (names : List String) : Except PyExc Bool :=
  match value.hashKey? with
  | none => .error .typeError
  | some key => .ok (names.any (fun name => key == .str name))

/-- `names and value not in names`. -/
def excluded (value : Json) (names : List String) : Except PyExc Bool :=
  if names.isEmpty then .ok false else (memberOf value names).map not

def isUsableSigningKey (p : JWKSProvider) (key : PyJWK K) : Except PyExc Bool := do
  if ← excluded key.keyType p.allowedKeyTypes then
    return false
  if !key.publicKeyUse.isNone then
    if ← excluded key.publicKeyUse p.allowedPublicKeyUses then
      return false
  if p.allowedAlgorithms.isEmpty then
    return true
  match key.algorithmName with
  | none => return false
  | some algorithmName => return !(← excluded algorithmName p.allowedAlgorithms)

structure Parsed (K : Type) where
  keysByKid : KeyMap K := []
  duplicateKids : List HashKey := []

def parseKey (p : JWKSProvider) (acc : Parsed K) (key : PyJWK K) : Except PyExc (Parsed K) := do
  if !key.keyId.truthy then
    return acc
  if !(← isUsableSigningKey p key) then
    return acc
  match key.keyId.hashKey? with
  | none => throw .typeError
  | some kid =>
    if (acc.keysByKid.lookup kid).isSome then
      return { acc with duplicateKids := acc.duplicateKids.insert kid }
    return { acc with keysByKid := acc.keysByKid ++ [(kid, key)] }

/-- The checks after the loop. The duplicates are sorted for the log. -/
def parseResult (acc : Parsed K) : Except PyExc (KeyMap K) :=
  if !acc.duplicateKids.isEmpty then
    if HashKey.sortable acc.duplicateKids then
      .error (.jwksProviderUnavailable "JWKS contains duplicate kid values")
    else .error .typeError
  else if acc.keysByKid.isEmpty then
    .error (.jwksProviderUnavailable "JWKS contains no usable signing keys")
  else .ok acc.keysByKid

def parseKeys (p : JWKSProvider) (keys : List (PyJWK K)) : Except PyExc (KeyMap K) := do
  parseResult (← keys.foldlM (parseKey p) {})

def caughtByParse : PyExc → Bool
  | .jwt _ | .keyError | .typeError | .valueError _ => true
  | _ => false

def parseJwks (p : JWKSProvider) (fromDict : JsonObject → Except PyExc (List (PyJWK K))) :
    Json → Except PyExc (KeyMap K)
  | .dict payload =>
    match fromDict payload with
    | .ok keys => parseKeys p keys
    | .error raised =>
      if caughtByParse raised then .error (.jwksProviderUnavailable "JWKS parse failed")
      else .error raised
  | _ => .error (.jwksProviderUnavailable "JWKS payload has unexpected shape")

def cacheAgeSeconds (s : ProviderState K) (now : ℚ) : Option ℚ :=
  s.fetchedAtMonotonic.map (now - ·)

def isStale (p : JWKSProvider) (s : ProviderState K) (now : ℚ) : Bool :=
  match cacheAgeSeconds s now with
  | none => true
  | some cacheAge => cacheAge ≥ p.cacheTtlSeconds

def isStaleUsable (p : JWKSProvider) (s : ProviderState K) (now : ℚ) : Bool :=
  match cacheAgeSeconds s now with
  | none => false
  | some cacheAge => cacheAge ≤ p.maxStaleSeconds + p.cacheTtlSeconds

def enforceForcedRefreshRateLimit (p : JWKSProvider) (s : ProviderState K) (now : ℚ) :
    Except PyExc (ProviderState K) :=
  let elapsed := now - s.lastForcedRefreshAtMonotonic
  if elapsed < p.minForcedRefreshIntervalSeconds then
    .error (.signingKeyNotFound "Unknown signing key")
  else .ok { s with lastForcedRefreshAtMonotonic := now }

/-- `_refresh`, with the state it leaves behind when it raises. -/
def refresh (p : JWKSProvider) (fromDict : JsonObject → Except PyExc (List (PyJWK K)))
    (exchange : HttpExchange) (now : ℚ) (s : ProviderState K) : Except PyExc Unit × ProviderState K :=
  match getJson exchange with
  | .error raised => (.error raised, s)
  | .ok payload =>
    match parseJwks p fromDict payload with
    | .error raised => (.error raised, s)
    | .ok keysByKid => (.ok (), { s with keysByKid := keysByKid, fetchedAtMonotonic := some now })

/-- `get_signing_key` up to the lock: the key it returns without queueing. -/
def getSigningKeyFast (p : JWKSProvider) (s : ProviderState K) (kid : String) (now : ℚ) :
    Option (PyJWK K) :=
  match s.find kid with
  | none => none
  | some key => if isStale p s now then none else some key

inductive Locked (K : Type) where
  | hit (key : PyJWK K)
  | raised (error : PyExc)
  /-- Awaits `_refresh` holding `key`; `markedAt` is the forced-refresh mark it set. -/
  | fetch (key : Option (PyJWK K)) (markedAt : Option ℚ)

/-- `get_signing_key` from the lock to the fetch. The limiter reads the clock a second time. -/
def getSigningKeyLocked (p : JWKSProvider) (s : ProviderState K) (kid : String) (now later : ℚ) :
    Locked K × ProviderState K :=
  match s.find kid, isStale p s now with
  | some key, false => (.hit key, s)
  | none, false =>
    match enforceForcedRefreshRateLimit p s later with
    | .error raised => (.raised raised, s)
    | .ok marked => (.fetch none (some later), marked)
  | key, true => (.fetch key none, s)

/-- `get_signing_key` from the outcome of `_refresh` to its end. -/
def getSigningKeyFetched (p : JWKSProvider) (kid : String) (key : Option (PyJWK K)) (now : ℚ) :
    Except PyExc Unit × ProviderState K → Except PyExc (PyJWK K)
  | (.ok (), s) =>
    match s.find kid with
    | some fresh => .ok fresh
    | none => .error (.signingKeyNotFound s!"Unknown kid {kid}")
  | (.error (.jwksProviderUnavailable message), s) =>
    match key with
    | some held => if isStaleUsable p s now then .ok held else .error (.jwksProviderUnavailable message)
    | none => .error (.jwksProviderUnavailable message)
  | (.error raised, _) => .error raised

end PetBackend.Auth
