import PetBackend.Api.RequestId
import PetBackend.Api.Responses
import PetBackend.Auth.Gates
import PetBackend.Auth.Lookups
import PetBackend.Postgres.Session

/-!
# The service

`api/routers` and `api/auth.py` over the key provider and the database that all requests share. A step is what
one request does up to its next suspension point: its key lookup runs in the provider, its transaction in the
database. FastAPI is free in the order in which it reports an unreadable body and a refused credential.
-/

namespace PetBackend.Api
open Library Auth Persistence Postgres

variable {K : Type}

inductive Route where
  | login
  /-- The body, or what is reported of one that is no JSON. -/
  | createOrganization (body : Except (List RawError) PyJson)

def Route.path : Route → String
  | .login => "/users/me"
  | .createOrganization _ => "/orgs/"

structure Incoming where
  route : Route
  credentials : Option String := none
  headerRequestId : Option String := none
  /-- What `uuid4()` returns to the middleware. -/
  freshRequestId : UUID
  /-- And to the use case. -/
  uuidGen : Nat → UUID

/-- What the service is built on, and what it is sent. -/
structure App (K : Type) where
  framework : Framework
  unicode : UnicodeData
  decimal : Char → Option Nat
  issuerUrl : String
  provider : JWKSProvider
  fromDict : JsonObject → Except PyExc (List (PyJWK K))
  jwt : Jwt K
  verifier : KeycloakVerifier
  server : Server
  autoflush : Bool
  requests : Nat → Incoming

/-! ### The routes -/

/-- The body against `CreateOrgDtoIn`. -/
def readBody (framework : Framework) (u : UnicodeData) (body : Except (List RawError) PyJson) :
    Except RouteExc String :=
  (body >>= createOrgDtoIn framework u).mapError .validation

/-- What a route does with a principal before its executor runs. -/
def Route.job (framework : Framework) (u : UnicodeData) (uuidGen : Nat → UUID) (principal : Principal) :
    Route → Except RouteExc Job
  | .login => .ok (.provisionUser principal uuidGen)
  | .createOrganization body => do
    let _ ← (requiredScopes ["organizations:write"] principal).mapError .authorization
    let name ← readBody framework u body
    return .createOrganization { name := name, principal := principal } uuidGen

/-- What the dependencies raise, by the class that a handler is registered for. -/
def RouteExc.ofDependency : PyExc → RouteExc
  | .authentication error => .authentication error
  | raised => .unhandled raised

/-- And the executor. -/
def RouteExc.ofExecutor : Exc → RouteExc
  | .app error => .app error
  | .other className => .unhandled (.other className)
  | .driver _ => .unhandled (.other "SQLAlchemyError")
  | .persistence _ => .unhandled (.other "PersistenceError")
  | .validation _ => .unhandled (.other "ValidationError")
  | .uowNotInitialized _ => .unhandled (.other "UoWNotInitializedError")

def meOut (user : User) : MeOut where
  publicId := user.publicId.value
  email := user.email
  username := user.username
  firstName := user.firstName
  lastName := user.lastName
  lastLoginAt := user.lastLoginAt

/-- What a route makes of the result of its use case. -/
def routeResponse : JobResult → Response
  | .organization publicId => { statusCode := 201, headers := [], body := .publicId publicId.value }
  | .user user created => { statusCode := if created then 201 else 200, headers := [], body := .me (meOut user) }

namespace App

variable (a : App K) (i : Nat)

/-- The job of a request, on what its lookup ended in. -/
def accept (outcome : Except PyExc (PyJWK K)) : Except RouteExc Job := do
  let principal ← (getCurrentPrincipal a.verifier a.jwt (fun _ => outcome) (a.requests i).credentials).mapError
    .ofDependency
  (a.requests i).route.job a.framework a.unicode (a.requests i).uuidGen principal

def requestId : String :=
  parseRequestId a.decimal (a.requests i).headerRequestId (a.requests i).freshRequestId

def respond (outcome : Except RouteExc Response) : Except PyExc Response :=
  Api.respond a.framework (ofString a.issuerUrl) (a.requests i).route.path (a.requests i).headerRequestId
    (a.requestId i) outcome

/-- The answer to a request whose transaction has ended, none when it was cancelled. -/
def answer : Except Exc JobResult → Option Response
  | .ok result => (a.respond i (.ok (routeResponse result))).toOption
  | .error raised =>
    if raised.isException then (a.respond i (.error (.ofExecutor raised))).toOption else none

end App

/-! ### Its state -/

inductive Phase where
  | arrived
  | verifying (kid : String)
  | refused (raised : RouteExc) (response : Option Response)
  | running (job : Job) (program : Program DbOp DbOp.Ret (Except Exc JobResult))
  | finished (job : Job) (outcome : Except Exc JobResult) (response : Option Response)
  /-- Cancelled in its lookup. -/
  | dropped

def Phase.job? : Phase → Option Job
  | .running job _ | .finished job _ _ => some job
  | _ => none

def Phase.response? : Phase → Option Response
  | .refused _ response | .finished _ _ response => response
  | _ => none

structure Service (K : Type) where
  keys : System K
  store : Database
  phases : Nat → Phase

def Service.setPhase (s : Service K) (i : Nat) (phase : Phase) : Service K :=
  { s with phases := Function.update s.phases i phase }

/-- Task 0 of the provider is `start`, task `i + 1` the lookup of request `i`. -/
structure Booted (a : App K) (keys : System K) : Prop where
  reached : Auth.Reachable a.provider a.fromDict keys
  started : keys.tasks 0 = .started (.ok ())
  idle : ∀ i, keys.tasks (i + 1) = .idle

def Service.initial (keys : System K) : Service K := ⟨keys, .empty, fun _ => .arrived⟩

/-- Lookups are made by the requests that need them, and of the kid they need. -/
structure MakesLookups (s : Service K) (keys : System K) : Prop where
  start : keys.tasks 0 = s.keys.tasks 0
  lookups : ∀ i, s.keys.tasks (i + 1) = .idle → keys.tasks (i + 1) ≠ .idle →
    ∃ kid, s.phases i = .verifying kid ∧ (keys.tasks (i + 1)).kid? = some kid

namespace Service

variable (a : App K)

inductive Step : Service K → Service K → Prop where
  /-- A body that is no JSON is reported before anything else is looked at. -/
  | unreadable {s : Service K} {i : Nat} {errors : List RawError} (arrived : s.phases i = .arrived)
      (route : (a.requests i).route = .createOrganization (.error errors)) :
      Step s (s.setPhase i (.refused (.validation errors) (a.respond i (.error (.validation errors))).toOption))
  | refuse {s : Service K} {i : Nat} {raised : RouteExc} (arrived : s.phases i = .arrived)
      (sought : soughtKid a.verifier a.jwt (a.requests i).credentials = none)
      (refused : ∀ outcome, a.accept i outcome = .error raised) :
      Step s (s.setPhase i (.refused raised (a.respond i (.error raised)).toOption))
  | lookup {s : Service K} {i : Nat} {kid : String} (arrived : s.phases i = .arrived)
      (sought : soughtKid a.verifier a.jwt (a.requests i).credentials = some kid) :
      Step s (s.setPhase i (.verifying kid))
  | keys {s : Service K} {keys : System K} (moved : Auth.Step a.provider a.fromDict s.keys keys)
      (calls : MakesLookups s keys) : Step s { s with keys := keys }
  | accept {s : Service K} {i : Nat} {kid : String} {outcome : Except PyExc (PyJWK K)} {job : Job}
      (verifying : s.phases i = .verifying kid) (done : s.keys.tasks (i + 1) = .done kid outcome)
      (admitted : a.accept i outcome = .ok job) :
      Step s (s.setPhase i (.running job (job.task a.unicode a.autoflush)))
  | reject {s : Service K} {i : Nat} {kid : String} {outcome : Except PyExc (PyJWK K)} {raised : RouteExc}
      (verifying : s.phases i = .verifying kid) (done : s.keys.tasks (i + 1) = .done kid outcome)
      (refused : a.accept i outcome = .error raised) :
      Step s (s.setPhase i (.refused raised (a.respond i (.error raised)).toOption))
  | drop {s : Service K} {i : Nat} {kid : String} (verifying : s.phases i = .verifying kid)
      (cancelled : s.keys.tasks (i + 1) = .cancelled) : Step s (s.setPhase i .dropped)
  | call {s : Service K} {i : Nat} {job : Job} {op : DbOp}
      {next : op.Ret → Program DbOp DbOp.Ret (Except Exc JobResult)} {answer : op.Ret} {after : Database}
      (running : s.phases i = .running job (.call op next))
      (called : a.server.step i op s.store answer after) :
      Step s { s.setPhase i (.running job (next answer)) with store := after }
  | finish {s : Service K} {i : Nat} {job : Job} {outcome : Except Exc JobResult}
      (running : s.phases i = .running job (.done outcome)) :
      Step s (s.setPhase i (.finished job outcome (a.answer i outcome)))

inductive Reachable : Service K → Prop where
  | initial {keys : System K} (booted : Booted a keys) : Reachable (Service.initial keys)
  | step {s t : Service K} (reached : Reachable s) (moved : Step a s t) : Reachable t

end Service

end PetBackend.Api
