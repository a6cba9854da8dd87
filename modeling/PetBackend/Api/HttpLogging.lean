import PetBackend.Api.Service
import PetBackend.Config.Contextvars

/-!
# Requests and their log

`api/middleware/http_logging.py`, and the code behind it with its log calls: the principal of `api/auth.py`, the
executor, and the exception handlers. Requests share the log, and each runs in a context of its own, which
structlog's context variables live in. What the code waits for is an interface, as are its answers.
-/

namespace PetBackend.Api
open Library Auth Persistence Postgres
open Config (EventDict Value LogCall bindContextvars unbindContextvars)

/-- What a logger is called with. -/
structure Record where
  loggerName : String
  level : String
  event : EventDict
  /-- From structlog, or from a plain `logging` call of a library. -/
  fromStructlog : Bool := true

/-- What a request does besides computing. -/
inductive WebOp (Out : Type) where
  | clearContextvars
  | bindContextvars (fields : List (String × Value))
  | unbindContextvars (keys : List String)
  | getContextvars
  /-- `call_next` runs the rest of the application in a task of its own, on a copy of the context. -/
  | startTask
  | endTask
  | log (record : Record)
  /-- The repr of a duration in milliseconds. -/
  | durationMs
  | outside (op : Out)

def WebOp.Ret {Out : Type} (R : Out → Type) : WebOp Out → Type
  | .getContextvars => EventDict
  | .durationMs => String
  | .outside op => R op
  | _ => Unit

abbrev WebProgram (Out : Type) (R : Out → Type) (α : Type) : Type := Program (WebOp Out) (WebOp.Ret R) α

/-- The context of the running task, and those of the tasks that wait for it. -/
structure Contexts where
  current : EventDict
  waiting : List EventDict := []

structure Traffic where
  contexts : Nat → Contexts
  lines : List (Nat × LogCall) := []

section
variable {Out : Type} {R : Out → Type}

def Contexts.after (contexts : Contexts) : WebOp Out → Contexts
  | .clearContextvars => { contexts with current := [] }
  | .bindContextvars fields => { contexts with current := Config.bindContextvars fields contexts.current }
  | .unbindContextvars keys => { contexts with current := Config.unbindContextvars keys contexts.current }
  | .startTask => { contexts with waiting := contexts.current :: contexts.waiting }
  | .endTask => ⟨contexts.waiting.headD contexts.current, contexts.waiting.tail⟩
  | _ => contexts

/-- A call is made of the record in its context. The rest is up to the logger and the clock. -/
structure Record.Calls (record : Record) (context : EventDict) (call : LogCall) : Prop where
  event : call.event = record.event
  contextvars : call.contextvars = context
  loggerName : call.loggerName = record.loggerName
  level : call.level = record.level
  fromStructlog : call.fromStructlog = record.fromStructlog

inductive Traffic.Step (i : Nat) : (op : WebOp Out) → Traffic → op.Ret R → Traffic → Prop where
  | log {s : Traffic} {record : Record} {call : LogCall} (called : record.Calls (s.contexts i).current call) :
      Step i (.log record) s () { s with lines := s.lines ++ [(i, call)] }
  | getContextvars {s : Traffic} : Step i .getContextvars s (s.contexts i).current s
  | other {s : Traffic} {op : WebOp Out} (answer : op.Ret R) (silent : ∀ record, op ≠ .log record)
      (blind : op ≠ .getContextvars) :
      Step i op s answer { s with contexts := Function.update s.contexts i ((s.contexts i).after op) }

namespace WebProgram

def clearContextvars : WebProgram Out R Unit := Program.lift WebOp.clearContextvars

def bindContextvars (fields : List (String × Value)) : WebProgram Out R Unit :=
  Program.lift (WebOp.bindContextvars fields)

/-- `with bound_contextvars(**fields)`. What the body raises is its value here. -/
def boundContextvars {α : Type} (fields : List (String × Value)) (body : WebProgram Out R α) : WebProgram Out R α := do
  let context : EventDict ← Program.lift WebOp.getContextvars
  let saved := fields.filterMap fun field => (EventDict.get? field.1 context).map (field.1, ·)
  bindContextvars fields
  let value ← body
  let _ : Unit ← Program.lift (WebOp.unbindContextvars (fields.map Prod.fst))
  bindContextvars saved
  return value

def startTask : WebProgram Out R Unit := Program.lift WebOp.startTask

def endTask : WebProgram Out R Unit := Program.lift WebOp.endTask

def durationMs : WebProgram Out R String := Program.lift WebOp.durationMs

def log (loggerName level event : String) (fields : List (String × Value) := []) : WebProgram Out R Unit :=
  Program.lift (WebOp.log {
    loggerName := loggerName
    level := level
    event := fields.map (fun field => (.str field.1, field.2)) ++ [(.str "event", .str event)] })

def debug (loggerName event : String) : WebProgram Out R Unit := log loggerName "debug" event

def info (loggerName event : String) (fields : List (String × Value) := []) : WebProgram Out R Unit :=
  log loggerName "info" event fields

/-- `logger.exception`. -/
def exception (loggerName event : String) (fields : List (String × Value) := []) : WebProgram Out R Unit :=
  log loggerName "error" event (fields ++ [("exc_info", .bool true)])

end WebProgram

open WebProgram

def natValue (n : Nat) : Value := .leaf (toString n)

/-! ### `app/transaction_executor.py` -/

def PersistenceErrorKind.value : PersistenceErrorKind → String
  | .unique => "unique_violation"
  | .fk => "fk_violation"
  | .notNull => "not_null_violation"
  | .check => "check_violation"
  | .operational => "operational"
  | .unknown => "unknown"
  | .otherIntegrity => "other_integrity"
  | .transient => "transient"

def textValue : Option String → Value
  | none => .none
  | some text => .str text

def objectValue : PyObject → Value
  | .none => .none
  | .bool value => .bool value
  | .str text => .str text
  | _ => .leaf "<object>"

def executorLogger : String := "pet.app.transaction_executor"

def executorLog : RunLog (WebProgram Out R) where
  started := debug executorLogger "transaction_started"
  committed := do
    let duration ← durationMs
    info executorLogger "transaction_committed" [("duration_ms", .leaf duration)]
  failed
    | .persistence e => do
      let duration ← durationMs
      info executorLogger "transaction_db_error" [("duration_ms", .leaf duration),
        ("persistence_error_kind", .str (PersistenceErrorKind.value e.kind)), ("sqlstate", objectValue e.sqlstate),
        ("constraint_name", textValue e.constraintName), ("retryable", .bool e.retryable)]
    | .validation e => do
      let duration ← durationMs
      info executorLogger "transaction_validation_failed" [("duration_ms", .leaf duration),
        ("validation_cause", textValue e.cause)]
    | _ => return ()

/-! ### `api/auth.py` -/

/-- None is what a cancelled call leaves. -/
def loggedPrincipal (verify : String → WebProgram Out R (Option (Except PyExc Principal))) :
    Option String → WebProgram Out R (Option (Except PyExc Principal))
  | none => return some (.error (.authentication .missingToken))
  | some credentials => do
    match ← verify credentials with
    | some (.ok principal) =>
      bindContextvars [("user_subject", .str principal.subject)]
      return some (.ok principal)
    | some (.error (.authentication raised)) => return some (.error (.authentication raised))
    | some (.error _) => return some (.error (invalidToken "Token verification failed"))
    | none => return none

/-- Besides binding the subject it is the dependency without its log. -/
theorem loggedPrincipal_eq {K : Type} (v : KeycloakVerifier) (jwt : Jwt K)
    (getSigningKey : String → Except PyExc (PyJWK K)) (credentials : Option String) :
    (loggedPrincipal (fun token => return some (Auth.verify v jwt getSigningKey token)) credentials : WebProgram Out R _) =
      match getCurrentPrincipal v jwt getSigningKey credentials with
      | .ok principal => do
        bindContextvars [("user_subject", .str principal.subject)]
        return some (.ok principal)
      | .error raised => return some (.error raised) := by
  cases credentials with
  | none => rfl
  | some token =>
    simp only [loggedPrincipal, getCurrentPrincipal, pure_bind]
    rcases Auth.verify v jwt getSigningKey token with (_ | _) | _ <;> rfl

/-! ### `api/exception_handlers.py` -/

def handlersLogger : String := "pet.api.exception_handlers"

def errorClass : AuthenticationError → String
  | .missingToken => "MissingToken"
  | .invalidToken _ => "InvalidToken"
  | .tokenVerificationUnavailable => "TokenVerificationUnavailable"

/-- `log = logger.exception if status_code >= 500 else logger.info`. -/
def logRendered (statusCode : Nat) (event : String) (fields : List (String × Value)) : WebProgram Out R Unit :=
  if 500 ≤ statusCode then exception handlersLogger event fields else info handlersLogger event fields

/-- What the handler of an exception logs before it answers. -/
def handlerLog (framework : Framework) (path : String) : RouteExc → WebProgram Out R Unit
  | .app error =>
    let statusCode := getHttpStatusForError error.code
    logRendered statusCode "app_error_rendered"
      [("error_code", .str error.code.value), ("status_code", natValue statusCode)]
  | .http error =>
    if path ∈ ["/readyz", "/healthz"] then return ()
    else logRendered error.statusCode "http_exception_rendered" [("status_code", natValue error.statusCode)]
  | .validation errors =>
    match validationDetail framework (jsonableValidationErrors framework errors) with
    | .error _ => return ()
    | .ok _ => info handlersLogger "request_validation_failed"
      [("status_code", natValue 422), ("errors_count", natValue errors.length)]
  | .authentication error => info handlersLogger "authentication_failed"
    [("error_code", .str error.errorCode), ("error_class", .str (errorClass error)),
      ("error_description", .str error.description)]
  | .authorization error => info handlersLogger "authorization_failed"
    [("error_code", .str error.errorCode), ("error_class", .str "InsufficientPermissions"),
      ("error_description", .str error.description)]
  | .unhandled _ => return ()

/-! ### `api/middleware/http_logging.py` -/

def middlewareLogger : String := "pet.api.middleware.http_logging"

def skipLogPaths : List String := ["/healthz", "/readyz"]

/-- What the middleware binds. -/
structure Identity where
  requestId : String
  method : String
  path : String

def Identity.fields (identity : Identity) : List (String × Value) :=
  [("request_id", .str identity.requestId), ("http_method", .str identity.method), ("http_path", .str identity.path)]

def logStarted (path : String) : WebProgram Out R Unit :=
  if path ∈ skipLogPaths then return () else info middlewareLogger "http_request_started"

def logFinished (path : String) (statusCode : Nat) : WebProgram Out R Unit :=
  if path ∈ skipLogPaths then return ()
  else do
    let duration ← durationMs
    info middlewareLogger "http_request_finished" [("status_code", natValue statusCode), ("duration_ms", .leaf duration)]

/-- What the middleware makes of what `call_next` comes to. -/
def loggedAnswer (framework : Framework) (identity : Identity) :
    Option (Except PyExc Response) → WebProgram Out R (Option (Except PyExc Response))
  | none => return none
  | some (.ok response) => do
    let response := response.setHeader "X-Request-ID" identity.requestId
    logFinished identity.path response.statusCode
    return some (.ok response)
  | some (.error _) => do
    exception middlewareLogger "unhandled_exception"
    match problem framework (unexpectedError identity.path identity.requestId) with
    | .error raised => return some (.error raised)
    | .ok response =>
      let response := response.toResponse.setHeader "X-Request-ID" identity.requestId
      logFinished identity.path 500
      return some (.ok response)

def loggedMiddleware (framework : Framework) (identity : Identity)
    (callNext : WebProgram Out R (Option (Except PyExc Response))) :
    WebProgram Out R (Option (Except PyExc Response)) := do
  clearContextvars
  bindContextvars identity.fields
  logStarted identity.path
  startTask
  let outcome ← callNext
  endTask
  let sent ← loggedAnswer framework identity outcome
  clearContextvars
  return sent

/-! ### Requests -/

inductive Endpoint (Out : Type) (R : Out → Type) where
  | route (route : Route) (uuidGen : Nat → UUID)
  /-- The health checks, and what Starlette has for paths without a route. -/
  | other (code : WebProgram Out R (Option (Except RouteExc Response)))

structure Arrival (Out : Type) (R : Out → Type) where
  method : String
  path : String
  headerRequestId : Option String := none
  /-- What `uuid4()` returns to the middleware. -/
  freshRequestId : UUID
  credentials : Option String := none
  endpoint : Endpoint Out R

/-- What the requests run on, and the requests. -/
structure Site (Out : Type) (R : Out → Type) where
  framework : Framework
  unicode : UnicodeData
  decimal : Char → Option Nat
  issuerUrl : String
  verify : String → WebProgram Out R (Option (Except PyExc Principal))
  session : SessionApi (WebProgram Out R)
  requests : Nat → Arrival Out R

/-- The name of its use case. -/
def handlerName : Job → String
  | .createOrganization _ _ => "create_organization_cmd"
  | .provisionUser _ _ => "provision_user_from_claims"

namespace Site

variable (a : Site Out R) (i : Nat)

def identity : Identity where
  requestId := parseRequestId a.decimal (a.requests i).headerRequestId (a.requests i).freshRequestId
  method := (a.requests i).method
  path := (a.requests i).path

def request : Request where
  path := (a.requests i).path
  stateRequestId := (a.identity i).requestId
  headerRequestId := (a.requests i).headerRequestId

def runJob (job : Job) : WebProgram Out R (Option (Except RouteExc Response)) := do
  match ← boundContextvars [("use_case_handler", .str (handlerName job))]
      (loggedRun a.session executorLog (job.handler a.unicode)) with
  | .ok result => return some (.ok (routeResponse result))
  | .error raised => return if raised.isException then some (.error (.ofExecutor raised)) else none

def runRoute (route : Route) (uuidGen : Nat → UUID) (credentials : Option String) :
    WebProgram Out R (Option (Except RouteExc Response)) :=
  match route with
  -- FastAPI reads the body before it turns to the dependencies
  | .createOrganization (.error errors) => return some (.error (.validation errors))
  | route => do
    match ← loggedPrincipal a.verify credentials with
    | none => return none
    | some (.error raised) => return some (.error (.ofDependency raised))
    | some (.ok principal) =>
      match route.job a.framework a.unicode uuidGen principal with
      | .error raised => return some (.error raised)
      | .ok job => a.runJob job

def runEndpoint : WebProgram Out R (Option (Except RouteExc Response)) :=
  match (a.requests i).endpoint with
  | .route route uuidGen => a.runRoute route uuidGen (a.requests i).credentials
  | .other code => code

/-- Starlette's exception middleware is the innermost. -/
def callNext : WebProgram Out R (Option (Except PyExc Response)) := do
  match ← a.runEndpoint i with
  | none => return none
  | some (.ok response) => return some (.ok response)
  | some (.error raised) =>
    handlerLog a.framework (a.requests i).path raised
    return some (JSONResponse.toResponse <$> handle a.framework (a.request i) (ofString a.issuerUrl) raised)

/-- And the handler for `Exception` is called by the outermost. -/
def serve : WebProgram Out R (Option (Except PyExc Response)) := do
  match ← loggedMiddleware a.framework (a.identity i) (a.callNext i) with
  | some (.error _) =>
    exception handlersLogger "unhandled_exception"
    return some (JSONResponse.toResponse <$> unhandledErrorHandler a.framework (a.request i))
  | sent => return sent

/-- All requests, each in whatever context the server starts its task. -/
def initial (contexts : Nat → EventDict) :
    Running (WebOp Out) (WebOp.Ret R) Traffic (Option (Except PyExc Response)) :=
  ⟨{ contexts := fun i => { current := contexts i } }, a.serve⟩

def Reachable (contexts : Nat → EventDict)
    (state : Running (WebOp Out) (WebOp.Ret R) Traffic (Option (Except PyExc Response))) : Prop :=
  Running.Reachable (fun i op => Traffic.Step i op) (a.initial contexts) state

end Site

end

/-- How `create_app` configures logging. -/
def createAppLogging (logLevel : String) (logFormat : Config.LogFormat) (appName : String) : Config.LoggingArgs where
  level := logLevel
  logFormat := logFormat
  staticFields := some [(.str "app_name", .str appName)]

end PetBackend.Api
