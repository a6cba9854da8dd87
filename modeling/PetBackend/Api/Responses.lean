import PetBackend.Api.Challenges
import PetBackend.Api.InvalidRequests
import PetBackend.Auth.Verifier
import PetBackend.Persistence.Errors

/-!
# Responses

The exception handlers of `api/exception_handlers.py`, which Starlette finds by the class of what was
raised, and the catch-all of `api/middleware/http_logging.py` around them. Log calls are left out.
-/

namespace PetBackend.Api
open Auth Persistence Outcome

def getHttpStatusForError : AppErrorCode → Nat
  | .conflict | .organizationNameTaken => 409
  | .notFound => 404
  | .validation => 422
  | .serviceUnavailable => 503
  | .internalError => 500

/-- Starlette's own, with the header values of its own. -/
structure HTTPException where
  statusCode : Nat
  detail : String
  headers : Option (List (String × String)) := none

/-- What a route raises, by the class that a handler is registered for. -/
inductive RouteExc where
  | app (error : AppError)
  | http (error : HTTPException)
  | validation (errors : List RawError)
  | authentication (error : AuthenticationError)
  | authorization (error : AuthorizationError)
  | unhandled (raised : PyExc)

/-- `MeOut`. -/
structure MeOut where
  publicId : UUID
  email : String
  username : String
  firstName : Option String
  lastName : Option String
  lastLoginAt : DateTime
  deriving DecidableEq

inductive Body where
  | publicId (publicId : UUID)
  | me (user : MeOut)
  | problem (content : List (PyText × PyJson))

structure Response where
  statusCode : Nat
  headers : List (String × String)
  body : Body

/-- Header names are the same whatever their case. -/
def headerKey (name : String) : List Char := name.toList.map Char.toLower

/-- `response.headers[name] = value`, up to the order of the headers. -/
def Response.setHeader (response : Response) (name value : String) : Response :=
  { response with
    headers := response.headers.filter (fun header => headerKey header.1 ≠ headerKey name) ++ [(name, value)] }

def JSONResponse.toResponse (response : JSONResponse) : Response where
  statusCode := response.statusCode
  headers := response.headers.getD []
  body := .problem response.content

/-- `value.encode("latin-1")`, as Starlette does with every header value. -/
def encodeLatin1 (value : PyText) : Except PyExc String :=
  if value.all (fun c => c.val < 256) then .ok (String.ofList (value.map fun c => Char.ofNat c.val))
  else .error (.other "UnicodeEncodeError")

section
variable (framework : Framework) (r : Request)

def appErrorHandler (error : AppError) : Except PyExc JSONResponse :=
  problem framework {
    title := error.title
    status := getHttpStatusForError error.code
    detail := error.detail.map ofString
    instancePath := r.path
    code := error.code.value
    requestId := requestId r }

def httpErrorHandler (error : HTTPException) : Except PyExc JSONResponse := do
  let headers ← (error.headers.getD []).mapM fun header => do
    return (header.1, ← encodeLatin1 (ofString header.2))
  problem framework {
    title := "HTTPException"
    status := error.statusCode
    detail := ofString error.detail
    instancePath := r.path
    code := "http_error"
    requestId := requestId r
    headers := headers }

def onAuthn (issuerUrl : PyText) (error : AuthenticationError) : Except PyExc JSONResponse := do
  let challenge ← encodeLatin1 (wwwAuthenticateHeader (authError error) issuerUrl)
  problem framework {
    status := 401
    title := "Unauthorized"
    detail := ofString error.description
    code := error.errorCode
    instancePath := r.path
    requestId := requestId r
    headers := some [("WWW-Authenticate", challenge)] }

def onAuthz (error : AuthorizationError) : Except PyExc JSONResponse :=
  problem framework {
    status := 403
    title := "Forbidden"
    detail := ofString error.description
    code := error.errorCode
    instancePath := r.path
    requestId := requestId r }

/-- The handler registered for the class. The one for `Exception` is not found here: it belongs to the
server's outermost middleware. -/
def handle (issuerUrl : PyText) : RouteExc → Except PyExc JSONResponse
  | .app error => appErrorHandler framework r error
  | .http error => httpErrorHandler framework r error
  | .validation errors => validationErrorHandler framework r errors
  | .authentication error => onAuthn framework r issuerUrl error
  | .authorization error => onAuthz framework r error
  | .unhandled raised => .error raised

/-- The response to an exception nobody handled, from the middleware as from the handler for `Exception`. -/
def unexpectedError (path : String) (requestId : Option String) : Problem where
  status := 500
  title := "Internal Server Error"
  detail := ofString "Unexpected error"
  code := "internal_error"
  instancePath := path
  requestId := requestId

/-- `logging_middleware`, on what `call_next` returns or raises. -/
def loggingMiddleware (path requestId : String) : Except PyExc Response → Except PyExc Response
  | .ok response => .ok (response.setHeader "X-Request-ID" requestId)
  | .error _ => do
    let response ← problem framework (unexpectedError path requestId)
    return response.toResponse.setHeader "X-Request-ID" requestId

def unhandledErrorHandler : Except PyExc JSONResponse :=
  problem framework (unexpectedError r.path (requestId r))

/-- From what a route returns or raises to what is sent. -/
def respond (issuerUrl : PyText) (path : String) (headerRequestId : Option String) (requestId : String)
    (outcome : Except RouteExc Response) : Except PyExc Response :=
  let r : Request := { path := path, stateRequestId := requestId, headerRequestId := headerRequestId }
  match loggingMiddleware framework path requestId (match outcome with
    | .ok response => .ok response
    | .error raised => JSONResponse.toResponse <$> handle framework r issuerUrl raised) with
  | .ok response => .ok response
  | .error _ => JSONResponse.toResponse <$> unhandledErrorHandler framework r

end

end PetBackend.Api
