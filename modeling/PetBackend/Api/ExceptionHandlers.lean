import PetBackend.Api.PyJson
import PetBackend.App.Errors
import PetBackend.Domain.Models

/-!
# The validation error handler

From `api/exception_handlers.py`, and `CreateOrgDtoIn` of `api/routers/organizations.py`. FastAPI,
pydantic and Starlette are a parameter. Log calls are left out.
-/

namespace PetBackend.Api
open Auth

section
variable {E F : Type} (f : E → PyValue F)

mutual

/-- Objects are replaced, JSON stays. -/
def PyValue.replace : PyValue E → PyValue F
  | .null => .null
  | .bool value => .bool value
  | .int value => .int value
  | .float value => .float value
  | .str text => .str text
  | .list items => .list (replaceItems items)
  | .dict entries => .dict (replaceEntries entries)
  | .object value => f value

def replaceItems : List (PyValue E) → List (PyValue F)
  | [] => []
  | item :: rest => PyValue.replace item :: replaceItems rest

def replaceEntries : List (PyText × PyValue E) → List (PyText × PyValue F)
  | [] => []
  | (key, value) :: rest => (key, PyValue.replace value) :: replaceEntries rest

end

end

def PyValue.ofJson {E : Type} (value : PyJson) : PyValue E := value.replace nofun

/-- `value.get(name, default)`. -/
def PyValue.getD {E : Type} (value : PyValue E) (name : String) (default : PyValue E) :
    Except PyExc (PyValue E) :=
  match value with
  | .dict entries => .ok ((entries.lookup (ofString name)).getD default)
  | _ => .error (.other "AttributeError")

/-- What `validation_error.errors()` lists, exceptions in the context included. -/
abbrev RawError := PyValue ValidationError

structure Request where
  path : String
  stateRequestId : Option String := none
  headerRequestId : Option String := none

def requestId (r : Request) : Option String :=
  match r.stateRequestId with
  | none | some "" => r.headerRequestId
  | some id => some id

/-- What the handler calls. `validateBody` is the validation of a body against a model with one strict
string field and its validator. `str` is that of values that are not strings. -/
structure Framework where
  validateBody : String → (String → Except ValidationError String) → PyJson →
    Except (List RawError) String
  jsonableEncoder : (ValidationError → PyText) → RawError → PyJson
  render : PyJson → Except PyExc String
  str : PyJson → PyText

def problemMediaType : String := "application/problem+json"

structure JSONResponse where
  statusCode : Nat
  mediaType : String
  headers : Option (List (String × String))
  content : List (PyText × PyJson)
  body : String

/-- The arguments of `problem`. -/
structure Problem where
  title : String
  status : Nat
  type : String := "about:blank"
  detail : Option PyText := none
  instancePath : Option String := none
  code : Option String := none
  errors : Option PyJson := none
  requestId : Option String := none
  headers : Option (List (String × String)) := none

def text (value : String) : PyJson := .str (ofString value)

def Problem.payload (p : Problem) : List (PyText × PyJson) :=
  [(ofString "type", text p.type), (ofString "title", text p.title), (ofString "status", .int p.status)] ++
    (p.detail.map fun detail => (ofString "detail", .str detail)).toList ++
    (p.instancePath.map fun path => (ofString "instance", text path)).toList ++
    (p.code.map fun code => (ofString "code", text code)).toList ++
    (p.errors.map fun errors => (ofString "errors", errors)).toList ++
    (p.requestId.map fun id => (ofString "request_id", text id)).toList

section
variable (framework : Framework)

def problem (p : Problem) : Except PyExc JSONResponse := do
  let body ← framework.render (.dict p.payload)
  return {
    statusCode := p.status
    mediaType := problemMediaType
    headers := p.headers
    content := p.payload
    body := body }

/-- `custom_encoder={Exception: str}`. -/
def jsonableValidationErrors (errors : List RawError) : PyJson :=
  framework.jsonableEncoder (fun raised => ofString raised.message) (.list errors)

def strOf : PyJson → PyText
  | .str text => text
  | value => framework.str value

/-- The message of the only error's exception, if it has one. -/
def validationDetail (errors : PyJson) : Except PyExc PyText :=
  match errors with
  | .list [error] => do
    let ctx ← error.getD "ctx" (.dict [])
    let originalError ← ctx.getD "error" .null
    match originalError with
    | .null => return ofString "Request validation failed"
    | value => return strOf framework value
  | _ => return ofString "Request validation failed"

def validationErrorHandler (request : Request) (errors : List RawError) : Except PyExc JSONResponse := do
  let errors := jsonableValidationErrors framework errors
  let detail ← validationDetail framework errors
  problem framework {
    status := 422
    title := validationErrorTitle
    detail := detail
    code := some AppErrorCode.validation.value
    errors := errors
    instancePath := request.path
    requestId := requestId request }

/-- Validation of the body against `CreateOrgDtoIn`. -/
def createOrgDtoIn (u : UnicodeData) (body : PyJson) : Except (List RawError) String :=
  framework.validateBody "name" (validateOrgName u) body

end

end PetBackend.Api
