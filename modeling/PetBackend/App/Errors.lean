import PetBackend.PyObject

/-!
# Application errors

`app/errors.py`, `app/error_mappers.py` and `domain/exc.py`.
-/

namespace PetBackend

inductive AppErrorCode where
  | conflict
  | internalError
  | organizationNameTaken
  | serviceUnavailable
  | validation
  | notFound
  deriving DecidableEq

def AppErrorCode.value : AppErrorCode → String
  | .conflict => "conflict"
  | .internalError => "internal_error"
  | .organizationNameTaken => "organization_name_taken"
  | .serviceUnavailable => "service_unavailable"
  | .validation => "validation_error"
  | .notFound => "not_found"

def validationErrorTitle : String := "Validation Error"

/-- `dict[str, Any]`. -/
abbrev Extra := List (String × PyObject)

structure AppError where
  title : String
  code : AppErrorCode
  detail : Option String := none
  extra : Extra := []

/-- Domain validation failures, `NameValidationError` among them. -/
structure ValidationError where
  message : String
  cause : Option String := none
  deriving DecidableEq

def conflict (extra : Extra) (detail : String := "Resource already exists") : AppError :=
  ⟨"Conflict", .conflict, detail, extra⟩

def organizationNameTaken (extra : Extra)
    (detail : String := "Organization name is already taken") : AppError :=
  ⟨"Conflict", .organizationNameTaken, detail, extra⟩

def notFound (detail : String := "Resource not found") (extra : Extra := []) : AppError :=
  ⟨"Not Found", .notFound, detail, extra⟩

def internalError (extra : Extra) (detail : String := "Unexpected error") : AppError :=
  ⟨"Internal Server Error", .internalError, detail, extra⟩

def serviceUnavailable (extra : Extra) (detail : String := "Temporary service outage") : AppError :=
  ⟨"Service Unavailable", .serviceUnavailable, detail, extra⟩

def unprocessableEntity (extra : Extra) (detail : String := "Unprocessable Entity") : AppError :=
  ⟨"Unprocessable Entity", .validation, detail, extra⟩

def translateDomainValidationError (e : ValidationError) : AppError :=
  unprocessableEntity [("retryable", .bool false), ("cause", .ofOption e.cause)] e.message

end PetBackend
