import PetBackend.App.Errors

/-!
# Database errors

`infra/sqla/db/exc.py`: what SQLAlchemy and the operating system raise, the `PersistenceError` made
of it, and its translation for the application.
-/

namespace PetBackend.Persistence

/-- The classes that `determine_exc` tells apart, each the most specific that applies. -/
inductive DriverErrorClass where
  | integrityError
  | operationalError
  | interfaceError
  | timeoutError
  | disconnectionError
  | invalidatePoolError
  | dbapiError
  | sqlalchemyError
  | osError
  deriving DecidableEq

/-- A member of `DB_OPERATION_ERRORS`. -/
structure DriverError where
  errorClass : DriverErrorClass
  connectionInvalidated : Bool := false
  orig : PyObject := .none
  text : String := ""

def DriverError.isDbapiError (e : DriverError) : Bool :=
  match e.errorClass with
  | .integrityError | .operationalError | .interfaceError | .dbapiError => true
  | _ => false

inductive PersistenceErrorKind where
  | unique
  | fk
  | notNull
  | check
  | operational
  | unknown
  | otherIntegrity
  | transient
  deriving DecidableEq

structure PersistenceError where
  kind : PersistenceErrorKind
  title : String := "Database error"
  statusCode : Nat := 503
  sqlstate : PyObject := .none
  constraintName : Option String := none
  tableName : Option String := none
  columnName : Option String := none
  retryable : Bool := false
  cause : Option DriverError := none
  detail : Option String := none

def pgErrorCandidates (err : DriverError) : List PyObject :=
  let origCause := err.orig.getattr "__cause__"
  let origContext := err.orig.getattr "__context__"
  [err.orig, err.orig.getattr "diag", origCause, origCause.getattr "diag", origContext,
    origContext.getattr "diag"].filter (fun candidate => !candidate.isNone)

def readPgStrAttr (err : DriverError) (attrName : String) : Option String :=
  (pgErrorCandidates err).findSome? (fun candidate => (candidate.getattr attrName).str?)

/-- `pg_sqlstate_from_integrity` and `pg_sqlstate_from_dbapi`, which are the same. -/
def pgSqlstate (err : DriverError) : PyObject :=
  (err.orig.getattr "sqlstate").or (err.orig.getattr "pgcode")

/-- `kind_map.get(sqlstate, UNKNOWN)`, and `UNKNOWN` without a state. -/
def integrityKind : PyObject → PersistenceErrorKind
  | .str "23505" => .unique
  | .str "23503" => .fk
  | .str "23502" => .notNull
  | .str "23514" => .check
  | _ => .unknown

def determineExc (e : DriverError) : PersistenceError :=
  match e.errorClass with
  | .integrityError => {
      kind := integrityKind (pgSqlstate e)
      title := "db_integrity"
      sqlstate := pgSqlstate e
      constraintName := readPgStrAttr e "constraint_name"
      tableName := readPgStrAttr e "table_name"
      columnName := readPgStrAttr e "column_name"
      cause := some e }
  | .operationalError => {
      kind := .operational, title := "db_unavailable", sqlstate := pgSqlstate e
      retryable := true, cause := some e }
  | .interfaceError | .timeoutError | .disconnectionError | .invalidatePoolError => {
      kind := .transient, title := "db_transient", sqlstate := pgSqlstate e
      retryable := true, cause := some e }
  | _ =>
    if e.isDbapiError && e.connectionInvalidated then {
      kind := .transient, title := "db_connection_invalidated", sqlstate := pgSqlstate e
      retryable := true, cause := some e }
    else if e.errorClass = .osError then {
      kind := .operational, title := "db_unavailable", retryable := true, cause := some e }
    else { kind := .unknown, title := "db_error", cause := some e }

def translateDbError (error : PersistenceError) : AppError :=
  let extra : Extra := [
    ("retryable", .bool error.retryable),
    ("cause", .ofOption (error.cause.map DriverError.text)),
    ("constraint_name", .ofOption error.constraintName),
    ("table_name", .ofOption error.tableName),
    ("column_name", .ofOption error.columnName)]
  match error.kind with
  | .unique =>
    if error.constraintName = some "uq_organizations_name_canonical" then organizationNameTaken extra
    else conflict extra "Resource already exists"
  | .fk => unprocessableEntity extra "Referenced resource does not exist"
  | .check => unprocessableEntity extra "Stored value violates validation rules"
  | .notNull =>
    let fieldName := match error.columnName with
      | none | some "" => "field"
      | some columnName => columnName
    unprocessableEntity extra s!"Field \"{fieldName}\" cannot be null"
  | .operational | .transient =>
    serviceUnavailable (extra ++ [("sqlstate", error.sqlstate)]) "Temporary service outage"
  | .unknown | .otherIntegrity =>
    internalError (extra ++ [("sqlstate", error.sqlstate)]) "Unexpected error"

/-- Exceptions, by what the unit of work and the executor can catch. -/
inductive Exc where
  | driver (error : DriverError)
  | persistence (error : PersistenceError)
  | validation (error : ValidationError)
  | app (error : AppError)
  | uowNotInitialized (field : String)
  /-- Any other class, `CancelledError` among them. -/
  | other (className : String)

/-- `isinstance(raised, Exception)`. The classes that are not are told by their names. -/
def Exc.isException : Exc → Bool
  | .other className => className ∉ ["BaseException", "BaseExceptionGroup", "CancelledError", "GeneratorExit",
      "KeyboardInterrupt", "SystemExit"]
  | _ => true

end PetBackend.Persistence
