import PetBackend.Persistence.Errors

/-!
# What is left of a database error

Which facts of a driver's error reach the application error that it is translated into.
-/

namespace PetBackend.Persistence

/-- Where the name of a constraint, a table or a column is looked up. -/
def searchPath (e : DriverError) : List PyObject :=
  let cause := e.orig.getattr "__cause__"
  let context := e.orig.getattr "__context__"
  [e.orig, e.orig.getattr "diag", cause, cause.getattr "diag", context, context.getattr "diag"]

/-- The first string under the name along the path, if there is one. -/
def FirstText (path : List PyObject) (name : String) : Option String → Prop
  | some text => ∃ before place after, path = before ++ place :: after ∧
      place.getattr name = .str text ∧ ∀ earlier ∈ before, ∀ other, earlier.getattr name ≠ .str other
  | none => ∀ place ∈ path, ∀ text, place.getattr name ≠ .str text

/-- The driver's error has a state that is not empty, as `sqlstate` or else as `pgcode`. -/
inductive Carries (e : DriverError) (state : PyObject) : Prop where
  | sqlstate (held : e.orig.getattr "sqlstate" = state) (nonempty : state.truthy = true)
  | pgcode (missing : (e.orig.getattr "sqlstate").truthy = false)
      (held : e.orig.getattr "pgcode" = state) (nonempty : state.truthy = true)

structure DiagnosisKept (e : DriverError) (a : AppError) : Prop where
  retryable : a.extra.lookup "retryable" = some (.bool true) ↔ a.code = .serviceUnavailable
  sqlstate : a.code = .serviceUnavailable ∨ a.code = .internalError →
    ∀ state, Carries e state → a.extra.lookup "sqlstate" = some state
  names : e.errorClass = .integrityError → ∀ name ∈ ["constraint_name", "table_name", "column_name"],
    ∃ text, FirstText (searchPath e) name text ∧ a.extra.lookup name = some (.ofOption text)

/-- `determine_exc` reads the state in the branch that it takes. -/
def StateRead (e : DriverError) : Prop :=
  match e.errorClass with
  | .integrityError | .operationalError | .interfaceError | .timeoutError | .disconnectionError
  | .invalidatePoolError => True
  | .dbapiError => e.connectionInvalidated = true
  | .sqlalchemyError | .osError => False

variable {e : DriverError} {state : PyObject} {name : String}

theorem carries_iff : Carries e state ↔ pgSqlstate e = state ∧ state.truthy = true := by
  unfold pgSqlstate PyObject.or
  by_cases nonempty : (e.orig.getattr "sqlstate").truthy = true
  · rw [if_pos nonempty]
    constructor
    · rintro (⟨held, truthy⟩ | ⟨missing, -, -⟩)
      · exact ⟨held, truthy⟩
      · rw [missing] at nonempty
        cases nonempty
    · rintro ⟨held, truthy⟩
      exact .sqlstate held truthy
  · rw [if_neg nonempty]
    constructor
    · rintro (⟨held, truthy⟩ | ⟨-, held, truthy⟩)
      · rw [held] at nonempty
        exact (nonempty truthy).elim
      · exact ⟨held, truthy⟩
    · rintro ⟨held, truthy⟩
      exact .pgcode (Bool.eq_false_iff.mpr nonempty) held truthy

theorem str?_eq_some {value : PyObject} {text : String} : value.str? = some text ↔ value = .str text := by
  cases value <;> simp [PyObject.str?]

theorem str?_eq_none {value : PyObject} : value.str? = none ↔ ∀ text, value ≠ .str text := by
  cases value <;> simp [PyObject.str?]

/-- `None` has no attributes, so that leaving it out makes no difference. -/
theorem findSome?_candidates (places : List PyObject) (name : String) :
    (places.filter fun place => !place.isNone).findSome? (fun place => (place.getattr name).str?) =
      places.findSome? fun place => (place.getattr name).str? := by
  induction places with
  | nil => rfl
  | cons place rest ih =>
    cases place with
    | none => exact ih
    | _ =>
      rw [List.filter_cons_of_pos rfl, List.findSome?_cons, List.findSome?_cons, ih]

theorem readPgStrAttr_first (e : DriverError) (name : String) :
    FirstText (searchPath e) name (readPgStrAttr e name) := by
  have read : readPgStrAttr e name = (searchPath e).findSome? fun place => (place.getattr name).str? :=
    findSome?_candidates (searchPath e) name
  rw [read]
  cases found : (searchPath e).findSome? fun place => (place.getattr name).str? with
  | none =>
    intro place member
    exact str?_eq_none.mp (List.findSome?_eq_none_iff.mp found place member)
  | some text =>
    obtain ⟨before, place, after, path, held, earlier⟩ := List.findSome?_eq_some_iff.mp found
    exact ⟨before, place, after, path, str?_eq_some.mp held, fun other member =>
      str?_eq_none.mp (earlier other member)⟩

/-! ### What the translation carries over -/

def carriedOver (error : PersistenceError) : Extra := [
  ("retryable", .bool error.retryable),
  ("cause", .ofOption (error.cause.map DriverError.text)),
  ("constraint_name", .ofOption error.constraintName),
  ("table_name", .ofOption error.tableName),
  ("column_name", .ofOption error.columnName)]

/-- The two codes that say nothing of what the database refused. -/
def Unspecific (code : AppErrorCode) : Prop := code = .serviceUnavailable ∨ code = .internalError

instance (code : AppErrorCode) : Decidable (Unspecific code) :=
  inferInstanceAs (Decidable (code = .serviceUnavailable ∨ code = .internalError))

theorem translate_extra (error : PersistenceError) : (translateDbError error).extra = carriedOver error ++
    if Unspecific (translateDbError error).code then [("sqlstate", error.sqlstate)] else [] := by
  unfold translateDbError
  cases error.kind with
  | unique =>
    dsimp only
    split <;> rfl
  | _ => rfl

theorem extra_lookup (error : PersistenceError) :
    (translateDbError error).extra.lookup "retryable" = some (.bool error.retryable) ∧
    (translateDbError error).extra.lookup "constraint_name" = some (.ofOption error.constraintName) ∧
    (translateDbError error).extra.lookup "table_name" = some (.ofOption error.tableName) ∧
    (translateDbError error).extra.lookup "column_name" = some (.ofOption error.columnName) := by
  rw [translate_extra]
  simp [carriedOver, List.lookup_cons]

theorem sqlstate_lookup {error : PersistenceError} (unspecific : Unspecific (translateDbError error).code) :
    (translateDbError error).extra.lookup "sqlstate" = some error.sqlstate := by
  rw [translate_extra, if_pos unspecific]
  simp [carriedOver, List.lookup_cons]

theorem unavailable_iff (error : PersistenceError) : (translateDbError error).code = .serviceUnavailable ↔
    error.kind = .operational ∨ error.kind = .transient := by
  unfold translateDbError
  cases error.kind with
  | unique =>
    dsimp only
    split <;> simp [organizationNameTaken, conflict]
  | _ => simp [unprocessableEntity, serviceUnavailable, internalError]

theorem unspecific_iff (error : PersistenceError) : Unspecific (translateDbError error).code ↔
    error.kind = .operational ∨ error.kind = .transient ∨ error.kind = .unknown ∨
      error.kind = .otherIntegrity := by
  unfold Unspecific translateDbError
  cases error.kind with
  | unique =>
    dsimp only
    split <;> simp [organizationNameTaken, conflict]
  | _ => simp [unprocessableEntity, serviceUnavailable, internalError]

theorem integrityKind_definite (state : PyObject) :
    integrityKind state ≠ .operational ∧ integrityKind state ≠ .transient := by
  unfold integrityKind
  split <;> simp

/-- Retrying helps with the two kinds for which the service is unavailable. -/
theorem retryable_iff (e : DriverError) :
    (determineExc e).retryable = true ↔ (translateDbError (determineExc e)).code = .serviceUnavailable := by
  rw [unavailable_iff]
  obtain ⟨errorClass, invalidated, orig, text⟩ := e
  cases errorClass with
  | integrityError =>
    obtain ⟨notOperational, notTransient⟩ := integrityKind_definite
      (pgSqlstate ⟨.integrityError, invalidated, orig, text⟩)
    simp [determineExc, notOperational, notTransient]
  | dbapiError => cases invalidated <;> simp [determineExc, DriverError.isDbapiError]
  | _ => simp [determineExc, DriverError.isDbapiError]

/-- The state is what the driver's error holds where it is read, and is left out elsewhere. -/
theorem determineExc_sqlstate (e : DriverError) :
    (StateRead e → (determineExc e).sqlstate = pgSqlstate e) ∧
    (¬ StateRead e → (determineExc e).sqlstate = .none ∧ Unspecific (translateDbError (determineExc e)).code) := by
  rw [unspecific_iff]
  obtain ⟨errorClass, invalidated, orig, text⟩ := e
  cases errorClass with
  | dbapiError => cases invalidated <;> simp [determineExc, StateRead, DriverError.isDbapiError]
  | _ => simp [determineExc, StateRead, DriverError.isDbapiError]

theorem determineExc_names (integrity : e.errorClass = .integrityError) :
    (determineExc e).constraintName = readPgStrAttr e "constraint_name" ∧
    (determineExc e).tableName = readPgStrAttr e "table_name" ∧
    (determineExc e).columnName = readPgStrAttr e "column_name" := by
  unfold determineExc
  rw [integrity]
  exact ⟨rfl, rfl, rfl⟩

/-- A `DataError` with the driver's state. -/
def tooLong : DriverError := {
  errorClass := .dbapiError
  orig := .object [("sqlstate", .str "22001")] }

end PetBackend.Persistence
