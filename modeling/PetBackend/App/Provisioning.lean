import PetBackend.App.Usecases
import PetBackend.Auth.Claims
import PetBackend.Library.Protocols
import PetBackend.Persistence.Columns
import PetBackend.Persistence.FirstFailure

/-!
# From claims to columns

The verifier decides which claims make a principal, the columns what can be stored of it.
-/

namespace PetBackend
open Library Persistence Auth

def storedClaims : List String :=
  ["sub", "iss", "preferred_username", "email", "given_name", "family_name"]

/-- The text of a stored claim is free of U+0000, and the two names have at most 128 characters. -/
structure ClaimsFit (claims : JsonObject) : Prop where
  storable : ∀ name ∈ storedClaims, ∀ text, claims.get name = .str text → Storable text
  short : ∀ name ∈ ["given_name", "family_name"], ∀ text, claims.get name = .str text →
    text.length ≤ 128

/-- The values of the six text columns, by the column's limit. -/
theorem valuesFit_iff {values : UserValues} : ValuesFit values ↔
    (Storable values.username ∧ Storable values.email ∧ Storable values.authIssuer ∧
      Storable values.authSubject) ∧
    (∀ text, values.firstName = some text → Storable text ∧ text.length ≤ 128) ∧
    ∀ text, values.lastName = some text → Storable text ∧ text.length ≤ 128 := by
  have required (name text : String) : ({ name := name } : TextColumn).Accepts (some text) ↔ Storable text := by
    simp [TextColumn.Accepts]
  have optional (name : String) (value : Option String) :
      ({ name := name, maxLength := some 128, nullable := true } : TextColumn).Accepts value ↔
        ∀ text, value = some text → Storable text ∧ text.length ≤ 128 := by
    cases value <;> simp [TextColumn.Accepts]
  simp only [ValuesFit, userColumns, List.forall_mem_cons, List.not_mem_nil, required, optional]
  tauto

theorem claimed_fits {claims : JsonObject} {principal : Principal} (claimed : Claimed claims principal)
    (publicId : PublicId) (now : DateTime) :
    ValuesFit (userValues (userFromClaims principal publicId now)) ↔ ClaimsFit claims := by
  have fields : ClaimsFit claims ↔
      (∀ name ∈ storedClaims, ∀ text, claims.get name = .str text → Storable text) ∧
      ∀ name ∈ ["given_name", "family_name"], ∀ text, claims.get name = .str text →
        text.length ≤ 128 :=
    ⟨fun fit => ⟨fit.storable, fit.short⟩, fun fit => ⟨fit.1, fit.2⟩⟩
  rw [fields, valuesFit_iff]
  simp only [storedClaims, List.forall_mem_cons, List.not_mem_nil, claimed.subject.1, claimed.issuer.1,
    claimed.username.1, claimed.email.1, claimed.firstName, claimed.lastName, Json.str.injEq, forall_eq',
    userValues, userFromClaims]
  constructor
  · rintro ⟨⟨username, email, issuer, subject⟩, first, last⟩
    exact ⟨⟨subject, issuer, username, email, fun text held => (first text held).1,
      fun text held => (last text held).1, nofun⟩, fun text held => (first text held).2,
      fun text held => (last text held).2, nofun⟩
  · rintro ⟨⟨subject, issuer, username, email, first, last, -⟩, short, long, -⟩
    exact ⟨⟨username, email, issuer, subject⟩, fun text held => ⟨first text held, short text held⟩,
      fun text held => ⟨last text held, long text held⟩⟩

/-! ### Logging in -/

variable {u : UnicodeData} {W : Type}

theorem provisionUser_run (principal : Principal) (uuidGen : Nat → UUID) :
    (provisionUserFromClaims (u := u) principal uuidGen).run =
      .call .now fun answer => match answer with
        | .error raised => .done (.error raised)
        | .ok now => .call (.upsert (userFromClaims principal ⟨uuidGen 0⟩ now)) .done := by
  show Program.call _ _ = _
  congr 1
  funext answer
  rcases answer with raised | now
  · rfl
  · show Program.call _ _ = _
    congr 1

theorem upserts_iff (principal : Principal) (uuidGen : Nat → UUID) (fits : UserValues → Prop) :
    (provisionUserFromClaims (u := u) principal uuidGen).run.Only
      (fun op => ∀ user, op = .upsert user → fits (userValues user)) ↔
    ∀ now, fits (userValues (userFromClaims principal ⟨uuidGen 0⟩ now)) := by
  rw [provisionUser_run]
  constructor
  · intro only now
    exact (only.2 (.ok now)).1 _ rfl
  · intro fit
    refine ⟨nofun, ?_⟩
    rintro (raised | now)
    · trivial
    · refine ⟨fun user same => ?_, fun _ => trivial⟩
      cases same
      exact fit now

/-- A database that works: its upsert returns a row for values that the columns accept and raises a
`DataError` for others, and nothing else fails. -/
structure Working (api : SessionApi (StateM W)) : Prop extends WellBehaved api where
  accepts : ∀ s values update w, ValuesFit values →
    ∃ row, (answer (api.execute s (.upsertUser values update)) w).1 = .ok [row]
  refuses : ∀ s values update w, ¬ ValuesFit values →
    ∃ e : DriverError, (answer (api.execute s (.upsertUser values update)) w).1 = .error (.driver e) ∧
      e.errorClass = .dbapiError ∧ e.connectionInvalidated = false
  commits : ∀ s w, (answer (api.commit s) w).1 = .ok ()
  rollsBack : ∀ s w, (answer (api.rollback s) w).1 = .ok ()

def EndsInternalError {α : Type} (outcome : Except Exc α) : Prop :=
  ∃ raised, outcome = .error (.app raised) ∧ raised.code = .internalError

variable {api : SessionApi (StateM W)}

theorem exec_commit (working : Working api) {uow : UnitOfWork} {s : SessionId} {w : W}
    (active : uow.session = some s) : (exec (commit api) uow w).1 = .ok () := by
  unfold commit
  simp only [exec_exceptDriver, exec_bind, exec_session active, exec_await]
  rw [working.commits]

/-- With a working database only the upsert decides. -/
theorem login_ended (working : Working api) (principal : Principal) (uuidGen : Nat → UUID) (w : W) :
    ∃ now s w', ∀ outcome : Except Exc (List (UserORM × Bool)),
      (answer (api.execute s (.upsertUser (userValues (userFromClaims principal ⟨uuidGen 0⟩ now))
        (userUpdate (userFromClaims principal ⟨uuidGen 0⟩ now)))) w').1 = outcome →
      (ended api (provisionUserFromClaims (u := u) principal uuidGen).run w).1 = caught outcome >>= onlyRow := by
  obtain ⟨_, s, opened⟩ := entered_session working.toWellBehaved w
  obtain ⟨now, w', clock⟩ : ∃ now w', exec (perform api (.now : UowOp u)) ⟨some s, some s, some s, some s, false⟩
      (entered api w).2 = (.ok now, ⟨some s, some s, some s, some s, false⟩, w') := ⟨_, _, rfl⟩
  refine ⟨now, s, w', fun outcome answered => ?_⟩
  have executed := exec_repoExecute api s (.upsertUser
    (userValues (userFromClaims principal ⟨uuidGen 0⟩ now))
    (userUpdate (userFromClaims principal ⟨uuidGen 0⟩ now))) ⟨some s, some s, some s, some s, false⟩ w'
  rw [answered] at executed
  obtain ⟨after, upserted⟩ : ∃ after,
      exec (perform api (.upsert (userFromClaims principal ⟨uuidGen 0⟩ now) : UowOp u))
        ⟨some s, some s, some s, some s, false⟩ w' =
      (caught outcome >>= onlyRow, ⟨some s, some s, some s, some s, false⟩, after) :=
    ⟨_, exec_upsert rfl executed⟩
  unfold ended transaction
  rw [opened, provisionUser_run]
  simp only [runHandler, exec_bind, exec_attempt, clock, upserted]
  rcases caught outcome >>= onlyRow with raised | result
  · rfl
  · have committed : (exec (commit api) ⟨some s, some s, some s, some s, false⟩ after).1 = .ok () :=
      exec_commit working rfl
    simp only [exec_settle]
    generalize exec (commit api) ⟨some s, some s, some s, some s, false⟩ after = closed at committed ⊢
    rcases closed with ⟨_ | _, _, _⟩
    · cases committed
    · rfl

section
variable {claims : JsonObject} {principal : Principal}

theorem login_decided (working : Working api) (handler : HandlerProgram u (User × Bool)) (w : W) :
    (answer (run api handler) w).1 = (ended api handler w).1.mapError translated := by
  refine ((first_failure_decides working.toWellBehaved handler w).mpr fun fails => ?_).decided
  obtain ⟨-, -, s, raised, -, failed⟩ := fails
  rw [working.rollsBack] at failed
  cases failed

theorem login_succeeds (working : Working api) (claimed : Claimed claims principal)
    (fit : ClaimsFit claims) (uuidGen : Nat → UUID) (w : W) : ∃ result,
      (answer (run api (provisionUserFromClaims (u := u) principal uuidGen).run) w).1 = .ok result := by
  obtain ⟨now, s, w', ends⟩ := login_ended (u := u) working principal uuidGen w
  obtain ⟨⟨orm, inserted⟩, answered⟩ := working.accepts s _
    (userUpdate (userFromClaims principal ⟨uuidGen 0⟩ now)) w' ((claimed_fits claimed _ now).mpr fit)
  refine ⟨(toDomain orm, inserted), ?_⟩
  rw [login_decided working, ends _ answered]
  rfl

theorem login_refused (working : Working api) (claimed : Claimed claims principal)
    (unfit : ¬ ClaimsFit claims) (uuidGen : Nat → UUID) (w : W) : EndsInternalError
      (answer (run api (provisionUserFromClaims (u := u) principal uuidGen).run) w).1 := by
  obtain ⟨now, s, w', ends⟩ := login_ended (u := u) working principal uuidGen w
  obtain ⟨e, answered, dataError, connected⟩ := working.refuses s _
    (userUpdate (userFromClaims principal ⟨uuidGen 0⟩ now)) w' fun fits =>
      unfit ((claimed_fits claimed _ now).mp fits)
  refine ⟨translateDbError (determineExc e), ?_, ?_⟩
  · rw [login_decided working, ends _ answered]
    rfl
  · simp [determineExc, dataError, connected, translateDbError, internalError]

end

/-! ### A database that only provisions -/

/-- The row that an insert of the values makes. -/
def insertedRow (values : UserValues) : UserORM := { values with }

def answerUpsert (values : UserValues) : Except Exc (List (UserORM × Bool)) :=
  if ValuesFit values then .ok [(insertedRow values, true)]
  else .error (.driver { errorClass := .dbapiError })

def provisioningSession : SessionApi (StateM Unit) := { idleSession false with
  execute := fun _ statement => match statement with
    | .upsertUser values _ => pure (answerUpsert values)
    | .selectUser .. => pure (.ok [])
    | .insertMembership _ => pure (.ok ()) }

theorem provisioningSession_working : Working provisioningSession where
  toWellBehaved := by
    obtain ⟨orgsRepo, usersRepo, membershipsRepo, close, rollback⟩ := idleSession_wellBehaved false
    exact ⟨orgsRepo, usersRepo, membershipsRepo, close, rollback⟩
  accepts s values update w fits := by
    refine ⟨(insertedRow values, true), ?_⟩
    change answerUpsert values = _
    exact if_pos fits
  refuses s values update w unfit := by
    refine ⟨{ errorClass := .dbapiError }, ?_, rfl, rfl⟩
    change answerUpsert values = _
    exact if_neg unfit
  commits _ _ := rfl
  rollsBack _ _ := rfl

def aliceClaims (givenName : String) : JsonObject := [
  ("sub", .str "alice"), ("iss", .str "https://id"), ("preferred_username", .str "alice"),
  ("email", .str "alice@id"), ("given_name", .str givenName)]

def alice (givenName : String) : Principal where
  subject := "alice"
  issuer := "https://id"
  username := "alice"
  email := "alice@id"
  firstName := some givenName
  rawClaims := aliceClaims givenName

theorem alice_built (givenName : String) : buildPrincipal (aliceClaims givenName) = .ok (alice givenName) :=
  rfl

theorem alice_fit {givenName : String} : ClaimsFit (aliceClaims givenName) ↔
    Storable givenName ∧ givenName.length ≤ 128 := by
  rw [← claimed_fits (buildPrincipal_ok (alice_built givenName)) ⟨0⟩ 0, valuesFit_iff]
  have storable : Storable "alice" ∧ Storable "alice@id" ∧ Storable "https://id" := by decide
  simp [userValues, userFromClaims, alice, storable]

end PetBackend
