import PetBackend.Domain.Models
import PetBackend.Persistence.Errors

/-!
# The unit of work

`infra/sqla/uow.py` and `infra/sqla/db/repos.py`, over whatever session the interface `SessionApi`
stands for. Log calls are left out.
-/

namespace PetBackend.Persistence

abbrev SessionId := Nat

structure OrganizationValues where
  publicId : UUID
  name : String
  deriving DecidableEq

/-- The values of the membership insert. The two ids are scalar subqueries on public ids. -/
structure MembershipValues where
  publicId : UUID
  userPublicId : UUID
  orgPublicId : UUID
  userRole : MemberRole
  deriving DecidableEq

structure UserValues where
  publicId : UUID
  authIssuer : String
  authSubject : String
  email : String
  username : String
  firstName : Option String
  lastName : Option String
  lastLoginAt : DateTime
  updatedAt : DateTime
  createdAt : DateTime
  deriving DecidableEq

/-- The `set_` of the conflict clause. -/
structure UserUpdate where
  username : String
  email : String
  firstName : Option String
  lastName : Option String
  lastLoginAt : DateTime
  updatedAt : DateTime
  deriving DecidableEq

structure UserORM where
  publicId : UUID
  firstName : Option String
  lastName : Option String
  username : String
  email : String
  authIssuer : String
  authSubject : String
  lastLoginAt : DateTime
  createdAt : DateTime
  updatedAt : DateTime
  deriving DecidableEq

inductive Statement where
  | selectUser (issuer subject : String)
  | insertMembership (values : MembershipValues)
  /-- `ON CONFLICT` on `uq_users_auth_subject_auth_issuer`, returning the row and `xmax = 0`. -/
  | upsertUser (values : UserValues) (update : UserUpdate)
  deriving DecidableEq

def Statement.Result : Statement → Type
  | .selectUser .. => List UserORM
  | .insertMembership .. => Unit
  | .upsertUser .. => List (UserORM × Bool)

/-- The asynchronous session, what makes one, and the clock. An awaited call returns or raises. -/
structure SessionApi (m : Type → Type) where
  sessionFactory : m SessionId
  orgsRepoFactory : SessionId → m (Except Exc Unit)
  usersRepoFactory : SessionId → m (Except Exc Unit)
  membershipsRepoFactory : SessionId → m (Except Exc Unit)
  add : SessionId → OrganizationValues → m Unit
  execute : SessionId → (statement : Statement) → m (Except Exc statement.Result)
  flush : SessionId → m (Except Exc Unit)
  refresh : SessionId → (attrs : Option (List String)) → m (Except Exc Unit)
  commit : SessionId → m (Except Exc Unit)
  rollback : SessionId → m (Except Exc Unit)
  close : SessionId → m (Except Exc Unit)
  now : m DateTime

/-- The attributes of `SQLAlchemyUnitOfWork`. A repository is the session it is bound to. -/
structure UnitOfWork where
  session : Option SessionId := none
  orgs : Option SessionId := none
  users : Option SessionId := none
  memberships : Option SessionId := none
  rolledBack : Bool := false

/-- Python code that works on one unit of work and may raise. -/
def Py (m : Type → Type) (α : Type) : Type := UnitOfWork → m (Except Exc α × UnitOfWork)

namespace Py

variable {m : Type → Type} [Monad m] {α β : Type}

def bind (first : Py m α) (rest : α → Py m β) : Py m β := fun uow => do
  match ← first uow with
  | (.ok value, uow) => rest value uow
  | (.error raised, uow) => return (.error raised, uow)

instance : Monad (Py m) where
  pure value := fun uow => return (.ok value, uow)
  bind := bind

def raise (raised : Exc) : Py m α := fun uow => return (.error raised, uow)

/-- `await call`, when the call works on something other than the unit of work. -/
def await (call : m (Except Exc α)) : Py m α := fun uow => return (← call, uow)

def lift (call : m α) : Py m α := fun uow => return (.ok (← call), uow)

def read (field : UnitOfWork → α) : Py m α := fun uow => return (.ok (field uow), uow)

def write (change : UnitOfWork → UnitOfWork) : Py m Unit := fun uow => return (.ok (), change uow)

/-- The outcome of a block, for a handler or a `finally`. -/
def attempt (body : Py m α) : Py m (Except Exc α) := fun uow => do
  let (outcome, uow) ← body uow
  return (.ok outcome, uow)

def settle : Except Exc α → Py m α
  | .ok value => pure value
  | .error raised => raise raised

/-- `try: body except DB_OPERATION_ERRORS as e: handler`. -/
def exceptDriver (body : Py m α) (handler : DriverError → Py m α) : Py m α := do
  match ← attempt body with
  | .error (.driver e) => handler e
  | outcome => settle outcome

end Py

section
variable {m : Type → Type} [Monad m] (api : SessionApi m)

open Py

/-! ### The accessors -/

def notInitialized {α : Type} (field : String) : Py m α := raise (.uowNotInitialized field)

def accessor (field : String) (slot : UnitOfWork → Option SessionId) : Py m SessionId := do
  match ← read slot with
  | none => notInitialized field
  | some value => return value

def session : Py m SessionId := accessor "session" UnitOfWork.session

def orgs : Py m SessionId := accessor "orgs" UnitOfWork.orgs

def memberships : Py m SessionId := accessor "memberships" UnitOfWork.memberships

def users : Py m SessionId := accessor "users" UnitOfWork.users

/-! ### Commit, rollback, flush and refresh -/

def rollbackAfterFailure : Py m Unit :=
  exceptDriver
    (do
      await (api.rollback (← session))
      write ({ · with rolledBack := true }))
    (fun _ => return ())

def commit : Py m Unit :=
  exceptDriver (do await (api.commit (← session))) (fun e => do
    let dbError := determineExc e
    rollbackAfterFailure api
    raise (.persistence dbError))

def rollback : Py m Unit :=
  exceptDriver
    (do
      await (api.rollback (← session))
      write ({ · with rolledBack := true }))
    (fun e => raise (.persistence (determineExc e)))

def flush : Py m Unit :=
  exceptDriver (do await (api.flush (← session))) (fun e => do
    let dbError := determineExc e
    rollbackAfterFailure api
    raise (.persistence dbError))

def refresh (attrs : Option (List String)) : Py m Unit :=
  exceptDriver (do await (api.refresh (← session) attrs))
    (fun e => raise (.persistence (determineExc e)))

/-! ### The context manager -/

/-- The `try` of `__aenter__`. -/
def bindRepos (session : SessionId) : Py m Unit := do
  write ({ · with session := some session })
  await (api.orgsRepoFactory session)
  write ({ · with orgs := some session })
  await (api.usersRepoFactory session)
  write ({ · with users := some session })
  await (api.membershipsRepoFactory session)
  write ({ · with memberships := some session })

/-- `__aenter__`. What is not an `Exception` gets past its handler. -/
def aenter : Py m Unit := do
  let session ← lift api.sessionFactory
  match ← attempt (bindRepos api session) with
  | .ok () => return ()
  | .error raised =>
    if raised.isException then
      await (api.close session)
      write ({ · with session := none, orgs := none, users := none, memberships := none })
    raise raised

/-- The `try` of `__aexit__`. -/
def closingRollback (current : SessionId) (exc : Option Exc) : Py m Unit :=
  exceptDriver
    (do
      if exc.isSome && !(← read UnitOfWork.rolledBack) then
        await (api.rollback current))
    (fun e => raise (.persistence (determineExc e)))

def aexit (exc : Option Exc) : Py m Unit := do
  match ← read UnitOfWork.session with
  | none => notInitialized "session"
  | some current =>
    let closing ← attempt (closingRollback api current exc)
    await (api.close (← session))
    write (fun _ => {})
    settle closing

/-! ### The repositories -/

/-- `try: execute except DB_OPERATION_ERRORS`, as every repository method does. -/
def repoExecute (repo : SessionId) (statement : Statement) : Py m statement.Result :=
  exceptDriver (await (api.execute repo statement))
    (fun e => raise (.persistence (determineExc e)))

variable {u : UnicodeData}

def orgsCreate (org : Organization u) : Py m Unit := do
  let repo ← orgs
  lift (api.add repo ⟨org.publicId.value, org.name.value⟩)

def membershipValues (membership : Membership) : MembershipValues where
  publicId := membership.publicId.value
  userPublicId := membership.userPublicId.value
  orgPublicId := membership.orgPublicId.value
  userRole := membership.role

def membershipsCreate (membership : Membership) : Py m Unit := do
  repoExecute api (← memberships) (.insertMembership (membershipValues membership))

def toDomain (orm : UserORM) : User where
  publicId := ⟨orm.publicId⟩
  firstName := orm.firstName
  lastName := orm.lastName
  username := orm.username
  email := orm.email
  authIssuer := orm.authIssuer
  authSubject := orm.authSubject
  lastLoginAt := orm.lastLoginAt
  createdAt := orm.createdAt
  updatedAt := orm.updatedAt

/-- `NoResultFound` or `MultipleResultsFound`, raised outside every `try`. -/
def resultCountError : Exc := .driver { errorClass := .sqlalchemyError }

def getByAuthIdentity (issuer subject : String) : Py m (Option User) := do
  let result : List UserORM ← repoExecute api (← users) (.selectUser issuer subject)
  match result with
  | [] => return none
  | [orm] => return some (toDomain orm)
  | _ => raise resultCountError

def userValues (user : User) : UserValues where
  publicId := user.publicId.value
  authIssuer := user.authIssuer
  authSubject := user.authSubject
  email := user.email
  username := user.username
  firstName := user.firstName
  lastName := user.lastName
  lastLoginAt := user.lastLoginAt
  updatedAt := user.updatedAt
  createdAt := user.createdAt

def userUpdate (user : User) : UserUpdate where
  username := user.username
  email := user.email
  firstName := user.firstName
  lastName := user.lastName
  lastLoginAt := user.lastLoginAt
  updatedAt := user.updatedAt

def upsert (user : User) : Py m (User × Bool) := do
  let result : List (UserORM × Bool) ←
    repoExecute api (← users) (.upsertUser (userValues user) (userUpdate user))
  match result with
  | [(orm, inserted)] => return (toDomain orm, inserted)
  | _ => raise resultCountError

end

end PetBackend.Persistence
