import PetBackend.Library.Program
import PetBackend.Persistence.UnitOfWork

/-!
# The transaction executor

`app/transaction_executor.py`. A handler is a program over the operations of the unit of work: each
may fail, and the handler may catch the failure or let it propagate.
-/

namespace PetBackend.Persistence
open Library

variable {u : UnicodeData}

inductive UowOp (u : UnicodeData) where
  | orgsCreate (org : Organization u)
  | membershipsCreate (membership : Membership)
  | getByAuthIdentity (issuer subject : String)
  | upsert (user : User)
  | flush
  | refresh (attrs : Option (List String))
  | commit
  | rollback
  /-- `datetime.now(UTC)`. -/
  | now

def UowOp.Value : UowOp u → Type
  | .getByAuthIdentity .. => Option User
  | .upsert _ => User × Bool
  | .now => DateTime
  | _ => Unit

abbrev UowOp.Ret (op : UowOp u) : Type := Except Exc op.Value

abbrev HandlerProgram (u : UnicodeData) (α : Type) : Type :=
  Program (UowOp u) UowOp.Ret (Except Exc α)

section
variable {m : Type → Type} [Monad m] (api : SessionApi m)

open Py

def perform : (op : UowOp u) → Py m op.Value
  | .orgsCreate org => orgsCreate api org
  | .membershipsCreate membership => membershipsCreate api membership
  | .getByAuthIdentity issuer subject => getByAuthIdentity api issuer subject
  | .upsert user => upsert api user
  | .flush => flush api
  | .refresh attrs => refresh api attrs
  | .commit => commit api
  | .rollback => rollback api
  | .now => lift api.now

def runHandler {α : Type} : HandlerProgram u α → Py m α
  | .done outcome => settle outcome
  | .call op next => do
    let answer ← attempt (perform api op)
    runHandler (next answer)

/-- The block inside the inner `try`. -/
def transaction {α : Type} (handler : HandlerProgram u α) : Py m α := do
  let result ← runHandler api handler
  commit api
  return result

/-- The `except` clauses. -/
def translated : Exc → Exc
  | .persistence e => .app (translateDbError e)
  | .validation e => .app (translateDomainValidationError e)
  | raised => raised

/-- The body of `async with`. -/
def withBody {α : Type} (handler : HandlerProgram u α) : Py m α := do
  match ← attempt (transaction api handler) with
  | .ok result => return result
  | .error raised => raise (translated raised)

/-- `TransactionExecutor.run` on a fresh unit of work. -/
def run {α : Type} (handler : HandlerProgram u α) : m (Except Exc α) := do
  let (entered, uow) ← aenter api {}
  match entered with
  | .error raised => return .error raised
  | .ok () =>
    let (outcome, uow) ← withBody api handler uow
    match outcome with
    | .ok result =>
      let (closed, _) ← aexit api none uow
      return closed.map (fun _ => result)
    | .error raised =>
      let (closed, _) ← aexit api (some raised) uow
      match closed with
      | .ok () => return .error raised
      | .error replacing => return .error replacing

end

/-! ### Call by call -/

section
variable {m : Type → Type} [Monad m] (api : SessionApi m) {α β : Type}

open Py

theorem code_run (first : Py m α) (rest : α → Py m β) (uow : UnitOfWork) : (first >>= rest) uow = (do
    match ← first uow with
    | (.ok value, uow) => rest value uow
    | (.error raised, uow) => return (.error raised, uow)) := rfl

variable [LawfulMonad m]

theorem withBody_run (handler : HandlerProgram u α) (uow : UnitOfWork) : withBody api handler uow = (do
    match ← runHandler api handler uow with
    | (.error raised, uow) => return (.error (translated raised), uow)
    | (.ok result, uow) =>
      match ← commit api uow with
      | (.error raised, uow) => return (.error (translated raised), uow)
      | (.ok (), uow) => return (.ok result, uow)) := by
  unfold withBody transaction
  simp only [code_run, attempt, bind_assoc]
  congr 1
  funext ended
  rcases ended with ⟨raised | result, uow⟩
  · simp [raise]
  · simp only [bind_assoc]
    congr 1
    funext ended
    rcases ended with ⟨raised | _, uow⟩
    · simp [raise]
    · simp only [pure, pure_bind]

/-- What `commit` makes of the session's answer. -/
def commitAnswered (answer : Except Exc Unit) : Py m Unit :=
  match answer with
  | .error (.driver e) => do
    rollbackAfterFailure api
    raise (.persistence (determineExc e))
  | answer => settle answer

theorem commit_run (uow : UnitOfWork) : commit api uow = match uow.session with
    | none => pure (.error (.uowNotInitialized "session"), uow)
    | some s => api.commit s >>= fun answer => commitAnswered api answer uow := by
  unfold commit exceptDriver session accessor
  simp only [code_run, attempt, bind_assoc, Py.read, pure_bind]
  cases uow.session with
  | none => simp [notInitialized, raise, settle]
  | some s =>
    simp only [Py.await, pure, pure_bind, bind_assoc]
    congr 1
    funext ended
    rcases ended with raised | _
    · cases raised <;> rfl
    · rfl

end

/-! ### Its log calls -/

/-- What `run` logs, and where. -/
structure RunLog (m : Type → Type) where
  started : m Unit
  committed : m Unit
  failed : Exc → m Unit

section
variable {m : Type → Type} [Monad m] (api : SessionApi m) (logger : RunLog m) {α : Type}

open Py

def loggedBody (handler : HandlerProgram u α) : Py m α := do
  match ← attempt (transaction api handler) with
  | .ok result =>
    lift logger.committed
    return result
  | .error raised =>
    lift (logger.failed raised)
    raise (translated raised)

/-- `run` with its log calls. -/
def loggedRun (handler : HandlerProgram u α) : m (Except Exc α) := do
  logger.started
  let (entered, uow) ← aenter api {}
  match entered with
  | .error raised => return .error raised
  | .ok () =>
    let (outcome, uow) ← loggedBody api logger handler uow
    match outcome with
    | .ok result =>
      let (closed, _) ← aexit api none uow
      return closed.map (fun _ => result)
    | .error raised =>
      let (closed, _) ← aexit api (some raised) uow
      match closed with
      | .ok () => return .error raised
      | .error replacing => return .error replacing

variable [LawfulMonad m] {β : Type}

theorem lift_pure_bind (value : α) (rest : α → Py m β) : lift (pure value) >>= rest = rest value := by
  funext uow
  show Py.bind (lift (pure value)) rest uow = rest value uow
  simp only [Py.bind, lift, pure_bind]

theorem loggedBody_silent (handler : HandlerProgram u α) :
    loggedBody api ⟨return (), return (), fun _ => return ()⟩ handler = withBody api handler := by
  unfold loggedBody withBody
  congr 1
  funext outcome
  cases outcome with
  | ok result => exact lift_pure_bind () fun _ => pure result
  | error raised => exact lift_pure_bind () fun _ => raise (translated raised)

/-- The log calls are all that is added. -/
theorem loggedRun_silent (handler : HandlerProgram u α) :
    loggedRun api ⟨return (), return (), fun _ => return ()⟩ handler = run api handler := by
  unfold loggedRun run
  rw [pure_bind, loggedBody_silent]

end

end PetBackend.Persistence
