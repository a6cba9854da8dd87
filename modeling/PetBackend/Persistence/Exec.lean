import PetBackend.Library.Outcome
import PetBackend.Persistence.Executor

/-!
# Running the unit of work in a world

The executor over any deterministic session: the session answers each call from its world, which
may hold a database, a failure pattern, or both.
-/

namespace PetBackend.Persistence
open Library Py

variable {W α β : Type} {u : UnicodeData}

def answer (call : StateM W α) (w : W) : α × W := call.run w

def exec (code : Py (StateM W) α) (uow : UnitOfWork) (w : W) : Except Exc α × UnitOfWork × W :=
  (((code uow).run w).1.1, ((code uow).run w).1.2, ((code uow).run w).2)

@[simp] theorem exec_bind (first : Py (StateM W) α) (rest : α → Py (StateM W) β) (uow : UnitOfWork) (w : W) :
    exec (first >>= rest) uow w = match exec first uow w with
      | (.ok value, uow', w') => exec (rest value) uow' w'
      | (.error raised, uow', w') => (.error raised, uow', w') := by
  have unfolded : ((first >>= rest) uow).run w = match (first uow).run w with
      | ((.ok value, uow'), w') => (rest value uow').run w'
      | ((.error raised, uow'), w') => ((.error raised, uow'), w') := by
    show (Py.bind first rest uow).run w = _
    unfold Py.bind
    rw [StateT.run_bind]
    generalize (first uow).run w = ended
    rcases ended with ⟨⟨_ | _, _⟩, _⟩ <;> rfl
  unfold exec
  rw [unfolded]
  generalize (first uow).run w = ended
  rcases ended with ⟨⟨_ | _, _⟩, _⟩ <;> rfl

@[simp] theorem exec_await (call : StateM W (Except Exc α)) (uow : UnitOfWork) (w : W) :
    exec (await call) uow w = ((answer call w).1, uow, (answer call w).2) := rfl

@[simp] theorem exec_lift (call : StateM W α) (uow : UnitOfWork) (w : W) :
    exec (lift call) uow w = (.ok (answer call w).1, uow, (answer call w).2) := rfl

@[simp] theorem exec_attempt (body : Py (StateM W) α) (uow : UnitOfWork) (w : W) :
    exec (attempt body) uow w = (.ok (exec body uow w).1, (exec body uow w).2) := rfl

@[simp] theorem exec_pure (value : α) (uow : UnitOfWork) (w : W) :
    exec (pure value : Py (StateM W) α) uow w = (.ok value, uow, w) := rfl

@[simp] theorem exec_raise (raised : Exc) (uow : UnitOfWork) (w : W) :
    exec (raise raised : Py (StateM W) α) uow w = (.error raised, uow, w) := rfl

@[simp] theorem exec_read (field : UnitOfWork → α) (uow : UnitOfWork) (w : W) :
    exec (read field : Py (StateM W) α) uow w = (.ok (field uow), uow, w) := rfl

@[simp] theorem exec_write (change : UnitOfWork → UnitOfWork) (uow : UnitOfWork) (w : W) :
    exec (write change : Py (StateM W) Unit) uow w = (.ok (), change uow, w) := rfl

@[simp] theorem exec_settle (outcome : Except Exc α) (uow : UnitOfWork) (w : W) :
    exec (settle outcome : Py (StateM W) α) uow w = (outcome, uow, w) := by
  cases outcome <;> rfl

@[simp] theorem exec_exceptDriver (body : Py (StateM W) α) (handler : DriverError → Py (StateM W) α)
    (uow : UnitOfWork) (w : W) :
    exec (exceptDriver body handler) uow w = match exec body uow w with
      | (.error (.driver e), uow', w') => exec (handler e) uow' w'
      | ended => ended := by
  unfold exceptDriver
  rw [exec_bind, exec_attempt]
  rcases exec body uow w with ⟨raised | _, _, _⟩
  · cases raised <;> rfl
  · rfl

theorem exec_accessor (field : String) (slot : UnitOfWork → Option SessionId) (uow : UnitOfWork) (w : W) :
    exec (accessor field slot) uow w = match slot uow with
      | none => (.error (.uowNotInitialized field), uow, w)
      | some id => (.ok id, uow, w) := by
  unfold accessor
  rw [exec_bind, exec_read]
  cases slot uow <;> rfl

theorem exec_session {uow : UnitOfWork} {id : SessionId} {w : W} (active : uow.session = some id) :
    exec (session : Py (StateM W) SessionId) uow w = (.ok id, uow, w) := by
  unfold session
  rw [exec_accessor, active]

@[simp] theorem answer_bind (call : StateM W α) (rest : α → StateM W β) (w : W) :
    answer (call >>= rest) w = answer (rest (answer call w).1) (answer call w).2 := rfl

theorem answer_code (code : Py (StateM W) α) (uow : UnitOfWork) (w : W) : answer (code uow) w =
    (((exec code uow w).1, (exec code uow w).2.1), (exec code uow w).2.2) := rfl

/-! ### Inverting a bind -/

section
variable {first : Py (StateM W) α} {rest : α → Py (StateM W) β} {uow uow' : UnitOfWork} {w w' : W}

theorem exec_bind_ok {value : α} (ran : exec first uow w = (.ok value, uow', w')) :
    exec (first >>= rest) uow w = exec (rest value) uow' w' := by
  rw [exec_bind, ran]

theorem exec_bind_error {raised : Exc} (ran : exec first uow w = (.error raised, uow', w')) :
    exec (first >>= rest) uow w = (.error raised, uow', w') := by
  rw [exec_bind, ran]

end

/-- What the repositories make of the session's answer. -/
def caught : Except Exc α → Except Exc α
  | .error (.driver e) => .error (.persistence (determineExc e))
  | outcome => outcome

theorem exec_repoExecute (api : SessionApi (StateM W)) (s : SessionId) (statement : Statement)
    (uow : UnitOfWork) (w : W) : exec (repoExecute api s statement) uow w =
      (caught (answer (api.execute s statement) w).1, uow, (answer (api.execute s statement) w).2) := by
  unfold repoExecute
  rw [exec_exceptDriver, exec_await]
  rcases answer (api.execute s statement) w with ⟨raised | result, w'⟩
  · cases raised <;> rfl
  · rfl

def onlyRow : List (UserORM × Bool) → Except Exc (User × Bool)
  | [(orm, inserted)] => .ok (toDomain orm, inserted)
  | _ => .error resultCountError

theorem exec_upsert {user : User} {s : SessionId} {uow : UnitOfWork} {w w' : W}
    {outcome : Except Exc (List (UserORM × Bool))} (active : uow.users = some s)
    (executed : exec (repoExecute api s (.upsertUser (userValues user) (userUpdate user))) uow w =
      (outcome, uow, w')) :
    exec (upsert api user) uow w = (outcome >>= onlyRow, uow, w') := by
  have bound : exec (users : Py (StateM W) SessionId) uow w = (.ok s, uow, w) := by
    unfold users
    rw [exec_accessor, active]
  refine (exec_bind_ok bound).trans ?_
  rcases outcome with raised | rows
  · exact exec_bind_error executed
  · refine (exec_bind_ok executed).trans ?_
    rcases rows with _ | ⟨⟨orm, inserted⟩, _ | _⟩ <;> rfl

/-! ### Frames -/

/-- What code may do to the unit of work and the world, whether it returns or raises. -/
structure Frame (W : Type) where
  rel : UnitOfWork × W → UnitOfWork × W → Prop
  refl : ∀ s, rel s s
  trans : ∀ {a b c}, rel a b → rel b c → rel a c

def Frame.Holds (F : Frame W) (code : Py (StateM W) α) : Prop :=
  ∀ uow w, F.rel (uow, w) (exec code uow w).2

/-- The frame admits every call of the session but `commit`, and the mark of a rollback. -/
structure Frame.Admits (F : Frame W) (api : SessionApi (StateM W)) : Prop where
  add : ∀ s values, F.Holds (lift (api.add s values))
  execute : ∀ s statement, F.Holds (await (api.execute s statement))
  flush : ∀ s, F.Holds (await (api.flush s))
  refresh : ∀ s attrs, F.Holds (await (api.refresh s attrs))
  rollback : ∀ s, F.Holds (await (api.rollback s))
  now : F.Holds (lift api.now)
  mark : F.Holds (write ({ · with rolledBack := true }))

section
variable {F : Frame W} {api : SessionApi (StateM W)}

theorem holds_pure (value : α) : F.Holds (pure value : Py (StateM W) α) := fun _ _ => F.refl _

theorem holds_raise (raised : Exc) : F.Holds (raise raised : Py (StateM W) α) := fun _ _ => F.refl _

theorem holds_read (field : UnitOfWork → α) : F.Holds (read field : Py (StateM W) α) :=
  fun _ _ => F.refl _

theorem holds_settle (outcome : Except Exc α) : F.Holds (settle outcome : Py (StateM W) α) := by
  intro uow w
  rw [exec_settle]
  exact F.refl _

theorem holds_attempt {body : Py (StateM W) α} (a : F.Holds body) : F.Holds (attempt body) := a

theorem holds_bind {first : Py (StateM W) α} {rest : α → Py (StateM W) β} (a : F.Holds first)
    (b : ∀ value, F.Holds (rest value)) : F.Holds (first >>= rest) := by
  intro uow w
  have moved := a uow w
  rw [exec_bind]
  generalize exec first uow w = ended at moved ⊢
  rcases ended with ⟨_ | value, uow', w'⟩
  · exact moved
  · exact F.trans moved (b value uow' w')

theorem holds_exceptDriver {body : Py (StateM W) α} {handler : DriverError → Py (StateM W) α}
    (a : F.Holds body) (b : ∀ e, F.Holds (handler e)) : F.Holds (exceptDriver body handler) := by
  intro uow w
  have moved := a uow w
  rw [exec_exceptDriver]
  generalize exec body uow w = ended at moved ⊢
  rcases ended with ⟨raised | value, uow', w'⟩
  · cases raised with
    | driver e => exact F.trans moved (b e uow' w')
    | _ => exact moved
  · exact moved

theorem holds_accessor (field : String) (slot : UnitOfWork → Option SessionId) :
    F.Holds (accessor field slot : Py (StateM W) SessionId) := by
  refine holds_bind (holds_read _) ?_
  intro value
  cases value
  · exact holds_raise _
  · exact holds_pure _

theorem holds_rollbackAfterFailure (h : F.Admits api) : F.Holds (rollbackAfterFailure api) :=
  holds_exceptDriver
    (holds_bind (holds_accessor _ _) fun id => holds_bind (h.rollback id) fun _ => h.mark)
    fun _ => holds_pure _

theorem holds_guarded (h : F.Admits api) {call : SessionId → StateM W (Except Exc Unit)}
    (calls : ∀ s, F.Holds (await (call s))) : F.Holds
    (exceptDriver (do await (call (← session))) (fun e => do
      let dbError := determineExc e
      rollbackAfterFailure api
      raise (.persistence dbError)) : Py (StateM W) Unit) :=
  holds_exceptDriver (holds_bind (holds_accessor _ _) calls)
    fun _ => holds_bind (holds_rollbackAfterFailure h) fun _ => holds_raise _

theorem holds_repoExecute (h : F.Admits api) (repo : SessionId) (statement : Statement) :
    F.Holds (repoExecute api repo statement) :=
  holds_exceptDriver (h.execute repo statement) fun _ => holds_raise _

theorem holds_perform (h : F.Admits api) (op : UowOp u) (other : op ≠ .commit) :
    F.Holds (perform api op) := by
  cases op with
  | orgsCreate org => exact holds_bind (holds_accessor _ _) fun _ => h.add _ _
  | membershipsCreate membership =>
    exact holds_bind (holds_accessor _ _) fun _ => holds_repoExecute h _ _
  | getByAuthIdentity issuer subject =>
    refine holds_bind (holds_accessor _ _) fun _ => holds_bind (holds_repoExecute h _ _) fun rows => ?_
    split
    · exact holds_pure _
    · exact holds_pure _
    · exact holds_raise _
  | upsert user =>
    refine holds_bind (holds_accessor _ _) fun _ => holds_bind (holds_repoExecute h _ _) fun rows => ?_
    split
    · exact holds_pure _
    · exact holds_raise _
  | flush => exact holds_guarded h h.flush
  | refresh attrs =>
    exact holds_exceptDriver (holds_bind (holds_accessor _ _) fun id => h.refresh id attrs)
      fun _ => holds_raise _
  | commit => exact (other rfl).elim
  | rollback =>
    exact holds_exceptDriver
      (holds_bind (holds_accessor _ _) fun id => holds_bind (h.rollback id) fun _ => h.mark)
      fun _ => holds_raise _
  | now => exact h.now

theorem holds_every (h : F.Admits api) (commits : ∀ s, F.Holds (await (api.commit s))) (op : UowOp u) :
    F.Holds (perform api op) := by
  by_cases same : op = .commit
  · subst same
    exact holds_guarded h commits
  · exact holds_perform h op same

theorem holds_runHandler (h : F.Admits api) (commits : ∀ s, F.Holds (await (api.commit s)))
    (handler : HandlerProgram u α) : F.Holds (runHandler api handler) := by
  induction handler with
  | done outcome => exact holds_settle outcome
  | call op next ih => exact holds_bind (holds_attempt (holds_every h commits op)) ih

end

/-- Nothing but the context manager touches the session. -/
def sessionFrame (W : Type) : Frame W where
  rel s t := t.1.session = s.1.session
  refl _ := rfl
  trans a b := b.trans a

theorem keeps_session (api : SessionApi (StateM W)) (handler : HandlerProgram u α) :
    (sessionFrame W).Holds (transaction api handler) := by
  have admits : (sessionFrame W).Admits api := by
    constructor <;> intros <;> intro uow w <;> rfl
  have commits : ∀ s, (sessionFrame W).Holds (await (api.commit s)) := fun _ _ _ => rfl
  exact holds_bind (holds_runHandler admits commits handler)
    fun _ => holds_bind (holds_guarded admits commits) fun _ => holds_pure _

/-! ### The context manager -/

theorem exec_aenter {api : SessionApi (StateM W)} (uow : UnitOfWork) (w : W) :
    exec (aenter api) uow w =
      match exec (bindRepos api (answer api.sessionFactory w).1) uow (answer api.sessionFactory w).2 with
      | (.ok (), uow', w') => (.ok (), uow', w')
      | (.error raised, uow', w') =>
        if raised.isException then
          match answer (api.close (answer api.sessionFactory w).1) w' with
          | (.ok (), w'') => (.error raised, { rolledBack := uow'.rolledBack }, w'')
          | (.error closing, w'') => (.error closing, uow', w'')
        else (.error raised, uow', w') := by
  unfold aenter
  rw [exec_bind, exec_lift]
  simp only [exec_bind, exec_attempt]
  rcases exec (bindRepos api (answer api.sessionFactory w).1) uow (answer api.sessionFactory w).2 with
    ⟨raised | _, uow', w'⟩
  · by_cases caught : raised.isException = true
    · simp only [caught, if_true, exec_bind, exec_await]
      rcases answer (api.close (answer api.sessionFactory w).1) w' with ⟨_ | _, _⟩ <;> rfl
    · simp only [caught, Bool.false_eq_true, if_false, exec_raise]
  · rfl

/-- Where `__aenter__` leaves the unit of work and the world. -/
def entered (api : SessionApi (StateM W)) (w : W) : UnitOfWork × W := (exec (aenter api) {} w).2

theorem aenter_session {api : SessionApi (StateM W)} {w : W}
    (returned : (exec (aenter api) {} w).1 = .ok ()) : ∃ id, (entered api w).1.session = some id := by
  have bound : ∀ id uow w', (exec (bindRepos api id) uow w').2.1.session = some id := by
    intro id uow w'
    have rest : (sessionFrame W).Holds (do
        await (api.orgsRepoFactory id)
        write ({ · with orgs := some id })
        await (api.usersRepoFactory id)
        write ({ · with users := some id })
        await (api.membershipsRepoFactory id)
        write ({ · with memberships := some id }) : Py (StateM W) Unit) := by
      have assigned : ∀ call : StateM W (Except Exc Unit), (sessionFrame W).Holds (await call) :=
        fun _ _ _ => rfl
      exact holds_bind (assigned _) fun _ => holds_bind (fun _ _ => rfl) fun _ =>
        holds_bind (assigned _) fun _ => holds_bind (fun _ _ => rfl) fun _ =>
        holds_bind (assigned _) fun _ => fun _ _ => rfl
    exact rest _ w'
  refine ⟨(answer api.sessionFactory w).1, ?_⟩
  have active := bound (answer api.sessionFactory w).1 {} (answer api.sessionFactory w).2
  unfold entered
  rw [exec_aenter] at returned ⊢
  generalize exec (bindRepos api (answer api.sessionFactory w).1) {}
    (answer api.sessionFactory w).2 = ended at active returned ⊢
  rcases ended with ⟨raised | _, uow', w'⟩
  · simp only at returned
    split at returned
    · split at returned <;> cases returned
    · cases returned
  · exact active

theorem exec_closingRollback {api : SessionApi (StateM W)} (id : SessionId) (exc : Option Exc)
    (uow : UnitOfWork) (w : W) :
    exec (closingRollback api id exc) uow w =
      if exc.isSome = true ∧ uow.rolledBack = false then
        match answer (api.rollback id) w with
        | (.error (.driver e), w') => (.error (.persistence (determineExc e)), uow, w')
        | (outcome, w') => (outcome, uow, w')
      else (.ok (), uow, w) := by
  unfold closingRollback
  rw [exec_exceptDriver, exec_bind, exec_read]
  by_cases rolls : exc.isSome = true ∧ uow.rolledBack = false
  · have condition : (exc.isSome && !uow.rolledBack) = true := by simp [rolls]
    rw [if_pos rolls]
    simp only [condition, if_true, exec_await]
    rcases answer (api.rollback id) w with ⟨raised | _, _⟩
    · cases raised <;> rfl
    · rfl
  · have condition : (exc.isSome && !uow.rolledBack) = false := by simpa using rolls
    rw [if_neg rolls]
    simp only [condition, Bool.false_eq_true, if_false, exec_pure]

theorem exec_aexit_open {api : SessionApi (StateM W)} {uow : UnitOfWork} {id : SessionId}
    (active : uow.session = some id) (exc : Option Exc) (w : W) :
    exec (aexit api exc) uow w =
      match answer (api.close id) (exec (closingRollback api id exc) uow w).2.2 with
      | (.ok (), w') => ((exec (closingRollback api id exc) uow w).1, {}, w')
      | (.error raised, w') => (.error raised, uow, w') := by
  have kept : (exec (closingRollback api id exc) uow w).2.1 = uow := by
    rw [exec_closingRollback]
    split
    · split <;> rfl
    · rfl
  unfold aexit
  rw [exec_bind, exec_read]
  simp only [active, exec_bind, exec_attempt, kept, exec_session active, exec_await]
  rcases answer (api.close id) (exec (closingRollback api id exc) uow w).2.2 with ⟨_ | _, _⟩
  · rfl
  · simp only [exec_write, exec_settle]

/-- `__aexit__` on an open session raises what its rollback raised, and nothing else. -/
theorem exec_aexit {api : SessionApi (StateM W)} (closes : ∀ s w, (answer (api.close s) w).1 = .ok ())
    {uow : UnitOfWork} {id : SessionId} (active : uow.session = some id) (exc : Option Exc) (w : W) :
    (exec (aexit api exc) uow w).1 = (exec (closingRollback api id exc) uow w).1 := by
  have closed := closes id (exec (closingRollback api id exc) uow w).2.2
  rw [exec_aexit_open active]
  generalize answer (api.close id) (exec (closingRollback api id exc) uow w).2.2 = answered at closed
  rcases answered with ⟨_ | _, _⟩
  · cases closed
  · rfl

theorem exec_withBody {api : SessionApi (StateM W)} (handler : HandlerProgram u α)
    (uow : UnitOfWork) (w : W) : exec (withBody api handler) uow w =
      ((exec (transaction api handler) uow w).1.mapError translated,
        (exec (transaction api handler) uow w).2) := by
  unfold withBody
  rw [exec_bind, exec_attempt]
  rcases exec (transaction api handler) uow w with ⟨raised | value, _, _⟩ <;> rfl

/-- `run` from where its transaction ended. -/
theorem answer_run {api : SessionApi (StateM W)} (handler : HandlerProgram u α) {w : W}
    (started : (exec (aenter api) {} w).1 = .ok ()) : answer (run api handler) w =
      match exec (transaction api handler) (entered api w).1 (entered api w).2 with
      | (.ok result, uow, w') =>
        let left := exec (aexit api none) uow w'
        (left.1.map fun _ => result, left.2.2)
      | (.error raised, uow, w') =>
        let left := exec (aexit api (some (translated raised))) uow w'
        (left.1.bind fun _ => .error (translated raised), left.2.2) := by
  have same : exec (transaction api handler) (exec (aenter api) {} w).2.1 (exec (aenter api) {} w).2.2 =
    exec (transaction api handler) (entered api w).1 (entered api w).2 := rfl
  unfold run
  rw [answer_bind, answer_code, started]
  simp only [answer_bind, answer_code, exec_withBody, same]
  rcases exec (transaction api handler) (entered api w).1 (entered api w).2 with ⟨raised | result, uow, w'⟩
  · simp only [Outcome.mapError_error, answer_bind, answer_code]
    rcases exec (aexit api (some (translated raised))) uow w' with ⟨_ | _, _, _⟩ <;> rfl
  · rfl

theorem answer_run_refused {api : SessionApi (StateM W)} (handler : HandlerProgram u α) {w : W}
    {raised : Exc} (refused : (exec (aenter api) {} w).1 = .error raised) :
    answer (run api handler) w = (.error raised, (exec (aenter api) {} w).2.2) := by
  unfold run
  rw [answer_bind, answer_code, refused]
  rfl

end PetBackend.Persistence
