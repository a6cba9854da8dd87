import PetBackend.Persistence.Exec

/-!
# Transaction atomicity

A session is durable state and pending writes. What a handler made durable is decided by its own
commits and, if `run` returns, by the executor's.
-/

namespace PetBackend.Persistence
open Library Py

variable {W α β : Type} {u : UnicodeData}

inductive Write where
  | organization (values : OrganizationValues)
  | statement (statement : Statement)

def Statement.writes : Statement → List Write
  | .selectUser .. => []
  | statement => [.statement statement]

def UowOp.writes : UowOp u → List Write
  | .orgsCreate org => [.organization ⟨org.publicId.value, org.name.value⟩]
  | .membershipsCreate membership => [.statement (.insertMembership (membershipValues membership))]
  | .upsert user => [.statement (.upsertUser (userValues user) (userUpdate user))]
  | _ => []

/-- A session with durable state and pending writes. A call that raises leaves the durable state
alone, and any pending writes it likes. -/
structure TransactionalSession (W : Type) extends SessionApi (StateM W) where
  durable : W → List Write
  pending : W → List Write
  sessionFactory_durable : ∀ w, durable (answer sessionFactory w).2 = durable w
  sessionFactory_pending : ∀ w, pending (answer sessionFactory w).2 = []
  orgsRepo_kept : ∀ s w, durable (answer (orgsRepoFactory s) w).2 = durable w ∧
    pending (answer (orgsRepoFactory s) w).2 = pending w
  usersRepo_kept : ∀ s w, durable (answer (usersRepoFactory s) w).2 = durable w ∧
    pending (answer (usersRepoFactory s) w).2 = pending w
  membershipsRepo_kept : ∀ s w, durable (answer (membershipsRepoFactory s) w).2 = durable w ∧
    pending (answer (membershipsRepoFactory s) w).2 = pending w
  add_durable : ∀ s values w, durable (answer (add s values) w).2 = durable w
  add_pending : ∀ s values w,
    pending (answer (add s values) w).2 = pending w ++ [.organization values]
  execute_durable : ∀ s statement w, durable (answer (execute s statement) w).2 = durable w
  execute_pending : ∀ s statement w result, (answer (execute s statement) w).1 = .ok result →
    pending (answer (execute s statement) w).2 = pending w ++ statement.writes
  flush_durable : ∀ s w, durable (answer (flush s) w).2 = durable w
  flush_pending : ∀ s w, (answer (flush s) w).1 = .ok () →
    pending (answer (flush s) w).2 = pending w
  refresh_durable : ∀ s attrs w, durable (answer (refresh s attrs) w).2 = durable w
  refresh_pending : ∀ s attrs w, (answer (refresh s attrs) w).1 = .ok () →
    pending (answer (refresh s attrs) w).2 = pending w
  commit_raised : ∀ s w raised, (answer (commit s) w).1 = .error raised →
    durable (answer (commit s) w).2 = durable w
  commit_ok : ∀ s w, (answer (commit s) w).1 = .ok () →
    durable (answer (commit s) w).2 = durable w ++ pending w ∧ pending (answer (commit s) w).2 = []
  rollback_durable : ∀ s w, durable (answer (rollback s) w).2 = durable w
  rollback_pending : ∀ s w, (answer (rollback s) w).1 = .ok () →
    pending (answer (rollback s) w).2 = []
  close_ok : ∀ s w, (answer (close s) w).1 = .ok ()
  close_durable : ∀ s w, durable (answer (close s) w).2 = durable w
  now_kept : ∀ w, durable (answer now w).2 = durable w ∧ pending (answer now w).2 = pending w

namespace TransactionalSession

variable (db : TransactionalSession W)

structure Event (u : UnicodeData) where
  op : UowOp u
  succeeded : Bool
  durableAfter : List Write

def history : HandlerProgram u α → UnitOfWork → W → List (Event u)
  | .done _, _, _ => []
  | .call op next, uow, w =>
    let performed := exec (perform db.toSessionApi op) uow w
    ⟨op, performed.1.isOk, db.durable performed.2.2⟩ ::
      history (next performed.1) performed.2.1 performed.2.2

end TransactionalSession

open TransactionalSession

def UowOp.isCommit : UowOp u → Bool
  | .commit => true
  | _ => false

/-- The durable state left by the last own commit that succeeded, or the initial one. -/
def lastCommitted (initial : List Write) (events : List (Event u)) : List Write :=
  events.foldl (fun before event =>
    if event.op.isCommit && event.succeeded then event.durableAfter else before) initial

def UowOp.pendingAfter (before : List Write) : UowOp u → List Write
  | .commit | .rollback => []
  | op => before ++ op.writes

/-- The writes since the last own commit or rollback that succeeded. -/
def writesSince (before : List Write) (events : List (Event u)) : List Write :=
  events.foldl (fun before event =>
    if event.succeeded then event.op.pendingAfter before else before) before

def AlwaysRaises : HandlerProgram u α → Prop
  | .done outcome => ∃ raised, outcome = .error raised
  | .call _ next => ∀ answered, AlwaysRaises (next answered)

/-- A handler that lets every error of the unit of work propagate. It may clean up first. -/
def Propagates : HandlerProgram u α → Prop
  | .done _ => True
  | .call _ next => (∀ raised, AlwaysRaises (next (.error raised))) ∧
    ∀ value, Propagates (next (.ok value))

section
variable (db : TransactionalSession W)

def durableFrame : Frame W where
  rel s t := db.durable t.2 = db.durable s.2
  refl _ := rfl
  trans a b := b.trans a

theorem durable_admits : (durableFrame db).Admits db.toSessionApi where
  add s values _ w := db.add_durable s values w
  execute s statement _ w := db.execute_durable s statement w
  flush s _ w := db.flush_durable s w
  refresh s attrs _ w := db.refresh_durable s attrs w
  rollback s _ w := db.rollback_durable s w
  now _ w := (db.now_kept w).1
  mark _ _ := rfl

/-! ### One operation -/

/-- What code that returns adds to the pending writes. -/
def Yields (code : Py (StateM W) α) (added : List Write) : Prop :=
  ∀ uow w value, (exec code uow w).1 = .ok value →
    db.pending (exec code uow w).2.2 = db.pending w ++ added

variable {db}

theorem yields_keep {code : Py (StateM W) α}
    (kept : ∀ uow w value, (exec code uow w).1 = .ok value →
      db.pending (exec code uow w).2.2 = db.pending w) : Yields db code [] := by
  intro uow w value returned
  rw [kept uow w value returned, List.append_nil]

theorem yields_pure (value : α) : Yields db (pure value) [] := yields_keep fun _ _ _ _ => rfl

theorem yields_raise (raised : Exc) (added : List Write) :
    Yields db (raise raised : Py (StateM W) α) added := by
  intro uow w value returned
  cases returned

theorem yields_bind {first : Py (StateM W) α} {rest : α → Py (StateM W) β} {added later : List Write}
    (a : Yields db first added) (b : ∀ value, Yields db (rest value) later) :
    Yields db (first >>= rest) (added ++ later) := by
  intro uow w result returned
  have before := a uow w
  rw [exec_bind] at returned ⊢
  generalize exec first uow w = ended at before returned ⊢
  rcases ended with ⟨_ | value, uow', w'⟩
  · cases returned
  · rw [b value uow' w' result returned, before value rfl, List.append_assoc]

def Raises (code : Py (StateM W) α) : Prop := ∀ uow w value, (exec code uow w).1 ≠ .ok value

theorem yields_exceptDriver {body : Py (StateM W) α} {handler : DriverError → Py (StateM W) α}
    {added : List Write} (a : Yields db body added) (b : ∀ e, Raises (handler e)) :
    Yields db (exceptDriver body handler) added := by
  intro uow w result returned
  have before := a uow w
  rw [exec_exceptDriver] at returned ⊢
  generalize exec body uow w = ended at before returned ⊢
  rcases ended with ⟨raised | value, uow', w'⟩
  · cases raised with
    | driver e => exact (b e uow' w' result returned).elim
    | _ => cases returned
  · exact before value rfl

theorem raises_raise (raised : Exc) : Raises (raise raised : Py (StateM W) α) := by
  intro uow w value returned
  cases returned

theorem raises_bind {first : Py (StateM W) α} {rest : α → Py (StateM W) β}
    (b : ∀ value, Raises (rest value)) : Raises (first >>= rest) := by
  intro uow w result returned
  rw [exec_bind] at returned
  generalize exec first uow w = ended at returned
  rcases ended with ⟨_ | value, uow', w'⟩
  · cases returned
  · exact b value uow' w' result returned

theorem yields_accessor (field : String) (slot : UnitOfWork → Option SessionId) :
    Yields db (accessor field slot) [] := by
  refine yields_keep fun uow w id _ => ?_
  rw [exec_accessor]
  cases slot uow <;> rfl

theorem yields_repoExecute (repo : SessionId) (statement : Statement) :
    Yields db (repoExecute db.toSessionApi repo statement) statement.writes :=
  yields_exceptDriver (fun _ w result returned => db.execute_pending repo statement w result returned)
    fun _ => raises_raise _

theorem yields_method {field : String} {slot : UnitOfWork → Option SessionId} (statement : Statement)
    {rest : statement.Result → Py (StateM W) α} (b : ∀ result, Yields db (rest result) []) :
    Yields db (do rest (← repoExecute db.toSessionApi (← accessor field slot) statement))
      statement.writes := by
  have first : Yields db (accessor field slot) [] := yields_accessor field slot
  have yields := yields_bind first fun repo => yields_bind (yields_repoExecute repo statement) b
  simpa only [List.nil_append, List.append_nil] using yields

theorem yields_perform (op : UowOp u) (noCommit : op ≠ .commit) (noRollback : op ≠ .rollback) :
    Yields db (perform db.toSessionApi op) op.writes := by
  cases op with
  | orgsCreate org =>
    exact yields_bind (yields_accessor "orgs" UnitOfWork.orgs)
      fun repo _ w _ _ => db.add_pending repo _ w
  | membershipsCreate membership =>
    exact yields_bind (yields_accessor "memberships" UnitOfWork.memberships)
      fun repo => yields_repoExecute repo _
  | getByAuthIdentity issuer subject =>
    refine yields_method (.selectUser issuer subject) fun (rows : List UserORM) => ?_
    rcases rows with _ | ⟨orm, _ | _⟩
    · exact yields_pure _
    · exact yields_pure _
    · exact yields_raise _ _
  | upsert user =>
    refine yields_method (.upsertUser (userValues user) (userUpdate user))
      fun (rows : List (UserORM × Bool)) => ?_
    rcases rows with _ | ⟨row, _ | _⟩
    · exact yields_raise _ _
    · exact yields_pure _
    · exact yields_raise _ _
  | flush =>
    exact yields_exceptDriver (yields_bind (yields_accessor "session" UnitOfWork.session)
      fun id => yields_keep fun _ w _ returned => db.flush_pending id w returned)
      fun _ => raises_bind fun _ => raises_raise _
  | refresh attrs =>
    exact yields_exceptDriver (yields_bind (yields_accessor "session" UnitOfWork.session)
      fun id => yields_keep fun _ w _ returned => db.refresh_pending id attrs w returned)
      fun _ => raises_raise _
  | commit => exact (noCommit rfl).elim
  | rollback => exact (noRollback rfl).elim
  | now => exact yields_keep fun _ w _ _ => (db.now_kept w).2

/-- A call on the session: it never happens, or it decides how the code ends. -/
theorem exec_onSession (call : SessionId → StateM W (Except Exc Unit)) (uow : UnitOfWork) (w : W) :
    (exec (do await (call (← session))) uow w = (.error (.uowNotInitialized "session"), uow, w)) ∨
      ∃ id, exec (do await (call (← session))) uow w = ((answer (call id) w).1, uow, (answer (call id) w).2) := by
  cases active : uow.session with
  | none =>
    refine Or.inl ?_
    rw [exec_bind]
    unfold session
    rw [exec_accessor, active]
  | some id =>
    refine Or.inr ⟨id, ?_⟩
    rw [exec_bind, exec_session active]
    rfl

theorem raised_durable {code : Py (StateM W) α} (raises : Raises code)
    (kept : (durableFrame db).Holds code) (uow : UnitOfWork) (w : W) :
    ∃ raised, (exec code uow w).1 = .error raised ∧
      db.durable (exec code uow w).2.2 = db.durable w := by
  cases outcome : (exec code uow w).1 with
  | ok value => exact (raises uow w value outcome).elim
  | error raised => exact ⟨raised, rfl, kept uow w⟩

theorem commit_effect (db : TransactionalSession W) (uow : UnitOfWork) (w : W) :
    ((exec (commit db.toSessionApi) uow w).1 = .ok () ∧
      db.durable (exec (commit db.toSessionApi) uow w).2.2 = db.durable w ++ db.pending w ∧
      db.pending (exec (commit db.toSessionApi) uow w).2.2 = []) ∨
    ∃ raised, (exec (commit db.toSessionApi) uow w).1 = .error raised ∧
      db.durable (exec (commit db.toSessionApi) uow w).2.2 = db.durable w := by
  unfold commit
  rw [exec_exceptDriver]
  rcases exec_onSession db.commit uow w with idle | ⟨id, run⟩
  · rw [idle]
    exact Or.inr ⟨_, rfl, rfl⟩
  · rw [run]
    cases outcome : (answer (db.commit id) w).1 with
    | ok => exact Or.inl ⟨rfl, db.commit_ok id w outcome⟩
    | error raised =>
      have kept := db.commit_raised id w raised outcome
      refine Or.inr ?_
      cases raised with
      | driver e =>
        obtain ⟨raised, ends, after⟩ := raised_durable (raises_bind fun _ => raises_raise _)
          (holds_bind (holds_rollbackAfterFailure (durable_admits db)) fun _ => holds_raise
            (Exc.persistence (determineExc e))) uow (answer (db.commit id) w).2
        exact ⟨raised, ends, after.trans kept⟩
      | _ => exact ⟨_, rfl, kept⟩

theorem rollback_pending (uow : UnitOfWork) (w : W)
    (returned : (exec (rollback db.toSessionApi) uow w).1 = .ok ()) :
    db.pending (exec (rollback db.toSessionApi) uow w).2.2 = [] := by
  unfold rollback at returned ⊢
  rw [exec_exceptDriver, exec_bind] at returned ⊢
  cases active : uow.session with
  | none =>
    unfold session accessor at returned
    simp [active, notInitialized] at returned
  | some id =>
    rw [exec_session active] at returned ⊢
    simp only [exec_bind, exec_await] at returned ⊢
    have emptied := db.rollback_pending id w
    generalize answer (db.rollback id) w = answered at returned emptied ⊢
    rcases answered with ⟨raised | _, w'⟩
    · cases raised <;> cases returned
    · exact emptied rfl

/-! ### A whole handler -/

theorem runHandler_call (op : UowOp u) (next : op.Ret → HandlerProgram u α) (uow : UnitOfWork) (w : W) :
    exec (runHandler db.toSessionApi (.call op next)) uow w =
      exec (runHandler db.toSessionApi (next (exec (perform db.toSessionApi op) uow w).1))
        (exec (perform db.toSessionApi op) uow w).2.1 (exec (perform db.toSessionApi op) uow w).2.2 := by
  rw [runHandler, exec_bind, exec_attempt]

theorem perform_durable (op : UowOp u) (uow : UnitOfWork) (w : W)
    (other : (op.isCommit && (exec (perform db.toSessionApi op) uow w).1.isOk) = false) :
    db.durable (exec (perform db.toSessionApi op) uow w).2.2 = db.durable w := by
  by_cases commits : op = .commit
  · subst commits
    rcases commit_effect db uow w with ⟨returned, _, _⟩ | ⟨_, _, kept⟩
    · have ok : (exec (perform db.toSessionApi (.commit : UowOp u)) uow w).1.isOk = true := by
        show (exec (commit db.toSessionApi) uow w).1.isOk = true
        rw [returned]
        rfl
      simp [UowOp.isCommit, ok] at other
    · exact kept
  · exact holds_perform (durable_admits db) op commits uow w

theorem runHandler_durable (db : TransactionalSession W) (handler : HandlerProgram u α) (uow : UnitOfWork) (w : W) :
    db.durable (exec (runHandler db.toSessionApi handler) uow w).2.2 =
      lastCommitted (db.durable w) (db.history handler uow w) := by
  induction handler generalizing uow w with
  | done outcome =>
    rw [runHandler, exec_settle]
    rfl
  | call op next ih =>
    rw [runHandler_call, ih]
    simp only [history, lastCommitted, List.foldl_cons]
    congr 1
    split
    · rfl
    · rename_i other
      exact perform_durable op uow w (eq_false_of_ne_true other)

theorem perform_pending (op : UowOp u) (uow : UnitOfWork) (w : W) (value : op.Value)
    (returned : (exec (perform db.toSessionApi op) uow w).1 = .ok value) :
    db.pending (exec (perform db.toSessionApi op) uow w).2.2 = op.pendingAfter (db.pending w) := by
  cases op with
  | commit =>
    rcases commit_effect db uow w with ⟨_, _, emptied⟩ | ⟨_, failed, _⟩
    · exact emptied
    · cases returned.symm.trans failed
  | rollback => exact rollback_pending uow w returned
  | orgsCreate | membershipsCreate | getByAuthIdentity | upsert | flush | refresh | now =>
    exact yields_perform _ (by simp) (by simp) uow w value returned

theorem runHandler_pending (handler : HandlerProgram u α) (uow : UnitOfWork) (w : W)
    (succeeded : ∀ event ∈ db.history handler uow w, event.succeeded = true) :
    db.pending (exec (runHandler db.toSessionApi handler) uow w).2.2 =
      writesSince (db.pending w) (db.history handler uow w) := by
  induction handler generalizing uow w with
  | done outcome =>
    rw [runHandler, exec_settle]
    rfl
  | call op next ih =>
    simp only [history, List.forall_mem_cons] at succeeded
    rw [runHandler_call, ih _ _ _ succeeded.2]
    simp only [history, writesSince, List.foldl_cons, succeeded.1, if_true]
    congr 1
    cases outcome : (exec (perform db.toSessionApi op) uow w).1 with
    | ok value => exact perform_pending op uow w value outcome
    | error raised =>
      have impossible := succeeded.1
      rw [outcome] at impossible
      cases impossible

theorem alwaysRaises_runHandler {handler : HandlerProgram u α} (raises : AlwaysRaises handler)
    (uow : UnitOfWork) (w : W) (value : α) :
    (exec (runHandler db.toSessionApi handler) uow w).1 ≠ .ok value := by
  induction handler generalizing uow w with
  | done outcome =>
    obtain ⟨raised, rfl⟩ := raises
    rw [runHandler, exec_settle]
    exact fun impossible => by cases impossible
  | call op next ih =>
    rw [runHandler_call]
    exact ih _ (raises _) _ _

/-- A handler that propagates every error and returns has seen none. -/
theorem propagates_succeeded {handler : HandlerProgram u α} (propagates : Propagates handler)
    (uow : UnitOfWork) (w : W) {value : α}
    (returned : (exec (runHandler db.toSessionApi handler) uow w).1 = .ok value) :
    ∀ event ∈ db.history handler uow w, event.succeeded = true := by
  induction handler generalizing uow w with
  | done outcome => simp [history]
  | call op next ih =>
    rw [runHandler_call] at returned
    simp only [history, List.forall_mem_cons]
    cases outcome : (exec (perform db.toSessionApi op) uow w).1 with
    | ok answered =>
      rw [outcome] at returned
      exact ⟨rfl, ih _ (propagates.2 answered) _ _ returned⟩
    | error raised =>
      rw [outcome] at returned
      exact (alwaysRaises_runHandler (propagates.1 raised) _ _ value returned).elim

/-! ### The executor -/

def TransactionalSession.events (db : TransactionalSession W) (handler : HandlerProgram u α) (w : W) :
    List (Event u) :=
  match exec (aenter db.toSessionApi) {} w with
  | (.ok (), uow, w') => db.history handler uow w'
  | (.error _, _, _) => []

theorem durable_write (change : UnitOfWork → UnitOfWork) :
    (durableFrame db).Holds (write change) := fun _ _ => rfl

theorem aenter_durable (db : TransactionalSession W) : (durableFrame db).Holds (aenter db.toSessionApi) := by
  refine holds_bind (fun _ w => db.sessionFactory_durable w) fun id => ?_
  refine holds_bind (holds_attempt ?_) fun started => ?_
  · exact holds_bind (durable_write _) fun _ =>
      holds_bind (fun _ w => (db.orgsRepo_kept id w).1) fun _ => holds_bind (durable_write _) fun _ =>
      holds_bind (fun _ w => (db.usersRepo_kept id w).1) fun _ => holds_bind (durable_write _) fun _ =>
      holds_bind (fun _ w => (db.membershipsRepo_kept id w).1) fun _ => durable_write _
  · cases started with
    | ok => exact holds_pure _
    | error raised =>
      simp only
      split
      · exact holds_bind (fun _ w => db.close_durable id w) fun _ =>
          holds_bind (durable_write _) fun _ => holds_raise _
      · exact holds_raise _

theorem yields_bindRepos (db : TransactionalSession W) (id : SessionId) : Yields db (bindRepos db.toSessionApi id) [] := by
  have assigned : ∀ change, Yields db (write change : Py (StateM W) Unit) [] :=
    fun _ => yields_keep fun _ _ _ _ => rfl
  exact yields_bind (assigned _) fun _ =>
    yields_bind (yields_keep fun _ w _ _ => (db.orgsRepo_kept id w).2) fun _ =>
    yields_bind (assigned _) fun _ =>
    yields_bind (yields_keep fun _ w _ _ => (db.usersRepo_kept id w).2) fun _ =>
    yields_bind (assigned _) fun _ =>
    yields_bind (yields_keep fun _ w _ _ => (db.membershipsRepo_kept id w).2) fun _ => assigned _

theorem aenter_pending (w : W) (entered : (exec (aenter db.toSessionApi) {} w).1 = .ok ()) :
    db.pending (exec (aenter db.toSessionApi) {} w).2.2 = [] := by
  have opened := db.sessionFactory_pending w
  have bound := yields_bindRepos db (answer db.sessionFactory w).1 {}
    (answer db.sessionFactory w).2
  rw [exec_aenter] at entered ⊢
  generalize exec (bindRepos db.toSessionApi (answer db.sessionFactory w).1) {}
    (answer db.sessionFactory w).2 = ended at bound entered ⊢
  rcases ended with ⟨raised | _, uow', w'⟩
  · simp only at entered
    split at entered
    · split at entered <;> cases entered
    · cases entered
  · exact (bound () rfl).trans (by rw [opened]; rfl)

theorem aexit_durable (db : TransactionalSession W) (exc : Option Exc) : (durableFrame db).Holds (aexit db.toSessionApi exc) := by
  refine holds_bind (holds_read _) fun active => ?_
  cases active with
  | none => exact holds_raise _
  | some id =>
    refine holds_bind (holds_attempt (holds_exceptDriver (holds_bind (holds_read _) fun marked => ?_)
      fun _ => holds_raise _)) fun closing => ?_
    · split
      · exact (durable_admits db).rollback id
      · exact holds_pure _
    · exact holds_bind (holds_accessor _ _) fun id =>
        holds_bind (fun _ w => db.close_durable id w) fun _ =>
        holds_bind (durable_write _) fun _ => holds_settle _

theorem transaction_effect (db : TransactionalSession W) (handler : HandlerProgram u α) (uow : UnitOfWork) (w : W) :
    (∀ raised, (exec (transaction db.toSessionApi handler) uow w).1 = .error raised →
      db.durable (exec (transaction db.toSessionApi handler) uow w).2.2 =
        lastCommitted (db.durable w) (db.history handler uow w)) ∧
    ∀ value, (exec (transaction db.toSessionApi handler) uow w).1 = .ok value →
      (exec (runHandler db.toSessionApi handler) uow w).1 = .ok value ∧
      ((∀ event ∈ db.history handler uow w, event.succeeded = true) →
        db.durable (exec (transaction db.toSessionApi handler) uow w).2.2 =
          lastCommitted (db.durable w) (db.history handler uow w) ++
            writesSince (db.pending w) (db.history handler uow w)) := by
  have durable := runHandler_durable db handler uow w
  have pending : (∀ event ∈ db.history handler uow w, event.succeeded = true) → _ :=
    runHandler_pending handler uow w
  unfold transaction
  rw [exec_bind]
  generalize exec (runHandler db.toSessionApi handler) uow w = ended at durable pending ⊢
  rcases ended with ⟨raised | result, uow', w'⟩
  · exact ⟨fun _ _ => durable, fun value impossible => by cases impossible⟩
  · simp only [exec_bind, exec_pure]
    rcases commit_effect db uow' w' with ⟨returned, appended, _⟩ | ⟨raised, failed, kept⟩
    · generalize exec (commit db.toSessionApi) uow' w' = committed at returned appended ⊢
      rcases committed with ⟨_, uow'', w''⟩
      cases returned
      refine ⟨fun raised impossible => (by cases impossible), fun value same => ?_⟩
      cases same
      exact ⟨rfl, fun succeeded => by rw [appended, durable, pending succeeded]⟩
    · generalize exec (commit db.toSessionApi) uow' w' = committed at failed kept ⊢
      rcases committed with ⟨_, uow'', w''⟩
      cases failed
      exact ⟨fun _ _ => kept.trans durable, fun value impossible => by cases impossible⟩

/-- A run that raises leaves what the handler committed itself. A run that returns adds the writes
since, if the handler lets every failure propagate or if there was none. -/
structure Atomic (db : TransactionalSession W) (handler : HandlerProgram u α) (w : W) : Prop where
  raised : ∀ raised, (answer (run db.toSessionApi handler) w).1 = .error raised →
    db.durable (answer (run db.toSessionApi handler) w).2 =
      lastCommitted (db.durable w) (db.events handler w)
  returned : ∀ value, (answer (run db.toSessionApi handler) w).1 = .ok value →
    (exec (runHandler db.toSessionApi handler) (entered db.toSessionApi w).1
      (entered db.toSessionApi w).2).1 = .ok value ∧
    (Propagates handler ∨ (∀ event ∈ db.events handler w, event.succeeded = true) →
      db.durable (answer (run db.toSessionApi handler) w).2 =
        lastCommitted (db.durable w) (db.events handler w) ++ writesSince [] (db.events handler w))

theorem run_atomic (db : TransactionalSession W) (handler : HandlerProgram u α) (w : W) :
    Atomic db handler w := by
  have opened := aenter_durable db {} w
  cases started : (exec (aenter db.toSessionApi) {} w).1 with
  | error refused =>
    have none : db.events handler w = [] := by
      unfold TransactionalSession.events
      generalize exec (aenter db.toSessionApi) {} w = ended at started
      rcases ended with ⟨_, _, _⟩
      cases started
      rfl
    refine ⟨fun _ _ => ?_, fun value returned => ?_⟩
    · rw [answer_run_refused handler started, none]
      exact opened
    · rw [answer_run_refused handler started] at returned
      cases returned
  | ok =>
    have happened : db.events handler w =
        db.history handler (entered db.toSessionApi w).1 (entered db.toSessionApi w).2 := by
      unfold TransactionalSession.events entered
      generalize exec (aenter db.toSessionApi) {} w = ended at started
      rcases ended with ⟨_, _, _⟩
      cases started
      rfl
    have emptied : db.pending (entered db.toSessionApi w).2 = [] := aenter_pending w started
    have unchanged : db.durable (entered db.toSessionApi w).2 = db.durable w := opened
    obtain ⟨id, active⟩ := aenter_session started
    have kept := (keeps_session db.toSessionApi handler (entered db.toSessionApi w).1
      (entered db.toSessionApi w).2).trans active
    obtain ⟨failed, ended⟩ :=
      transaction_effect db handler (entered db.toSessionApi w).1 (entered db.toSessionApi w).2
    have left := answer_run handler started
    rw [emptied] at ended
    rw [unchanged] at failed ended
    generalize exec (transaction db.toSessionApi handler) (entered db.toSessionApi w).1
      (entered db.toSessionApi w).2 = final at kept failed ended left
    rcases final with ⟨raised | result, uow, w'⟩ <;> simp only at left
    · have closing := aexit_durable db (some (translated raised)) uow w'
      refine ⟨fun _ _ => ?_, fun value returned => ?_⟩
      · rw [left, happened]
        exact closing.trans (failed raised rfl)
      · rw [left] at returned
        generalize exec (aexit db.toSessionApi (some (translated raised))) uow w' = final at returned
        rcases final with ⟨_ | _, _, _⟩ <;> cases returned
    · have closing := aexit_durable db none uow w'
      have closed : (exec (aexit db.toSessionApi none) uow w').1 = .ok () := by
        rw [exec_aexit db.close_ok kept, exec_closingRollback]
        rfl
      obtain ⟨returnedOwn, extended⟩ := ended result rfl
      rw [closed] at left
      refine ⟨fun raised impossible => ?_, fun value returned => ?_⟩
      · rw [left] at impossible
        cases impossible
      · rw [left] at returned
        cases returned
        refine ⟨returnedOwn, fun fine => ?_⟩
        rw [left, happened]
        refine closing.trans (extended ?_)
        rcases fine with propagates | succeeded
        · exact propagates_succeeded propagates _ _ returnedOwn
        · rw [← happened]
          exact succeeded

end

/-! ### A session in memory -/

structure Memory where
  durable : List Write := []
  pending : List Write := []
  calls : Nat := 0

def scripted (fails : Nat → Option Exc) (value : α) (change : Memory → Memory) :
    StateM Memory (Except Exc α) := fun w =>
  match fails w.calls with
  | some raised => (.error raised, { w with calls := w.calls + 1 })
  | none => (.ok value, { change w with calls := w.calls + 1 })

theorem scripted_kept {fails : Nat → Option Exc} {value : α} {change : Memory → Memory} {β : Type}
    (part : Memory → β) (uncounted : ∀ w calls, part { w with calls := calls } = part w)
    (unchanged : ∀ w, part (change w) = part w) (w : Memory) :
    part (answer (scripted fails value change) w).2 = part w := by
  unfold scripted
  simp only [answer, StateT.run]
  split
  · exact uncounted w _
  · exact (uncounted (change w) _).trans (unchanged w)

theorem idle_kept {fails : Nat → Option Exc} {value : α} {w : Memory} :
    (answer (scripted fails value id) w).2.durable = w.durable ∧
      (answer (scripted fails value id) w).2.pending = w.pending :=
  ⟨scripted_kept Memory.durable (fun _ _ => rfl) (fun _ => rfl) w,
    scripted_kept Memory.pending (fun _ _ => rfl) (fun _ => rfl) w⟩

theorem scripted_ok {fails : Nat → Option Exc} {value result : α} {change : Memory → Memory}
    {w : Memory} (succeeded : (answer (scripted fails value change) w).1 = .ok result) :
    (answer (scripted fails value change) w).2 = { change w with calls := w.calls + 1 } := by
  unfold scripted at succeeded ⊢
  simp only [answer, StateT.run] at succeeded ⊢
  split at succeeded
  · cases succeeded
  · rfl

theorem scripted_raised {fails : Nat → Option Exc} {value : α} {change : Memory → Memory} {w : Memory}
    {raised : Exc} (failed : (answer (scripted fails value change) w).1 = .error raised) :
    (answer (scripted fails value change) w).2 = { w with calls := w.calls + 1 } := by
  unfold scripted at failed ⊢
  simp only [answer, StateT.run] at failed ⊢
  split at failed
  · rfl
  · cases failed

def rowsOf : (statement : Statement) → statement.Result
  | .selectUser .. => ([] : List UserORM)
  | .insertMembership _ => ()
  | .upsertUser .. => ([] : List (UserORM × Bool))

/-- Durable and pending writes in memory, every call but `close` failing by script. -/
def memorySession (fails : Nat → Option Exc) : TransactionalSession Memory where
  sessionFactory := fun w => (0, { w with pending := [] })
  orgsRepoFactory _ := scripted fails () id
  usersRepoFactory _ := scripted fails () id
  membershipsRepoFactory _ := scripted fails () id
  add _ values := fun w => ((), { w with pending := w.pending ++ [.organization values] })
  execute _ statement := scripted fails (rowsOf statement)
    fun w => { w with pending := w.pending ++ statement.writes }
  flush _ := scripted fails () id
  refresh _ _ := scripted fails () id
  commit _ := scripted fails () fun w => { w with durable := w.durable ++ w.pending, pending := [] }
  rollback _ := scripted fails () ({ · with pending := [] })
  close _ := fun w => (.ok (), { w with pending := [] })
  now := fun w => (w.calls, w)
  durable := Memory.durable
  pending := Memory.pending
  sessionFactory_durable _ := rfl
  sessionFactory_pending _ := rfl
  orgsRepo_kept _ _ := idle_kept
  usersRepo_kept _ _ := idle_kept
  membershipsRepo_kept _ _ := idle_kept
  add_durable _ _ _ := rfl
  add_pending _ _ _ := rfl
  execute_durable _ _ w := scripted_kept Memory.durable (fun _ _ => rfl) (fun _ => by rfl) w
  execute_pending _ _ _ _ succeeded := by rw [scripted_ok succeeded]
  flush_durable _ _ := idle_kept.1
  flush_pending _ _ _ := idle_kept.2
  refresh_durable _ _ _ := idle_kept.1
  refresh_pending _ _ _ _ := idle_kept.2
  commit_raised _ _ _ failed := by rw [scripted_raised failed]
  commit_ok _ _ succeeded := by
    rw [scripted_ok succeeded]
    exact ⟨rfl, rfl⟩
  rollback_durable _ w := scripted_kept Memory.durable (fun _ _ => rfl) (fun _ => by rfl) w
  rollback_pending _ _ succeeded := by rw [scripted_ok succeeded]
  close_ok _ _ := rfl
  close_durable _ _ := rfl
  now_kept _ := ⟨rfl, rfl⟩

def cancelledHandler (membership : Membership) : HandlerProgram ⟨id, id⟩ Unit :=
  .call (.membershipsCreate membership) fun _ => .call .commit fun _ =>
    .call (.membershipsCreate membership) fun _ => .done (.error (.other "CancelledError"))

def sampleMembership : Membership := ⟨⟨3⟩, ⟨2⟩, ⟨1⟩, .owner⟩

def rollbackFails : Nat → Option Exc
  | 6 => some (.driver { errorClass := .osError })
  | _ => none

theorem run_atomic_sample : (memorySession rollbackFails).durable
    (answer (run (memorySession rollbackFails).toSessionApi (cancelledHandler sampleMembership)) {}).2 =
      [.statement (.insertMembership (membershipValues sampleMembership))] := by
  have raised : (answer (run (memorySession rollbackFails).toSessionApi
      (cancelledHandler sampleMembership)) {}).1 =
        .error (.persistence (determineExc { errorClass := .osError })) := rfl
  have atomic := (run_atomic (memorySession rollbackFails) (cancelledHandler sampleMembership) {}).raised
    _ raised
  exact atomic.trans rfl

end PetBackend.Persistence
