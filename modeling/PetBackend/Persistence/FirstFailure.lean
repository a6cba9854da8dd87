import PetBackend.Persistence.Exec

/-!
# Which exception leaves a transaction

The first failure is translated inside `async with`, but the closing rollback runs outside it, and
`__aexit__` raises when that rollback fails.
-/

namespace PetBackend.Persistence
open Library Py

variable {W α : Type} {u : UnicodeData}

/-- The repository constructors only assign, closing does not raise, and a rollback raises nothing
but an `SQLAlchemyError` or an `OSError`. -/
structure WellBehaved (api : SessionApi (StateM W)) : Prop where
  orgsRepo : ∀ s w, (answer (api.orgsRepoFactory s) w).1 = .ok ()
  usersRepo : ∀ s w, (answer (api.usersRepoFactory s) w).1 = .ok ()
  membershipsRepo : ∀ s w, (answer (api.membershipsRepoFactory s) w).1 = .ok ()
  close : ∀ s w, (answer (api.close s) w).1 = .ok ()
  rollback : ∀ s w raised, (answer (api.rollback s) w).1 = .error raised → ∃ e, raised = .driver e

section
variable (api : SessionApi (StateM W)) (handler : HandlerProgram u α) (w : W)

/-- The handler and the executor's commit: their own outcome, before the `except` clauses. -/
def ended : Except Exc α × UnitOfWork × W :=
  exec (transaction api handler) (entered api w).1 (entered api w).2

/-- The rollback that `__aexit__` issues for an exception, unless one succeeded before, raises. -/
def ClosingRollbackFails : Prop :=
  (∃ raised, (ended api handler w).1 = .error raised) ∧ (ended api handler w).2.1.rolledBack = false ∧
    ∃ id raised, (ended api handler w).2.1.session = some id ∧
      (answer (api.rollback id) (ended api handler w).2.2).1 = .error raised

/-- The outcome of `run` is that of the handler and the commit, translated, and no
`PersistenceError` gets out. -/
structure FirstFailureDecides : Prop where
  decided : (answer (run api handler) w).1 = (ended api handler w).1.mapError translated
  translatedAway : ∀ e, (answer (run api handler) w).1 ≠ .error (.persistence e)

end

theorem translated_not_persistence (raised : Exc) (e : PersistenceError) :
    translated raised ≠ .persistence e := by
  cases raised <;> simp [translated]

section
variable {api : SessionApi (StateM W)}

theorem entered_session (h : WellBehaved api) (w : W) :
    (exec (aenter api) {} w).1 = .ok () ∧
      ∃ id, (entered api w).1 = ⟨some id, some id, some id, some id, false⟩ := by
  have orgs := h.orgsRepo (answer api.sessionFactory w).1
  have users := h.usersRepo (answer api.sessionFactory w).1
  have memberships := h.membershipsRepo (answer api.sessionFactory w).1
  refine ⟨?_, (answer api.sessionFactory w).1, ?_⟩
  · simp [aenter, bindRepos, orgs, users, memberships]
  · simp [entered, aenter, bindRepos, orgs, users, memberships]

theorem run_outcome (h : WellBehaved api) (handler : HandlerProgram u α) (w : W) {id : SessionId}
    (active : (ended api handler w).2.1.session = some id) :
    (answer (run api handler) w).1 = match (ended api handler w).1 with
      | .ok result => .ok result
      | .error raised =>
        match (exec (closingRollback api id (some (translated raised)))
          (ended api handler w).2.1 (ended api handler w).2.2).1 with
        | .ok () => .error (translated raised)
        | .error replacing => .error replacing := by
  rw [answer_run handler (entered_session h w).1]
  have same : exec (transaction api handler) (entered api w).1 (entered api w).2 =
    ended api handler w := rfl
  rw [same]
  generalize ended api handler w = final at active
  rcases final with ⟨raised | result, uow, w'⟩
  · simp only [exec_aexit h.close active]
    rcases exec (closingRollback api id (some (translated raised))) uow w' with ⟨_ | _, _, _⟩ <;> rfl
  · simp only [exec_aexit h.close active, exec_closingRollback]
    rfl

theorem closing_raises {id : SessionId} {uow : UnitOfWork} {w : W} {e : DriverError} {raised : Exc}
    (unmarked : uow.rolledBack = false) (failed : (answer (api.rollback id) w).1 = .error (.driver e)) :
    (exec (closingRollback api id (some raised)) uow w).1 = .error (.persistence (determineExc e)) := by
  rw [exec_closingRollback, if_pos ⟨rfl, unmarked⟩]
  generalize answer (api.rollback id) w = answered at failed
  rcases answered with ⟨_, w'⟩
  cases failed
  rfl

theorem closing_returns {id : SessionId} {uow : UnitOfWork} {w : W} {raised : Exc}
    (fine : uow.rolledBack = false → ∀ replacing, (answer (api.rollback id) w).1 ≠ .error replacing) :
    (exec (closingRollback api id (some raised)) uow w).1 = .ok () := by
  rw [exec_closingRollback]
  split
  · rename_i rolls
    have returned := fine rolls.2
    generalize answer (api.rollback id) w = answered at returned
    rcases answered with ⟨replacing | _, w'⟩
    · exact (returned replacing rfl).elim
    · rfl
  · rfl

/-- What leaves `run` is decided by the first failure exactly when the closing rollback, if there is
one, succeeds. -/
theorem first_failure_decides (h : WellBehaved api) (handler : HandlerProgram u α) (w : W) :
    FirstFailureDecides api handler w ↔ ¬ ClosingRollbackFails api handler w := by
  obtain ⟨_, id, opened⟩ := entered_session h w
  have active : (ended api handler w).2.1.session = some id := by
    have kept := keeps_session api handler (entered api w).1 (entered api w).2
    exact kept.trans (by rw [opened])
  have outcome := run_outcome h handler w active
  constructor
  · rintro ⟨decided, _⟩ ⟨⟨raised, failed⟩, unmarked, other, replacing, sameSession, rollbackRaised⟩
    obtain rfl : other = id := Option.some.inj (sameSession.symm.trans active)
    obtain ⟨e, rfl⟩ := h.rollback _ _ _ rollbackRaised
    have closing : (exec (closingRollback api other (some (translated raised))) (ended api handler w).2.1
        (ended api handler w).2.2).1 = _ := closing_raises unmarked rollbackRaised
    rw [decided, failed] at outcome
    simp only [closing] at outcome
    exact translated_not_persistence raised _ (Except.error.inj outcome)
  · intro fine
    have decided : (answer (run api handler) w).1 = (ended api handler w).1.mapError translated := by
      cases failed : (ended api handler w).1 with
      | ok result =>
        rw [outcome, failed]
        rfl
      | error raised =>
        have returned : (ended api handler w).2.1.rolledBack = false →
            ∀ replacing, (answer (api.rollback id) (ended api handler w).2.2).1 ≠ .error replacing :=
          fun unmarked replacing rolls => fine ⟨⟨raised, failed⟩, unmarked, id, replacing, active, rolls⟩
        simp only [outcome, failed, closing_returns returned, Outcome.mapError_error]
    refine ⟨decided, fun e leaves => ?_⟩
    rw [decided] at leaves
    cases failed : (ended api handler w).1 with
    | ok result => simp [failed, Outcome.mapError_ok] at leaves
    | error raised =>
      rw [failed] at leaves
      exact translated_not_persistence raised e (Except.error.inj leaves)

end

/-! ### A sample session -/

/-- A session on nothing, whose rollback fails with an `OSError` when asked to. -/
def idleSession (rollbackFails : Bool) : SessionApi (StateM Unit) where
  sessionFactory := pure 0
  orgsRepoFactory _ := pure (.ok ())
  usersRepoFactory _ := pure (.ok ())
  membershipsRepoFactory _ := pure (.ok ())
  add _ _ := pure ()
  execute _ _ := pure (.error (.other "NotImplementedError"))
  flush _ := pure (.ok ())
  refresh _ _ := pure (.ok ())
  commit _ := pure (.ok ())
  rollback _ := pure (if rollbackFails then .error (.driver { errorClass := .osError }) else .ok ())
  close _ := pure (.ok ())
  now := pure 0

theorem idleSession_wellBehaved (rollbackFails : Bool) : WellBehaved (idleSession rollbackFails) where
  orgsRepo _ _ := rfl
  usersRepo _ _ := rfl
  membershipsRepo _ _ := rfl
  close _ _ := rfl
  rollback s w raised failed := by
    cases rollbackFails <;> cases failed
    exact ⟨_, rfl⟩

def raisingHandler : HandlerProgram ⟨id, id⟩ Unit := .done (.error (.other "RuntimeError"))

theorem first_failure_decides_sample : FirstFailureDecides (idleSession false) raisingHandler () := by
  refine (first_failure_decides (idleSession_wellBehaved false) _ _).mpr ?_
  rintro ⟨_, _, _, _, _, failed⟩
  cases failed

/-- The rollback on closing fails, and its `PersistenceError` replaces the handler's exception. -/
theorem first_failure_replaced : WellBehaved (idleSession true) ∧
    ¬ FirstFailureDecides (idleSession true) raisingHandler () ∧
    (ended (idleSession true) raisingHandler ()).1 = .error (.other "RuntimeError") ∧
    (answer (run (idleSession true) raisingHandler) ()).1 =
      .error (.persistence (determineExc { errorClass := .osError })) :=
  ⟨idleSession_wellBehaved true, fun decides => decides.translatedAway _ rfl, rfl, rfl⟩

end PetBackend.Persistence
