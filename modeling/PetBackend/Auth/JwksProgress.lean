import PetBackend.Auth.JwksLicense
import PetBackend.Library.Parties

/-!
# No call waits for ever

A call has at most three steps, and the lock is held only by a call that is fetching. So whatever the JWKS server
answers, and whoever is cancelled, all calls end.
-/

namespace PetBackend.Auth
open Library

variable {K : Type}

/-- The steps it may still take. -/
def Task.rank : Task K → Nat
  | .idle => 3
  | .waiting _ | .startWaiting => 2
  | .fetching _ _ _ | .startFetching => 1
  | .done _ _ | .started _ | .cancelled => 0

def Task.Pending : Task K → Prop
  | .waiting _ | .fetching _ _ _ | .startWaiting | .startFetching => True
  | _ => False

def Held (s : System K) : Prop := ∀ i, s.lock = some i → ∃ ticket, (s.tasks i).ticket? i = some ticket

/-- Nobody is cancelled on the way. -/
def Undisturbed (s t : System K) : Prop := ∀ i, t.tasks i = .cancelled → s.tasks i = .cancelled

/-- Only the first `n` calls are ever made. -/
def Among (n : Nat) (s : System K) : Prop := ∀ i, n ≤ i → s.tasks i = .idle

def StepAmong (p : JWKSProvider) (fromDict : JsonObject → Except PyExc (List (PyJWK K))) (n : Nat) (s t : System K) :
    Prop :=
  Step p fromDict s t ∧ Among n t

def AllEnded (s : System K) : Prop := s.lock = none ∧ ∀ i, ¬ (s.tasks i).Pending

section
variable {p : JWKSProvider} {fromDict : JsonObject → Except PyExc (List (PyJWK K))} {s t : System K} {i : Nat}
  {task : Task K}

theorem setTask_self : (s.setTask i task).tasks i = task := by simp [System.setTask]

theorem setTask_other {j : Nat} (other : j ≠ i) : (s.setTask i task).tasks j = s.tasks j := by
  simp [System.setTask, other]

theorem task_lowers {u : System K} (tasks : u.tasks = (s.setTask i task).tasks)
    (lower : task.rank < (s.tasks i).rank) :
    ∃ i, (u.tasks i).rank < (s.tasks i).rank ∧ ∀ j, j ≠ i → u.tasks j = s.tasks j := by
  refine ⟨i, ?_, fun j other => ?_⟩
  · rw [tasks, setTask_self]
    exact lower
  · rw [tasks, setTask_other other]

theorem ticket_rank {ticket : Ticket} (fetching : task.ticket? i = some ticket) : task.rank = 1 := by
  cases task <;> first | rfl | cases fetching

theorem ticket_pending {ticket : Ticket} (fetching : task.ticket? i = some ticket) : task.Pending := by
  cases task <;> trivial

/-- A step is one task's. -/
theorem step_rank (step : Step p fromDict s t) :
    ∃ i, (t.tasks i).rank < (s.tasks i).rank ∧ ∀ j, j ≠ i → t.tasks j = s.tasks j := by
  cases step with
  | fast idle | queue idle | startQueue idle =>
    refine task_lowers rfl ?_
    rw [idle]
    simp [Task.rank]
  | hit waiting | limited waiting | fetch waiting | startFetch waiting =>
    refine task_lowers rfl ?_
    rw [waiting]
    simp [Task.rank]
  | answer fetching | startAnswer fetching =>
    refine task_lowers rfl ?_
    rw [fetching]
    simp [Task.rank]
  | cancelWaiting waiting =>
    refine task_lowers rfl ?_
    rcases waiting with ⟨kid, waiting⟩ | waiting <;> rw [waiting] <;> simp [Task.rank]
  | cancelFetching fetching =>
    refine task_lowers rfl ?_
    rw [ticket_rank fetching]
    simp [Task.rank]

/-! ### The lock -/

theorem keep_held {u : System K} (held : Held s) (other : (s.tasks i).ticket? i = none)
    (tasks : u.tasks = (s.setTask i task).tasks) (lock : u.lock = s.lock) : Held u := by
  intro j holds
  obtain ⟨ticket, fetching⟩ := held j (lock ▸ holds)
  refine ⟨ticket, ?_⟩
  rw [tasks, setTask_other]
  · exact fetching
  · rintro rfl
    cases other.symm.trans fetching

theorem take_held {u : System K} {ticket : Ticket} (tasks : u.tasks = (s.setTask i task).tasks)
    (lock : u.lock = some i) (fetching : task.ticket? i = some ticket) : Held u := by
  intro j holds
  cases holds.symm.trans lock
  exact ⟨ticket, by rw [tasks, setTask_self]; exact fetching⟩

theorem free_held {u : System K} (lock : u.lock = none) : Held u := by
  intro j holds
  cases holds.symm.trans lock

theorem step_held (held : Held s) (step : Step p fromDict s t) : Held t := by
  cases step with
  | fast idle | queue idle | startQueue idle => exact keep_held held (by rw [idle]; rfl) rfl rfl
  | hit waiting | limited waiting => exact keep_held held (by rw [waiting]; rfl) rfl rfl
  | fetch | startFetch => exact take_held rfl rfl rfl
  | answer | startAnswer | cancelFetching => exact free_held rfl
  | cancelWaiting waiting =>
    refine keep_held held ?_ rfl rfl
    rcases waiting with ⟨kid, waiting⟩ | waiting <;> rw [waiting] <;> rfl

theorem reachable_held (reached : Reachable p fromDict s) : Held s := by
  induction reached with
  | initial clock => exact free_held rfl
  | step _ step ih => exact step_held ih step

/-! ### Who can go on -/

theorem undisturbed {u : System K} (tasks : u.tasks = (s.setTask i task).tasks) (settled : task ≠ .cancelled) :
    Undisturbed s u := by
  intro j cancelled
  by_cases same : j = i
  · subst same
    rw [tasks, setTask_self] at cancelled
    exact (settled cancelled).elim
  · rw [tasks, setTask_other same] at cancelled
    exact cancelled

/-- The holder of the lock goes on with any answer at any time. -/
theorem holder_moves {ticket : Ticket} (fetching : (s.tasks i).ticket? i = some ticket) (exchange : HttpExchange)
    {now : ℚ} (clock : s.clock ≤ now) : ∃ t, Step p fromDict s t ∧ Undisturbed s t ∧
      ∀ j, j ≠ i → t.tasks j = s.tasks j := by
  obtain ⟨⟨outcome, provider⟩, run⟩ : ∃ result, refresh p fromDict exchange now s.provider = result := ⟨_, rfl⟩
  cases task : s.tasks i with
  | fetching kid key ticket =>
    exact ⟨_, .answer task clock run, undisturbed rfl nofun, fun j other => setTask_other other⟩
  | startFetching => exact ⟨_, .startAnswer task clock run, undisturbed rfl nofun, fun j other => setTask_other other⟩
  | _ =>
    rw [task] at fetching
    cases fetching

/-- When the lock is free, anyone who waits for it can take it. -/
theorem waiter_moves (free : s.lock = none) (pending : (s.tasks i).Pending)
    (waits : (s.tasks i).ticket? i = none) : ∃ t, Step p fromDict s t ∧ Undisturbed s t ∧
      ∀ j, j ≠ i → t.tasks j = s.tasks j := by
  cases task : s.tasks i with
  | waiting kid =>
    cases run : getSigningKeyLocked p s.provider kid s.clock s.clock with
    | mk locked provider =>
      cases locked with
      | hit key => exact ⟨_, .hit task free (le_refl _) (le_refl _) run, undisturbed rfl nofun, fun j other => setTask_other other⟩
      | raised error =>
        exact ⟨_, .limited task free (le_refl _) (le_refl _) run, undisturbed rfl nofun, fun j other => setTask_other other⟩
      | fetch key marked =>
        exact ⟨_, .fetch task free (le_refl _) (le_refl _) run, undisturbed rfl nofun, fun j other => setTask_other other⟩
  | startWaiting => exact ⟨_, .startFetch task free, undisturbed rfl nofun, fun j other => setTask_other other⟩
  | fetching | startFetching =>
    rw [task] at waits
    cases waits
  | _ =>
    rw [task] at pending
    exact pending.elim

/-- So no call can be left waiting for one that never comes. -/
theorem somebody_moves (reached : Reachable p fromDict s) (open' : ¬ AllEnded s) :
    ∃ i, (s.tasks i).Pending ∧ ∃ t, Step p fromDict s t ∧ Undisturbed s t ∧ ∀ j, j ≠ i → t.tasks j = s.tasks j := by
  cases lock : s.lock with
  | some holder =>
    obtain ⟨ticket, fetching⟩ := reachable_held reached holder lock
    exact ⟨holder, ticket_pending fetching, holder_moves fetching (.error .keyError) (le_refl _)⟩
  | none =>
    have waiter : ∃ i, (s.tasks i).Pending := by
      by_contra nobody
      exact open' ⟨lock, not_exists.mp nobody⟩
    obtain ⟨i, pending⟩ := waiter
    cases fetching : (s.tasks i).ticket? i with
    | some ticket => exact ⟨i, pending, holder_moves fetching (.error .keyError) (le_refl _)⟩
    | none => exact ⟨i, pending, waiter_moves lock pending fetching⟩

theorem among_pending {n : Nat} (among : Among n s) (pending : (s.tasks i).Pending) : i < n := by
  by_contra beyond
  rw [among i (Nat.le_of_not_lt beyond)] at pending
  exact pending

theorem among_step {n : Nat} (among : Among n s) (later : Among n t) (step : Step p fromDict s t) :
    ∃ i, i < n ∧ (t.tasks i).rank < (s.tasks i).rank ∧ ∀ j, j ≠ i → t.tasks j = s.tasks j := by
  obtain ⟨i, lower, others⟩ := step_rank step
  refine ⟨i, ?_, lower, others⟩
  by_contra beyond
  rw [among i (Nat.le_of_not_lt beyond), later i (Nat.le_of_not_lt beyond)] at lower
  exact lt_irrefl _ lower

theorem calls_end (reached : Reachable p fromDict s) {n : Nat} (among : Among n s) :
    Inevitable (StepAmong p fromDict n) (fun s t => StepAmong p fromDict n s t ∧ Undisturbed s t) AllEnded s := by
  refine parties_end Nat.lt_wfRel.wf (fun s => Reachable p fromDict s ∧ Among n s)
    (fun s (i : Fin n) => (s.tasks i).rank) ?_ ?_ ?_ ⟨reached, among⟩
  · exact fun s t valid moved => ⟨.step valid.1 moved.1, moved.2⟩
  · rintro s t ⟨-, among⟩ ⟨step, later⟩
    obtain ⟨i, below, lower, others⟩ := among_step among later step
    exact ⟨⟨i, below⟩, lower, fun j other => congrArg Task.rank (others j fun same => other (Fin.ext same))⟩
  · rintro s ⟨reached, among⟩ open'
    obtain ⟨i, pending, t, step, calm, others⟩ := somebody_moves reached open'
    refine ⟨t, ⟨step, fun j beyond => ?_⟩, calm⟩
    rw [others j (ne_of_gt (lt_of_lt_of_le (among_pending among pending) beyond))]
    exact among j beyond

end

theorem calls_end_sample : Inevitable (StepAmong sampleProvider sampleFromDict 3)
    (fun s t => StepAmong sampleProvider sampleFromDict 3 s t ∧ Undisturbed s t) AllEnded sampleForced := by
  refine calls_end sampleForced_reachable fun i beyond => ?_
  have first : i ≠ 0 := by omega
  have third : i ≠ 2 := by omega
  simp [sampleForced, sampleStarted, System.setTask, first, third]

end PetBackend.Auth
