import PetBackend.Persistence.Atomicity

/-!
# The life cycle of a unit of work

One unit of work, entered and left any number of times, over a session that records what it is asked
to open and to close.
-/

namespace PetBackend.Persistence
open Py

variable {W α : Type} {u : UnicodeData}

inductive SessionEvent where
  | opened (id : SessionId)
  | closed (id : SessionId) (outcome : Except Exc Unit)

/-- The sessions opened and closed, newest first, and what the repository factories raised. -/
structure Record where
  events : List SessionEvent := []
  refusals : List Exc := []

def recording (note : α → Record → Record) (call : StateM W α) : StateM (W × Record) α := fun state =>
  let answered := answer call state.1
  (answered.1, answered.2, note answered.1 state.2)

def refusal : Except Exc Unit → Record → Record
  | .ok (), record => record
  | .error raised, record => { record with refusals := raised :: record.refusals }

def Record.add (event : SessionEvent) (record : Record) : Record :=
  { record with events := event :: record.events }

def recorded (api : SessionApi (StateM W)) : SessionApi (StateM (W × Record)) where
  sessionFactory := recording (fun s => Record.add (.opened s)) api.sessionFactory
  orgsRepoFactory s := recording refusal (api.orgsRepoFactory s)
  usersRepoFactory s := recording refusal (api.usersRepoFactory s)
  membershipsRepoFactory s := recording refusal (api.membershipsRepoFactory s)
  add s values := recording (fun _ => id) (api.add s values)
  execute s statement := recording (fun _ => id) (api.execute s statement)
  flush s := recording (fun _ => id) (api.flush s)
  refresh s attrs := recording (fun _ => id) (api.refresh s attrs)
  commit s := recording (fun _ => id) (api.commit s)
  rollback s := recording (fun _ => id) (api.rollback s)
  close s := recording (fun outcome => Record.add (.closed s outcome)) (api.close s)
  now := recording (fun _ => id) api.now

theorem answer_recording (note : α → Record → Record) (call : StateM W α) (w : W) (record : Record) :
    answer (recording note call) (w, record) = ((answer call w).1, (answer call w).2, note (answer call w).1 record) :=
  rfl

/-! ### Runs -/

def accessors {m : Type → Type} [Monad m] : List (String × Py m SessionId) :=
  [("session", session), ("orgs", orgs), ("memberships", memberships), ("users", users)]

structure Stage (W : Type) where
  /-- Between an `__aenter__` that returned and the end of its `__aexit__`. -/
  inside : Bool
  uow : UnitOfWork
  world : W
  record : Record

def Stage.initial (w : W) : Stage W := ⟨false, {}, w, {}⟩

/-- How the code ends, and the stage it leaves. -/
def Stage.evaluate (s : Stage W) (code : Py (StateM (W × Record)) α) : Except Exc α × UnitOfWork × W × Record :=
  exec code s.uow (s.world, s.record)

def Stage.after (s : Stage W) (inside : Bool) (code : Py (StateM (W × Record)) α) : Stage W :=
  ⟨inside, (s.evaluate code).2.1, (s.evaluate code).2.2.1, (s.evaluate code).2.2.2⟩

section
variable (u : UnicodeData) (api : SessionApi (StateM W))

def Stage.enter (s : Stage W) : Stage W :=
  s.after (s.evaluate (aenter (recorded api))).1.isOk (aenter (recorded api))

def Stage.exit (s : Stage W) (exc : Option Exc) : Stage W := s.after false (aexit (recorded api) exc)

def Stage.perform (s : Stage W) (op : UowOp u) : Stage W :=
  s.after s.inside (Persistence.perform (recorded api) op)

/-- The calls may also come outside a cycle. An exception of theirs may be caught or end the block. -/
inductive Stage.Step : Stage W → Stage W → Prop where
  | enter {s : Stage W} (outside : s.inside = false) : Step s (s.enter api)
  /-- `self._sf()` raises, before anything is assigned. -/
  | refused {s : Stage W} (outside : s.inside = false) (w' : W) : Step s { s with world := w' }
  | access {s : Stage W} {entry : String × Py (StateM (W × Record)) SessionId} (listed : entry ∈ accessors) :
      Step s (s.after s.inside entry.2)
  | perform {s : Stage W} (op : UowOp u) : Step s (s.perform u api op)
  | exit {s : Stage W} (inside : s.inside = true) (exc : Option Exc) : Step s (s.exit api exc)

/-- The stages of a run, newest first. -/
inductive Stage.Run : List (Stage W) → Prop where
  | start (w : W) : Run [.initial w]
  | step {s s' : Stage W} {past : List (Stage W)} (ran : Run (s :: past)) (moved : Stage.Step u api s s') :
      Run (s' :: s :: past)

end

/-! ### The life cycle -/

/-- `close` was awaited once on every session opened, before the next was opened. -/
inductive Settled : List SessionEvent → Prop where
  | nil : Settled []
  | closed {events : List SessionEvent} {id : SessionId} {outcome : Except Exc Unit}
      (settled : Settled events) : Settled (.closed id outcome :: .opened id :: events)

/-- The session last opened is set and the repositories are bound to it. -/
def Bound (s : Stage W) : Prop :=
  ∃ id events, s.record.events = .opened id :: events ∧ Settled events ∧
    s.uow.session = some id ∧ s.uow.orgs = some id ∧ s.uow.users = some id ∧ s.uow.memberships = some id

structure Cleared (s : Stage W) : Prop where
  unset : s.uow = {}
  refuses : ∀ entry ∈ accessors, s.evaluate entry.2 =
    (.error (.uowNotInitialized entry.1), s.uow, s.world, s.record)
  settled : Settled s.record.events

structure LifeCycle (s : Stage W) : Prop where
  inside : s.inside = true → Bound s
  outside : s.inside = false → Cleared s

/-- Every `close` returned, and the repository factories raised nothing but `Exception`s. -/
structure Contained (record : Record) : Prop where
  closes : ∀ id raised, SessionEvent.closed id (.error raised) ∉ record.events
  refusals : ∀ raised ∈ record.refusals, raised.isException = true

/-! ### One step -/

section
variable {api : SessionApi (StateM W)}

theorem bindRepos_cases (api : SessionApi (StateM W)) (id : SessionId) (uow : UnitOfWork) (w : W) (record : Record) :
    (∃ w', exec (bindRepos (recorded api) id) uow (w, record) =
      (.ok (), ⟨some id, some id, some id, some id, uow.rolledBack⟩, w', record)) ∨
    ∃ raised uow' w', exec (bindRepos (recorded api) id) uow (w, record) =
      (.error raised, uow', w', { record with refusals := raised :: record.refusals }) ∧
      uow'.session = some id ∧ uow'.rolledBack = uow.rolledBack := by
  unfold bindRepos
  simp only [exec_bind, exec_write, exec_await, recorded, answer_recording]
  rcases answer (api.orgsRepoFactory id) w with ⟨raised | _, w'⟩
  · exact Or.inr ⟨raised, _, w', rfl, rfl, rfl⟩
  simp only [refusal, answer_recording]
  rcases answer (api.usersRepoFactory id) w' with ⟨raised | _, w'⟩
  · exact Or.inr ⟨raised, _, w', rfl, rfl, rfl⟩
  simp only [answer_recording]
  rcases answer (api.membershipsRepoFactory id) w' with ⟨raised | _, w'⟩
  · exact Or.inr ⟨raised, _, w', rfl, rfl, rfl⟩
  · exact Or.inl ⟨w', rfl⟩

/-- How `__aenter__` ends: it returns, or it raises and clears, or the `close` of its handler raises,
or the handler is passed by. -/
inductive Entered (id : SessionId) (s : Stage W) : Stage W → Prop where
  | returned (w' : W) : Entered id s ⟨true, ⟨some id, some id, some id, some id, s.uow.rolledBack⟩, w',
      ⟨.opened id :: s.record.events, s.record.refusals⟩⟩
  | cleared (w' : W) {raised : Exc} (caught : raised.isException = true) :
      Entered id s ⟨false, { rolledBack := s.uow.rolledBack }, w',
        ⟨.closed id (.ok ()) :: .opened id :: s.record.events, raised :: s.record.refusals⟩⟩
  | unclosed (w' : W) {uow' : UnitOfWork} {raised closing : Exc} (set : uow'.session = some id) :
      Entered id s ⟨false, uow', w',
        ⟨.closed id (.error closing) :: .opened id :: s.record.events, raised :: s.record.refusals⟩⟩
  | passed (w' : W) {uow' : UnitOfWork} {raised : Exc} (uncaught : raised.isException = false)
      (set : uow'.session = some id) :
      Entered id s ⟨false, uow', w', ⟨.opened id :: s.record.events, raised :: s.record.refusals⟩⟩

theorem enter_cases (api : SessionApi (StateM W)) (s : Stage W) : ∃ id, Entered id s (s.enter api) := by
  refine ⟨(answer api.sessionFactory s.world).1, ?_⟩
  unfold Stage.enter Stage.after Stage.evaluate
  rw [exec_aenter]
  have factory : answer (recorded api).sessionFactory (s.world, s.record) =
    ((answer api.sessionFactory s.world).1, (answer api.sessionFactory s.world).2,
      s.record.add (.opened (answer api.sessionFactory s.world).1)) := rfl
  rw [factory]
  rcases answer api.sessionFactory s.world with ⟨id, w⟩
  simp only
  rcases bindRepos_cases api id s.uow w (s.record.add (.opened id)) with
    ⟨w', ran⟩ | ⟨raised, uow', w', ran, set, mark⟩
  · rw [ran]
    exact .returned w'
  · rw [ran]
    cases caught : raised.isException with
    | false =>
      simp only [caught, Bool.false_eq_true, if_false]
      exact .passed w' caught set
    | true =>
      have close : ∀ record, answer ((recorded api).close id) (w', record) =
        ((answer (api.close id) w').1, (answer (api.close id) w').2,
          record.add (.closed id (answer (api.close id) w').1)) := fun _ => rfl
      simp only [caught, if_true, close]
      rcases answer (api.close id) w' with ⟨closing | _, w''⟩
      · exact .unclosed w'' set
      · simp only [mark]
        exact .cleared w'' caught

/-- How `__aexit__` ends on an open session. -/
inductive Exited (id : SessionId) (s : Stage W) : Stage W → Prop where
  | cleared (w' : W) : Exited id s ⟨false, {}, w', ⟨.closed id (.ok ()) :: s.record.events, s.record.refusals⟩⟩
  | unclosed (w' : W) {closing : Exc} :
      Exited id s ⟨false, s.uow, w', ⟨.closed id (.error closing) :: s.record.events, s.record.refusals⟩⟩

/-- The closing rollback leaves no trace in the record. -/
theorem closingRollback_record (api : SessionApi (StateM W)) (id : SessionId) (exc : Option Exc) (uow : UnitOfWork)
    (state : W × Record) :
    (exec (closingRollback (recorded api) id exc) uow state).2.2.2 = state.2 := by
  rw [exec_closingRollback]
  split
  · split <;> rename_i answered
    · exact congrArg (fun ended => ended.2.2) answered.symm
    · exact congrArg (fun ended => ended.2.2) answered.symm
  · rfl

theorem exit_cases (api : SessionApi (StateM W)) {s : Stage W} {id : SessionId} (active : s.uow.session = some id)
    (exc : Option Exc) : Exited id s (s.exit api exc) := by
  unfold Stage.exit Stage.after Stage.evaluate
  rw [exec_aexit_open active]
  have same := closingRollback_record api id exc s.uow (s.world, s.record)
  generalize exec (closingRollback (recorded api) id exc) s.uow (s.world, s.record) = ended at same
  rcases ended with ⟨outcome, uow', w', record⟩
  cases same
  have close : answer ((recorded api).close id) (w', s.record) =
    ((answer (api.close id) w').1, (answer (api.close id) w').2,
      s.record.add (.closed id (answer (api.close id) w').1)) := rfl
  simp only [close]
  rcases answer (api.close id) w' with ⟨closing | _, w''⟩
  · exact .unclosed w''
  · exact .cleared w''

theorem exit_unset (api : SessionApi (StateM W)) {s : Stage W} (idle : s.uow.session = none) (exc : Option Exc) :
    (s.exit api exc).record = s.record := by
  unfold Stage.exit Stage.after Stage.evaluate aexit
  rw [exec_bind, exec_read]
  simp only [idle]
  rfl

/-! ### Calls between the two -/

/-- The session and the repositories stay, and so does the record. -/
def bindingFrame (W : Type) : Frame (W × Record) where
  rel s t := (t.1.session = s.1.session ∧ t.1.orgs = s.1.orgs ∧ t.1.users = s.1.users ∧
    t.1.memberships = s.1.memberships) ∧ t.2.2 = s.2.2
  refl _ := ⟨⟨rfl, rfl, rfl, rfl⟩, rfl⟩
  trans a b := ⟨⟨b.1.1.trans a.1.1, b.1.2.1.trans a.1.2.1, b.1.2.2.1.trans a.1.2.2.1,
    b.1.2.2.2.trans a.1.2.2.2⟩, b.2.trans a.2⟩

theorem keeps_binding (api : SessionApi (StateM W)) (op : UowOp u) :
    (bindingFrame W).Holds (perform (recorded api) op) := by
  have admits : (bindingFrame W).Admits (recorded api) := by
    constructor <;> intros <;> intro uow state <;> exact ⟨⟨rfl, rfl, rfl, rfl⟩, rfl⟩
  exact holds_every admits (fun _ _ _ => ⟨⟨rfl, rfl, rfl, rfl⟩, rfl⟩) op

/-- Nothing can be marked on a unit of work that is not entered. -/
theorem perform_unset (api : SessionApi (StateM W)) (op : UowOp u) (w : W) :
    (exec (perform api op) {} w).2.1 = {} := by
  cases op <;> rfl

theorem accessors_slot {entry : String × Py (StateM W) SessionId} (listed : entry ∈ accessors) :
    ∃ slot, entry.2 = accessor entry.1 slot ∧ slot {} = none := by
  simp only [accessors, List.mem_cons, List.not_mem_nil, or_false] at listed
  rcases listed with rfl | rfl | rfl | rfl
  · exact ⟨UnitOfWork.session, rfl, rfl⟩
  · exact ⟨UnitOfWork.orgs, rfl, rfl⟩
  · exact ⟨UnitOfWork.memberships, rfl, rfl⟩
  · exact ⟨UnitOfWork.users, rfl, rfl⟩

theorem accessors_keep {entry : String × Py (StateM W) SessionId} (listed : entry ∈ accessors) (uow : UnitOfWork)
    (w : W) : (exec entry.2 uow w).2 = (uow, w) := by
  obtain ⟨slot, same, _⟩ := accessors_slot listed
  rw [same, exec_accessor]
  cases slot uow <;> rfl

theorem accessors_refuse {entry : String × Py (StateM W) SessionId} (listed : entry ∈ accessors) (w : W) :
    exec entry.2 {} w = (.error (.uowNotInitialized entry.1), {}, w) := by
  obtain ⟨slot, same, unset⟩ := accessors_slot listed
  rw [same, exec_accessor, unset]

/-! ### Whole runs -/

theorem cleared_of {s : Stage W} (unset : s.uow = {}) (settled : Settled s.record.events) : Cleared s := by
  refine ⟨unset, ?_, settled⟩
  intro entry listed
  unfold Stage.evaluate
  rw [unset]
  exact accessors_refuse listed _

theorem lifeCycle_inside {s : Stage W} (inside : s.inside = true) : LifeCycle s ↔ Bound s := by
  refine ⟨fun life => life.inside inside, fun bound => ⟨fun _ => bound, fun outside => ?_⟩⟩
  rw [inside] at outside
  cases outside

theorem lifeCycle_outside {s : Stage W} (outside : s.inside = false) :
    LifeCycle s ↔ s.uow = {} ∧ Settled s.record.events := by
  constructor
  · intro life
    exact ⟨(life.outside outside).unset, (life.outside outside).settled⟩
  · rintro ⟨unset, settled⟩
    refine ⟨fun inside => ?_, fun _ => cleared_of unset settled⟩
    rw [outside] at inside
    cases inside

section
variable {events : List SessionEvent} {refusals : List Exc} {id : SessionId} {outcome : Except Exc Unit} {raised : Exc}

theorem contained_nil : Contained {} := by
  refine ⟨fun _ _ => List.not_mem_nil, fun raised impossible => ?_⟩
  cases impossible

theorem contained_cons {event : SessionEvent} : Contained ⟨event :: events, refusals⟩ ↔
    (∀ id raised, event ≠ .closed id (.error raised)) ∧ Contained ⟨events, refusals⟩ := by
  constructor
  · intro contained
    refine ⟨fun s failed same => contained.closes s failed ?_,
      fun s failed member => contained.closes s failed (List.mem_cons_of_mem _ member), contained.refusals⟩
    rw [same]
    exact List.mem_cons_self
  · rintro ⟨returned, contained⟩
    refine ⟨fun s failed member => ?_, contained.refusals⟩
    rcases List.mem_cons.mp member with same | earlier
    · exact returned s failed same.symm
    · exact contained.closes s failed earlier

theorem contained_opened : Contained ⟨.opened id :: events, refusals⟩ ↔ Contained ⟨events, refusals⟩ := by
  rw [contained_cons]
  refine and_iff_right fun s failed same => ?_
  cases same

theorem contained_closed :
    Contained ⟨.closed id outcome :: events, refusals⟩ ↔ outcome = .ok () ∧ Contained ⟨events, refusals⟩ := by
  rw [contained_cons]
  refine and_congr_left fun _ => ?_
  cases outcome with
  | ok => simp
  | error failed => simp

theorem contained_refused :
    Contained ⟨events, raised :: refusals⟩ ↔ raised.isException = true ∧ Contained ⟨events, refusals⟩ := by
  constructor
  · intro contained
    exact ⟨contained.refusals raised List.mem_cons_self, contained.closes,
      fun other member => contained.refusals other (List.mem_cons_of_mem _ member)⟩
  · rintro ⟨caught, contained⟩
    refine ⟨contained.closes, fun other member => ?_⟩
    rcases List.mem_cons.mp member with rfl | earlier
    · exact caught
    · exact contained.refusals other earlier

end

/-- A stage that is not inside with its session set. -/
theorem not_lifeCycle {s : Stage W} {id : SessionId} (outside : s.inside = false) (set : s.uow.session = some id) :
    ¬ LifeCycle s := by
  intro life
  have unset := ((lifeCycle_outside outside).mp life).1
  rw [unset] at set
  cases set

/-- Across an `__aenter__` from a cleared stage the life cycle holds on exactly when the new answers
are as they should be. -/
theorem entered_life {s s' : Stage W} {id : SessionId} (entered : Entered id s s') (unset : s.uow = {})
    (settled : Settled s.record.events) (contained : Contained s.record) :
    LifeCycle s' ↔ Contained s'.record := by
  cases entered with
  | returned w' =>
    refine iff_of_true ((lifeCycle_inside rfl).mpr ?_) (contained_opened.mpr contained)
    exact ⟨id, s.record.events, rfl, settled, rfl, rfl, rfl, rfl⟩
  | cleared w' caught =>
    refine iff_of_true ((lifeCycle_outside rfl).mpr ⟨?_, settled.closed⟩) ?_
    · rw [unset]
    · exact contained_refused.mpr ⟨caught, contained_closed.mpr ⟨rfl, contained_opened.mpr contained⟩⟩
  | unclosed w' set =>
    refine iff_of_false (not_lifeCycle rfl set) fun contained => ?_
    exact contained.closes _ _ List.mem_cons_self
  | passed w' uncaught set =>
    refine iff_of_false (not_lifeCycle rfl set) fun contained => ?_
    have caught := contained.refusals _ List.mem_cons_self
    rw [uncaught] at caught
    cases caught

theorem exited_life {s s' : Stage W} {id : SessionId} (exited : Exited id s s') (set : s.uow.session = some id)
    {events : List SessionEvent} (opened : s.record.events = .opened id :: events) (settled : Settled events)
    (contained : Contained s.record) : LifeCycle s' ↔ Contained s'.record := by
  cases exited with
  | cleared w' =>
    refine iff_of_true ((lifeCycle_outside rfl).mpr ⟨rfl, ?_⟩) (contained_closed.mpr ⟨rfl, contained⟩)
    rw [opened]
    exact settled.closed
  | unclosed w' =>
    refine iff_of_false (not_lifeCycle rfl set) fun contained => ?_
    exact contained.closes _ _ List.mem_cons_self

/-- What a call leaves as it was. -/
theorem access_kept {s : Stage W} {entry : String × Py (StateM (W × Record)) SessionId} (listed : entry ∈ accessors) :
    s.after s.inside entry.2 = s := by
  unfold Stage.after Stage.evaluate
  rw [accessors_keep listed]

theorem perform_life {s : Stage W} (op : UowOp u) (life : LifeCycle s) :
    LifeCycle (s.perform u api op) := by
  obtain ⟨⟨session, orgs, users, memberships⟩, record⟩ := keeps_binding api op s.uow (s.world, s.record)
  cases inside : s.inside with
  | true =>
    obtain ⟨id, events, opened, settled, boundSession, boundOrgs, boundUsers, boundMemberships⟩ := life.inside inside
    exact (lifeCycle_inside (s := s.perform u api op) inside).mpr
      ⟨id, events, (congrArg Record.events record).trans opened, settled, session.trans boundSession,
        orgs.trans boundOrgs, users.trans boundUsers, memberships.trans boundMemberships⟩
  | false =>
    obtain ⟨unset, settled⟩ := (lifeCycle_outside inside).mp life
    refine (lifeCycle_outside (s := s.perform u api op) inside).mpr ⟨?_, ?_⟩
    · show (exec (perform (recorded api) op) s.uow (s.world, s.record)).2.1 = {}
      rw [unset]
      exact perform_unset (recorded api) op (s.world, s.record)
    · show Settled (exec (perform (recorded api) op) s.uow (s.world, s.record)).2.2.2.events
      rw [record]
      exact settled

theorem perform_record {s : Stage W} (op : UowOp u) : (s.perform u api op).record = s.record :=
  (keeps_binding api op s.uow (s.world, s.record)).2

theorem step_contained {s s' : Stage W} (moved : Stage.Step u api s s') (contained : Contained s'.record) :
    Contained s.record := by
  cases moved with
  | enter outside =>
    obtain ⟨id, entered⟩ := enter_cases api s
    generalize s.enter api = s' at entered contained
    cases entered with
    | returned w' => exact contained_opened.mp contained
    | cleared w' caught => exact contained_opened.mp (contained_closed.mp (contained_refused.mp contained).2).2
    | unclosed w' set => exact contained_opened.mp (contained_closed.mp (contained_refused.mp contained).2).2
    | passed w' uncaught set => exact contained_opened.mp (contained_refused.mp contained).2
  | refused outside w' => exact contained
  | access listed =>
    rw [access_kept listed] at contained
    exact contained
  | perform op =>
    rw [perform_record op] at contained
    exact contained
  | exit inside exc =>
    cases active : s.uow.session with
    | none =>
      rw [exit_unset api active exc] at contained
      exact contained
    | some id =>
      have exited := exit_cases api active exc
      generalize s.exit api exc = s' at exited contained
      cases exited with
      | cleared w' => exact (contained_closed.mp contained).2
      | unclosed w' => exact (contained_closed.mp contained).2

theorem step_life {s s' : Stage W} (moved : Stage.Step u api s s') (life : LifeCycle s)
    (contained : Contained s.record) : LifeCycle s' ↔ Contained s'.record := by
  cases moved with
  | enter outside =>
    obtain ⟨id, entered⟩ := enter_cases api s
    obtain ⟨unset, settled⟩ := (lifeCycle_outside outside).mp life
    exact entered_life entered unset settled contained
  | refused outside w' =>
    have cleared := (lifeCycle_outside outside).mp life
    exact iff_of_true ((lifeCycle_outside (s := { s with world := w' }) outside).mpr cleared) contained
  | access listed =>
    rw [access_kept listed]
    exact iff_of_true life contained
  | perform op =>
    rw [perform_record op]
    exact iff_of_true (perform_life op life) contained
  | exit inside exc =>
    obtain ⟨id, events, opened, settled, active, _⟩ := life.inside inside
    exact exited_life (exit_cases api active exc) active opened settled contained

/-- A run keeps to the life cycle exactly as long as every `close` returns and no repository factory
raises what is not an `Exception`. -/
theorem uow_life_cycle {latest : Stage W} {past : List (Stage W)} (ran : Stage.Run u api (latest :: past)) :
    (∀ s ∈ latest :: past, LifeCycle s) ↔ Contained latest.record := by
  generalize same : latest :: past = stages at ran
  induction ran generalizing latest past with
  | start w =>
    cases same
    refine iff_of_true ?_ contained_nil
    intro s member
    rw [List.mem_singleton.mp member]
    exact (lifeCycle_outside rfl).mpr ⟨rfl, .nil⟩
  | @step s s' earlier ran moved ih =>
    cases same
    rw [List.forall_mem_cons, ih rfl]
    constructor
    · rintro ⟨life, contained⟩
      exact (step_life moved ((ih rfl).mpr contained s List.mem_cons_self) contained).mp life
    · intro contained
      have before := step_contained moved contained
      exact ⟨(step_life moved ((ih rfl).mpr before s List.mem_cons_self) before).mpr contained, before⟩

end

/-! ### A sample run -/

def sampleEntered : Stage Memory := (Stage.initial {}).enter (memorySession rollbackFails).toSessionApi

def sampleRolledBack : Stage Memory :=
  sampleEntered.perform ⟨id, id⟩ (memorySession rollbackFails).toSessionApi .rollback

def sampleLeft : Stage Memory := sampleRolledBack.exit (memorySession rollbackFails).toSessionApi none

/-- The factory of the memberships repository raises. -/
def sampleRefused : Stage Memory := sampleLeft.enter (memorySession rollbackFails).toSessionApi

theorem sampleRefused_run : Stage.Run ⟨id, id⟩ (memorySession rollbackFails).toSessionApi
    [sampleRefused, sampleLeft, sampleRolledBack, sampleEntered, .initial {}] := by
  have entered : Stage.Step ⟨id, id⟩ _ (Stage.initial {}) sampleEntered := .enter rfl
  have rolledBack : Stage.Step ⟨id, id⟩ _ sampleEntered sampleRolledBack := .perform .rollback
  have left : Stage.Step ⟨id, id⟩ _ sampleRolledBack sampleLeft := .exit rfl none
  have refused : Stage.Step ⟨id, id⟩ _ sampleLeft sampleRefused := .enter rfl
  exact .step (.step (.step (.step (.start _) entered) rolledBack) left) refused

theorem uow_life_cycle_sample : LifeCycle sampleRolledBack ∧ LifeCycle sampleLeft ∧ LifeCycle sampleRefused := by
  have record : sampleRefused.record = ⟨[.closed 0 (.ok ()), .opened 0, .closed 0 (.ok ()), .opened 0],
    [.driver { errorClass := .osError }]⟩ := rfl
  have contained : Contained sampleRefused.record := by
    rw [record]
    refine contained_refused.mpr ⟨rfl, contained_closed.mpr ⟨rfl, contained_opened.mpr ?_⟩⟩
    exact contained_closed.mpr ⟨rfl, contained_opened.mpr contained_nil⟩
  have lives := (uow_life_cycle sampleRefused_run).mpr contained
  exact ⟨lives sampleRolledBack (by simp), lives sampleLeft (by simp), lives sampleRefused (by simp)⟩

/-- The connection is lost, so that `close` raises. -/
def unclosable : SessionApi (StateM Memory) :=
  { (memorySession fun _ => none).toSessionApi with
    close := fun _ w => (.error (.driver { errorClass := .operationalError }), w) }

def unclosedEntered : Stage Memory := (Stage.initial {}).enter unclosable

def unclosedRolledBack : Stage Memory := unclosedEntered.perform ⟨id, id⟩ unclosable .rollback

def unclosedLeft : Stage Memory := unclosedRolledBack.exit unclosable none

/-- A cycle is left with its session set and the mark of its rollback, which the next one inherits. -/
theorem unclosed_session_stays :
    Stage.Run ⟨id, id⟩ unclosable
      [unclosedLeft.enter unclosable, unclosedLeft, unclosedRolledBack, unclosedEntered, .initial {}] ∧
    unclosedLeft.inside = false ∧ unclosedLeft.uow = ⟨some 0, some 0, some 0, some 0, true⟩ ∧
    (unclosedLeft.evaluate session).1 = .ok 0 ∧ ¬ LifeCycle unclosedLeft ∧
    (unclosedLeft.enter unclosable).inside = true ∧ (unclosedLeft.enter unclosable).uow.rolledBack = true := by
  have entered : Stage.Step ⟨id, id⟩ unclosable (Stage.initial {}) unclosedEntered := .enter rfl
  have rolledBack : Stage.Step ⟨id, id⟩ unclosable unclosedEntered unclosedRolledBack := .perform .rollback
  have left : Stage.Step ⟨id, id⟩ unclosable unclosedRolledBack unclosedLeft := .exit rfl none
  have again : Stage.Step ⟨id, id⟩ unclosable unclosedLeft (unclosedLeft.enter unclosable) := .enter rfl
  refine ⟨.step (.step (.step (.step (.start _) entered) rolledBack) left) again, rfl, rfl, rfl, ?_, rfl, rfl⟩
  have set : unclosedLeft.uow.session = some 0 := rfl
  exact not_lifeCycle rfl set

end PetBackend.Persistence
