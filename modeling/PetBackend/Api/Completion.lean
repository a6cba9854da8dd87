import PetBackend.Api.Answers

/-!
# Every request comes to an end

A request has finitely many steps left, and waits only for the lock of the key provider, whose holder can go on, and
for the database, which answers some call of those that wait for it.
-/

namespace PetBackend.Api
open Library Auth Persistence Postgres Outcome

variable {K : Type}

/-- Of the calls that wait, some one is answered: a server finds deadlocks and breaks them. -/
def Live (server : Server) : Prop :=
  ∀ (calls : List (Nat × DbOp)) (d : Database), calls ≠ [] →
    ∃ call ∈ calls, ∃ answer after, server.step call.1 call.2 d answer after

/-- The phase that a phase leads to. -/
inductive Phase.After : Phase → Phase → Prop where
  | refused (raised : RouteExc) (response : Option Response) : After (.refused raised response) .arrived
  | verifying (kid : String) : After (.verifying kid) .arrived
  | rejected (kid : String) (raised : RouteExc) (response : Option Response) :
      After (.refused raised response) (.verifying kid)
  | running (kid : String) (job : Job) (program : Program DbOp DbOp.Ret (Except Exc JobResult)) :
      After (.running job program) (.verifying kid)
  | dropped (kid : String) : After .dropped (.verifying kid)
  | called (job : Job) (op : DbOp) (next : op.Ret → Program DbOp DbOp.Ret (Except Exc JobResult)) (answer : op.Ret) :
      After (.running job (next answer)) (.running job (.call op next))
  | finished (job : Job) (outcome : Except Exc JobResult) (response : Option Response) :
      After (.finished job outcome response) (.running job (.done outcome))

/-- The request was answered, or was cancelled in its lookup or in its transaction. -/
def Phase.Closed (phase : Phase) : Prop :=
  (∃ response, phase.response? = some response) ∨ phase = .dropped ∨
    ∃ job raised, phase = .finished job (.error raised) none ∧ raised.isException = false

/-- Only the first `n` requests are ever sent. -/
def Service.Among (n : Nat) (s : Service K) : Prop := ∀ i, n ≤ i → s.phases i = .arrived

def Service.StepAmong (a : App K) (n : Nat) (s t : Service K) : Prop := Service.Step a s t ∧ t.Among n

/-- What becomes of a request's lookup while the request waits for it. -/
structure Lookups (s : Service K) : Prop where
  started : s.keys.tasks 0 = .started (.ok ())
  idle : ∀ i, s.phases i = .arrived → s.keys.tasks (i + 1) = .idle
  tied : ∀ i kid, s.phases i = .verifying kid → s.keys.tasks (i + 1) = .idle ∨
    s.keys.tasks (i + 1) = .cancelled ∨ (s.keys.tasks (i + 1)).kid? = some kid

/-! ### The steps of a request -/

theorem ended_accessible {phase : Phase} (ended : phase.Ended) : Acc Phase.After phase := by
  constructor
  intro after moved
  cases moved <;> exact ended.elim

theorem running_accessible (job : Job) (program : Program DbOp DbOp.Ret (Except Exc JobResult)) :
    Acc Phase.After (.running job program) := by
  induction program with
  | done outcome =>
    constructor
    intro after moved
    cases moved with
    | finished => exact ended_accessible trivial
  | call op next ih =>
    constructor
    intro after moved
    cases moved with
    | called _ _ _ answer => exact ih answer

theorem verifying_accessible (kid : String) : Acc Phase.After (.verifying kid) := by
  constructor
  intro after moved
  cases moved with
  | rejected | dropped => exact ended_accessible trivial
  | running _ job program => exact running_accessible job program

theorem after_wellFounded : WellFounded Phase.After := by
  constructor
  intro phase
  cases phase with
  | arrived =>
    constructor
    intro after moved
    cases moved with
    | refused => exact ended_accessible trivial
    | verifying kid => exact verifying_accessible kid
  | verifying kid => exact verifying_accessible kid
  | running job program => exact running_accessible job program
  | refused | finished | dropped => exact ended_accessible trivial

section
variable {a : App K} {s t : Service K} {i n : Nat}

/-- A step is a request's, or the key provider's. -/
theorem service_step (moved : Service.Step a s t) :
    (∃ i, Phase.After (t.phases i) (s.phases i) ∧ t.keys = s.keys ∧ ∀ j, j ≠ i → t.phases j = s.phases j) ∨
      (Auth.Step a.provider a.fromDict s.keys t.keys ∧ MakesLookups s t.keys ∧ t.phases = s.phases) := by
  have one {i : Nat} (phase : Phase) (after : Phase.After phase (s.phases i)) (u : Service K) (keys : u.keys = s.keys)
      (phases : u.phases = (s.setPhase i phase).phases) :
      ∃ i, Phase.After (u.phases i) (s.phases i) ∧ u.keys = s.keys ∧ ∀ j, j ≠ i → u.phases j = s.phases j := by
    refine ⟨i, ?_, keys, fun j other => ?_⟩
    · rw [phases, setPhase_self]
      exact after
    · rw [phases, setPhase_other other]
  cases moved with
  | unreadable arrived | refuse arrived => exact Or.inl (one _ (by rw [arrived]; exact .refused _ _) _ rfl rfl)
  | lookup arrived => exact Or.inl (one _ (by rw [arrived]; exact .verifying _) _ rfl rfl)
  | keys moved calls => exact Or.inr ⟨moved, calls, rfl⟩
  | accept verifying => exact Or.inl (one _ (by rw [verifying]; exact .running _ _ _) _ rfl rfl)
  | reject verifying => exact Or.inl (one _ (by rw [verifying]; exact .rejected _ _ _) _ rfl rfl)
  | drop verifying => exact Or.inl (one _ (by rw [verifying]; exact .dropped _) _ rfl rfl)
  | call running => exact Or.inl (one _ (by rw [running]; exact .called _ _ _ _) _ rfl rfl)
  | finish running => exact Or.inl (one _ (by rw [running]; exact .finished _ _ _) _ rfl rfl)

/-! ### Its lookup -/

theorem lookups_setPhase {phase : Phase} (lookups : Lookups s) (arrives : phase ≠ .arrived)
    (waits : ∀ kid, phase = .verifying kid → s.phases i = .arrived) : Lookups (s.setPhase i phase) where
  started := lookups.started
  idle j arrived := by
    by_cases same : j = i
    · subst same
      rw [setPhase_self] at arrived
      exact (arrives arrived).elim
    · rw [setPhase_other same] at arrived
      exact lookups.idle j arrived
  tied j kid verifying := by
    by_cases same : j = i
    · subst same
      rw [setPhase_self] at verifying
      exact Or.inl (lookups.idle j (waits kid verifying))
    · rw [setPhase_other same] at verifying
      exact lookups.tied j kid verifying

theorem lookups_keys {keys : System K} (lookups : Lookups s) (step : Auth.Step a.provider a.fromDict s.keys keys)
    (calls : MakesLookups s keys) : Lookups { s with keys := keys } where
  started := calls.start.trans lookups.started
  idle i arrived := by
    by_contra moved
    obtain ⟨kid, verifying, -⟩ := calls.lookups i (lookups.idle i arrived) moved
    cases arrived.symm.trans verifying
  tied i kid verifying := by
    show keys.tasks (i + 1) = .idle ∨ keys.tasks (i + 1) = .cancelled ∨ (keys.tasks (i + 1)).kid? = some kid
    rcases lookups.tied i kid verifying with idle | cancelled | sought
    · by_cases moved : keys.tasks (i + 1) = .idle
      · exact Or.inl moved
      · obtain ⟨own, waits, sought⟩ := calls.lookups i idle moved
        cases verifying.symm.trans waits
        exact Or.inr (Or.inr sought)
    · exact Or.inr (Or.inl (cancelled_stays step cancelled))
    · rcases step_kid step sought with sought | cancelled
      · exact Or.inr (Or.inr sought)
      · exact Or.inr (Or.inl cancelled)

theorem lookups_step (lookups : Lookups s) (moved : Service.Step a s t) : Lookups t := by
  cases moved with
  | unreadable | refuse | accept | reject | drop | finish => exact lookups_setPhase lookups nofun nofun
  | lookup arrived => exact lookups_setPhase lookups nofun fun _ _ => arrived
  | keys moved calls => exact lookups_keys lookups moved calls
  | @call i job op next answer after running called =>
    have kept : Lookups (s.setPhase i (.running job (next answer))) := lookups_setPhase lookups nofun nofun
    exact ⟨kept.started, kept.idle, kept.tied⟩

theorem reachable_lookups (reached : Service.Reachable a s) : Lookups s := by
  induction reached with
  | initial booted =>
    exact ⟨booted.started, fun i _ => booted.idle i, fun i kid verifying => by cases verifying⟩
  | step _ moved ih => exact lookups_step ih moved

/-! ### Somebody can go on -/

/-- A step that cancels nobody's lookup. -/
def Service.Calm (s t : Service K) : Prop := Undisturbed s.keys t.keys

/-- A step that the request can take by itself. -/
def Goes (a : App K) (i : Nat) (s : Service K) : Prop :=
  ∃ t, Service.Step a s t ∧ s.Calm t ∧ ∀ j, j ≠ i → t.phases j = s.phases j

theorem goes_setPhase {phase : Phase} (moved : Service.Step a s (s.setPhase i phase)) : Goes a i s :=
  ⟨_, moved, fun _ cancelled => cancelled, fun _ other => setPhase_other other⟩

theorem goes_keys {keys : System K} (step : Auth.Step a.provider a.fromDict s.keys keys) (calls : MakesLookups s keys)
    (calm : Undisturbed s.keys keys) : Goes a i s :=
  ⟨_, .keys step calls, calm, fun _ _ => rfl⟩

theorem arrived_goes (arrived : s.phases i = .arrived) : Goes a i s := by
  cases sought : soughtKid a.verifier a.jwt (a.requests i).credentials with
  | some kid => exact goes_setPhase (.lookup arrived sought)
  | none =>
    have alike (outcome : Except PyExc (PyJWK K)) : a.accept i outcome = a.accept i (.error .keyError) := by
      have same : getCurrentPrincipal a.verifier a.jwt (fun _ => outcome) (a.requests i).credentials =
          getCurrentPrincipal a.verifier a.jwt (fun _ => .error .keyError) (a.requests i).credentials :=
        getCurrentPrincipal_congr fun kid other => by cases sought.symm.trans other
      unfold App.accept
      rw [same]
    cases accepted : a.accept i (.error .keyError) with
    | error raised => exact goes_setPhase (.refuse arrived sought fun outcome => (alike outcome).trans accepted)
    | ok job =>
      obtain ⟨principal, verified, -⟩ := accept_ok accepted
      obtain ⟨kid, other⟩ := principal_sought verified
      cases sought.symm.trans other

/-- The lookup is begun, or it has ended, or whoever holds or gets the lock goes on. -/
theorem verifying_goes (reached : Service.Reachable a s) {kid : String} (verifying : s.phases i = .verifying kid) :
    Goes a i s := by
  have lookups := reachable_lookups reached
  rcases lookups.tied i kid verifying with idle | cancelled | sought
  · have own {u : System K} {task : Auth.Task K} (tasks : u.tasks = (s.keys.setTask (i + 1) task).tasks)
        (about : task.kid? = some kid) : MakesLookups s u := by
      constructor
      · rw [tasks, setTask_other (Nat.succ_ne_zero i).symm]
      · intro j idle moved
        by_cases same : j = i
        · subst same
          exact ⟨kid, verifying, by rw [tasks, setTask_self]; exact about⟩
        · rw [tasks, setTask_other fun other => same (Nat.succ.inj other)] at moved
          exact (moved idle).elim
    cases run : getSigningKeyFast a.provider s.keys.provider kid s.keys.clock with
    | some key => exact goes_keys (.fast idle (le_refl _) run) (own rfl rfl) (undisturbed rfl nofun)
    | none => exact goes_keys (.queue idle (le_refl _) run) (own rfl rfl) (undisturbed rfl nofun)
  · exact goes_setPhase (.drop verifying cancelled)
  · by_cases open' : AllEnded s.keys
    · cases task : s.keys.tasks (i + 1) with
      | done own outcome =>
        rw [task] at sought
        cases sought
        cases accepted : a.accept i outcome with
        | ok job => exact goes_setPhase (.accept verifying task accepted)
        | error raised => exact goes_setPhase (.reject verifying task accepted)
      | waiting | fetching => exact (open'.2 (i + 1) (by rw [task]; trivial)).elim
      | _ =>
        rw [task] at sought
        cases sought
    · obtain ⟨j, pending, keys, step, calm, others⟩ := somebody_moves (service_inv reached).keys open'
      refine goes_keys step ⟨?_, ?_⟩ calm
      · refine others 0 ?_
        rintro rfl
        rw [lookups.started] at pending
        exact pending
      · intro k idle moved
        refine (moved ?_).elim
        rw [others (k + 1)]
        · exact idle
        · rintro rfl
          rw [idle] at pending
          exact pending

/-- The calls that requests wait for. -/
def Service.calls (s : Service K) (n : Nat) : List (Nat × DbOp) :=
  (List.range n).filterMap fun i => match s.phases i with
    | .running _ (.call op _) => some (i, op)
    | _ => none

theorem mem_calls {op : DbOp} : (i, op) ∈ s.calls n ↔ i < n ∧ ∃ job next, s.phases i = .running job (.call op next) := by
  simp only [Service.calls, List.mem_filterMap, List.mem_range]
  constructor
  · rintro ⟨j, below, found⟩
    split at found
    · rename_i job other next running
      cases found
      exact ⟨below, job, next, running⟩
    · cases found
  · rintro ⟨below, job, next, running⟩
    exact ⟨i, below, by rw [running]⟩

/-- The database answers one of the calls, if not this one. -/
theorem calling_goes (live : Live a.server) (below : i < n) {job : Job} {op : DbOp}
    {next : op.Ret → Program DbOp DbOp.Ret (Except Exc JobResult)} (running : s.phases i = .running job (.call op next)) :
    ∃ j, j < n ∧ Goes a j s := by
  have pending : s.calls n ≠ [] := List.ne_nil_of_mem (mem_calls.mpr ⟨below, job, next, running⟩)
  obtain ⟨⟨j, other⟩, member, answer, after, called⟩ := live (s.calls n) s.store pending
  obtain ⟨small, own, rest, waits⟩ := mem_calls.mp member
  refine ⟨j, small, _, .call waits called, fun _ cancelled => cancelled, fun k different => ?_⟩
  exact setPhase_other different

theorem somebody_goes (live : Live a.server) (reached : Service.Reachable a s) (below : i < n)
    (unended : ¬ (s.phases i).Ended) : ∃ j, j < n ∧ Goes a j s := by
  cases phase : s.phases i with
  | arrived => exact ⟨i, below, arrived_goes phase⟩
  | verifying kid => exact ⟨i, below, verifying_goes reached phase⟩
  | running job program =>
    cases program with
    | done outcome => exact ⟨i, below, goes_setPhase (.finish phase)⟩
    | call op next => exact calling_goes live below phase
  | refused | finished | dropped =>
    rw [phase] at unended
    exact (unended trivial).elim

/-! ### The end -/

theorem ended_closed (documented : a.framework.Documented) (inv : s.Inv a) (ended : (s.phases i).Ended) :
    (s.phases i).Closed := by
  cases phase : s.phases i with
  | refused raised sent =>
    have fits : Fits a i (.refused raised sent) := phase ▸ inv.fits i
    obtain ⟨response, content, answered, -⟩ := respond_error (i := i) documented raised
    refine Or.inl ⟨response, ?_⟩
    rw [fits.2, answered]
    rfl
  | finished job outcome sent =>
    have answer := finished_answer inv phase
    cases outcome with
    | ok result =>
      rw [App.answer, respond_ok] at answer
      exact Or.inl ⟨_, answer⟩
    | error raised =>
      by_cases caught : raised.isException
      · obtain ⟨response, content, answered, -⟩ := respond_error (i := i) documented (.ofExecutor raised)
        rw [App.answer, if_pos caught, answered] at answer
        exact Or.inl ⟨response, answer⟩
      · rw [App.answer, if_neg caught] at answer
        subst answer
        exact Or.inr (Or.inr ⟨job, raised, rfl, Bool.eq_false_of_not_eq_true caught⟩)
  | dropped => exact Or.inr (Or.inl rfl)
  | _ =>
    rw [phase] at ended
    exact ended.elim

/-- What each of the first `n` requests has left to do: its phases, and the steps of its lookup. -/
def Service.left (n : Nat) (s : Service K) (i : Fin n) : Phase × Nat := (s.phases i, (s.keys.tasks (i + 1)).rank)

theorem after_arrived {after before : Phase} (moved : Phase.After after before) : after ≠ .arrived := by
  rintro rfl
  cases moved

theorem left_lowers (reached : Service.Reachable a s) (among : s.Among n) (moved : Service.StepAmong a n s t) :
    Lowers (Prod.Lex Phase.After (· < ·)) (t.left n) (s.left n) := by
  rcases service_step moved.1 with ⟨i, after, keys, others⟩ | ⟨step, calls, phases⟩
  · have below : i < n := by
      by_contra beyond
      exact after_arrived after (moved.2 i (Nat.le_of_not_lt beyond))
    refine ⟨⟨i, below⟩, Prod.Lex.left _ _ after, fun j other => ?_⟩
    unfold Service.left
    rw [keys, others j fun same => other (Fin.ext same)]
  · have lookups := reachable_lookups reached
    obtain ⟨j, lower, others⟩ := step_rank step
    have lookup : j ≠ 0 := by
      rintro rfl
      rw [lookups.started] at lower
      cases lower
    obtain ⟨i, rfl⟩ := Nat.exists_eq_succ_of_ne_zero lookup
    have below : i < n := by
      by_contra beyond
      have idle := lookups.idle i (among i (Nat.le_of_not_lt beyond))
      by_cases still : t.keys.tasks (i + 1) = .idle
      · rw [idle, still] at lower
        exact lt_irrefl _ lower
      · obtain ⟨kid, verifying, -⟩ := calls.lookups i idle still
        cases (among i (Nat.le_of_not_lt beyond)).symm.trans verifying
    refine ⟨⟨i, below⟩, ?_, fun j other => ?_⟩
    · unfold Service.left
      rw [phases]
      exact Prod.Lex.right _ lower
    · unfold Service.left
      rw [phases, others (j + 1) fun same => other (Fin.ext (Nat.succ.inj same))]

/-- However the steps of the requests, the answers of the JWKS server and of the database, and cancellations come,
each request that is sent is answered, unless it is cancelled itself. -/
theorem requests_end (documented : a.framework.Documented) (live : Live a.server) (reached : Service.Reachable a s)
    (among : s.Among n) : Inevitable (Service.StepAmong a n) (fun s t => Service.StepAmong a n s t ∧ s.Calm t)
      (fun t => ∀ i, i < n → (t.phases i).Closed) s := by
  refine parties_end (Prod.lex ⟨_, after_wellFounded⟩ Nat.lt_wfRel).wf
    (fun s => Service.Reachable a s ∧ s.Among n) (Service.left n) ?_ ?_ ?_ ⟨reached, among⟩
  · exact fun s t valid moved => ⟨.step valid.1 moved.1, moved.2⟩
  · exact fun s t valid moved => left_lowers valid.1 valid.2 moved
  · rintro s ⟨reached, among⟩ unclosed
    obtain ⟨i, below, unended⟩ : ∃ i, i < n ∧ ¬ (s.phases i).Ended := by
      by_contra ended
      refine unclosed fun i below => ended_closed documented (service_inv reached) ?_
      by_contra unended
      exact ended ⟨i, below, unended⟩
    obtain ⟨j, small, t, step, calm, others⟩ := somebody_goes live reached below unended
    refine ⟨t, ⟨step, fun k beyond => ?_⟩, calm⟩
    rw [others k (ne_of_gt (lt_of_lt_of_le small beyond))]
    exact among k beyond

end

theorem careful_live : Live careful := by
  intro calls d pending
  obtain ⟨⟨i, op⟩, member⟩ := List.exists_mem_of_ne_nil calls pending
  refine ⟨(i, op), member, ?_⟩
  have fails (statement : Statement) : Permits id i (.execute statement) d (.error (.other "")) d := by
    cases statement <;> exact Or.inl rfl
  cases op with
  | now => exact ⟨(7 : DateTime), d, rfl, trivial⟩
  | execute statement => exact ⟨.error (.other ""), d, fails statement, nofun, nofun⟩
  | close => exact ⟨(), d.discard i, rfl, trivial⟩
  | insertOrganization | refresh | commit | rollback => exact ⟨.error (.other ""), d, Or.inl rfl, nofun, nofun⟩

theorem requests_end_sample : Inevitable (Service.StepAmong sampleApp 5)
    (fun s t => Service.StepAmong sampleApp 5 s t ∧ s.Calm t) (fun t => ∀ i, i < 5 → (t.phases i).Closed)
    (Service.initial sampleStarted) :=
  requests_end fastapi_documented careful_live (.initial sampleStarted_booted) fun _ _ => rfl

end PetBackend.Api
