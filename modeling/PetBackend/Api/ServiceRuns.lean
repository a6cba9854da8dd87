import Mathlib.Logic.Relation
import PetBackend.Api.Refusals
import PetBackend.Api.Service
import PetBackend.Postgres.TakenNames

/-!
# Runs of the service

Whatever the service reaches, its provider and its database reach as well, each on its own. What is known of
either so holds of both together.
-/

namespace PetBackend.Api
open Library Auth Persistence Postgres Outcome

variable {K : Type}

/-! ### The invariant -/

/-- What remains of a request's transaction, which is the whole `task` until the request is admitted. -/
def Phase.program (task : Program DbOp DbOp.Ret (Except Exc JobResult)) :
    Phase → Program DbOp DbOp.Ret (Except Exc JobResult)
  | .running _ program => program
  | .finished _ outcome _ => .done outcome
  | _ => task

def Service.jobs (s : Service K) (default : Job) (i : Nat) : Job := ((s.phases i).job?).getD default

/-- The database of the service, if the requests that are not admitted yet came to `jobs`. -/
def Service.database (a : App K) (s : Service K) (jobs : Nat → Job) :
    Running DbOp DbOp.Ret Database (Except Exc JobResult) :=
  ⟨s.store, fun i => (s.phases i).program ((jobs i).task a.unicode a.autoflush)⟩

def Agrees (jobs : Nat → Job) (s : Service K) : Prop := ∀ i job, (s.phases i).job? = some job → jobs i = job

/-- The job rests on a lookup of the kid that the request's credential names. -/
def Admitted (a : App K) (i : Nat) (job : Job) : Prop :=
  ∃ kid outcome t, soughtKid a.verifier a.jwt (a.requests i).credentials = some kid ∧
    Delivered a.provider a.fromDict t kid outcome ∧ a.accept i outcome = .ok job

def refusalStatuses : List Nat := [401, 403, 422]

/-- What is known of a request from its phase. -/
def Fits (a : App K) (i : Nat) : Phase → Prop
  | .verifying kid => soughtKid a.verifier a.jwt (a.requests i).credentials = some kid
  | .refused raised response =>
    raised.status ∈ refusalStatuses ∧ response = (a.respond i (.error raised)).toOption
  | .running job _ => Admitted a i job
  | .finished job outcome response => Admitted a i job ∧ response = a.answer i outcome
  | _ => True

structure Service.Inv (a : App K) (s : Service K) : Prop where
  keys : Auth.Reachable a.provider a.fromDict s.keys
  fits : ∀ i, Fits a i (s.phases i)
  database : ∀ jobs, Agrees jobs s → Postgres.Reachable a.server a.unicode a.autoflush jobs (s.database a jobs)
  absent : ∀ i, (s.phases i).job? = none → Lost i s.store

theorem jobs_agree (s : Service K) (default : Job) : Agrees (s.jobs default) s := by
  intro i job held
  unfold Service.jobs
  rw [held]
  rfl

section
variable {a : App K} {s t : Service K} {i : Nat} {phase : Phase}

theorem setPhase_self : (s.setPhase i phase).phases i = phase := by
  unfold Service.setPhase
  exact Function.update_self ..

theorem setPhase_other {j : Nat} (other : j ≠ i) : (s.setPhase i phase).phases j = s.phases j := by
  unfold Service.setPhase
  exact Function.update_of_ne other ..

theorem fits_setPhase (fits : ∀ j, Fits a j (s.phases j)) (here : Fits a i phase) (j : Nat) :
    Fits a j ((s.setPhase i phase).phases j) := by
  by_cases same : j = i
  · subst same
    rw [setPhase_self]
    exact here
  · rw [setPhase_other same]
    exact fits j

theorem database_setPhase {jobs : Nat → Job}
    (same : phase.program ((jobs i).task a.unicode a.autoflush) =
      (s.phases i).program ((jobs i).task a.unicode a.autoflush)) :
    (s.setPhase i phase).database a jobs = s.database a jobs := by
  unfold Service.database
  congr 1
  funext j
  by_cases here : j = i
  · subst here
    rw [setPhase_self]
    exact same
  · rw [setPhase_other here]

/-! ### What a step leaves of the database's view -/

theorem job_setPhase {j : Nat} {job : Job} (kept : ∀ job, (s.phases i).job? = some job → phase.job? = some job)
    (held : (s.phases j).job? = some job) : ((s.setPhase i phase).phases j).job? = some job := by
  by_cases here : j = i
  · subst here
    rw [setPhase_self]
    exact kept job held
  · rw [setPhase_other here]
    exact held

/-- A job is the request's for good. -/
theorem step_job (moved : Service.Step a s t) {job : Job} (held : (s.phases i).job? = some job) :
    (t.phases i).job? = some job := by
  cases moved with
  | unreadable arrived | refuse arrived | lookup arrived =>
    exact job_setPhase (fun job held => by rw [arrived] at held; cases held) held
  | keys => exact held
  | accept verifying | reject verifying | drop verifying =>
    exact job_setPhase (fun job held => by rw [verifying] at held; cases held) held
  | call running | finish running => exact job_setPhase (fun job held => by rw [running] at held; exact held) held

theorem step_agrees {jobs : Nat → Job} (moved : Service.Step a s t) (agrees : Agrees jobs t) : Agrees jobs s :=
  fun i job held => agrees i job (step_job moved held)

/-- Of its steps the database sees the calls. -/
theorem step_database {jobs : Nat → Job} (moved : Service.Step a s t) (agrees : Agrees jobs t) :
    Running.Reachable a.server.step (s.database a jobs) (t.database a jobs) := by
  have same {i : Nat} {phase : Phase} (programs : phase.program ((jobs i).task a.unicode a.autoflush) =
      (s.phases i).program ((jobs i).task a.unicode a.autoflush)) :
      Running.Reachable a.server.step (s.database a jobs) ((s.setPhase i phase).database a jobs) := by
    rw [database_setPhase programs]
    exact .initial
  cases moved with
  | unreadable arrived | refuse arrived | lookup arrived => exact same (by rw [arrived]; rfl)
  | keys => exact .initial
  | @accept i kid outcome job verifying =>
    have here : jobs i = job := agrees i job (by rw [setPhase_self]; rfl)
    exact same (by rw [here, verifying]; rfl)
  | reject verifying | drop verifying => exact same (by rw [verifying]; rfl)
  | finish running => exact same (by rw [running]; rfl)
  | @call i job op next answer after running called =>
    have pending : (s.database a jobs).tasks i = .call op next := by
      show (s.phases i).program _ = _
      rw [running]
      rfl
    refine cast (congrArg (Running.Reachable a.server.step (s.database a jobs)) ?_)
      (Running.Reachable.step .initial (Running.Step.call pending called))
    show Running.mk after _ = Running.mk after _
    congr 1
    funext j
    by_cases here : j = i
    · subst here
      rw [if_pos rfl, setPhase_self]
      rfl
    · rw [if_neg here, setPhase_other here]
      rfl

/-! ### What it keeps -/

theorem absent_setPhase (absent : ∀ j, (s.phases j).job? = none → Lost j s.store)
    (here : phase.job? = none → (s.phases i).job? = none) (j : Nat)
    (none : ((s.setPhase i phase).phases j).job? = none) : Lost j s.store := by
  by_cases same : j = i
  · subst same
    rw [setPhase_self] at none
    exact absent j (here none)
  · rw [setPhase_other same] at none
    exact absent j none

/-- Nobody else has a part in a call. -/
theorem call_absent (inv : s.Inv a) {job : Job} {op : DbOp}
    {next : op.Ret → Program DbOp DbOp.Ret (Except Exc JobResult)} {answer : op.Ret} {after : Database}
    (running : s.phases i = .running job (.call op next)) (called : a.server.step i op s.store answer after) (j : Nat)
    (none : ((s.setPhase i (.running job (next answer))).phases j).job? = none) : Lost j after := by
  have other : j ≠ i := by
    rintro rfl
    rw [setPhase_self] at none
    cases none
  rw [setPhase_other other] at none
  have pending : (s.database a (s.jobs job)).tasks i = .call op next := by
    show (s.phases i).program _ = _
    rw [running]
    rfl
  have spared : ∀ j, i ≠ j → Spares j s.store after :=
    (reachable_jobs_sound (inv.database _ (jobs_agree s job))).guaranteed setting_compatible pending called
  exact (lost_endures j).spared (spared j (Ne.symm other)) (inv.absent j none)

theorem step_absent (inv : s.Inv a) (moved : Service.Step a s t) : ∀ i, (t.phases i).job? = none → Lost i t.store := by
  cases moved with
  | unreadable arrived | refuse arrived | lookup arrived =>
    exact absent_setPhase inv.absent fun _ => by rw [arrived]; rfl
  | keys => exact inv.absent
  | accept | finish => exact absent_setPhase inv.absent nofun
  | reject verifying | drop verifying => exact absent_setPhase inv.absent fun _ => by rw [verifying]; rfl
  | call running called => exact call_absent inv running called

theorem booted_inv {keys : System K} (booted : Booted a keys) : (Service.initial keys).Inv a where
  keys := booted.reached
  fits _ := trivial
  database _ _ := .initial
  absent i _ := empty_lost i

theorem readBody_error {framework : Framework} {u : UnicodeData} {body : Except (List RawError) PyJson}
    {raised : RouteExc} (failed : readBody framework u body = .error raised) : raised.status = 422 := by
  obtain ⟨errors, -, rfl⟩ := mapError_error_iff.mp failed
  rfl

theorem job_error {framework : Framework} {u : UnicodeData} {uuidGen : Nat → UUID} {principal : Principal}
    {route : Route} {raised : RouteExc} (failed : route.job framework u uuidGen principal = .error raised) :
    raised.status = 403 ∨ raised.status = 422 := by
  cases route with
  | login => cases failed
  | createOrganization body =>
    rcases bind_error.mp failed with gated | ⟨_, -, failed⟩
    · obtain ⟨refused, -, rfl⟩ := mapError_error_iff.mp gated
      exact Or.inl rfl
    · rcases bind_error.mp failed with read | ⟨_, -, built⟩
      · exact Or.inr (readBody_error read)
      · cases built

theorem accept_error {outcome : Except PyExc (PyJWK K)} {raised : RouteExc} (failed : a.accept i outcome = .error raised) :
    raised.status ∈ refusalStatuses := by
  rcases bind_error.mp failed with verified | ⟨principal, -, failed⟩
  · obtain ⟨other, refused, rfl⟩ := mapError_error_iff.mp verified
    obtain ⟨error, rfl⟩ := getCurrentPrincipal_fails_closed refused
    exact (by decide : 401 ∈ refusalStatuses)
  · rcases job_error failed with status | status <;> rw [status] <;> decide

theorem refusal_status {raised : RouteExc} (refused : raised.status ∈ refusalStatuses) :
    400 ≤ raised.status ∧ raised.status ≠ 409 := by
  unfold refusalStatuses at refused
  simp only [List.mem_cons, List.not_mem_nil, or_false] at refused
  omega

theorem step_fits (inv : s.Inv a) (moved : Service.Step a s t) : ∀ i, Fits a i (t.phases i) := by
  cases moved with
  | unreadable => exact fits_setPhase inv.fits ⟨(by decide : 422 ∈ refusalStatuses), rfl⟩
  | refuse arrived sought refused => exact fits_setPhase inv.fits ⟨accept_error (refused (.error .keyError)), rfl⟩
  | lookup arrived sought => exact fits_setPhase inv.fits sought
  | keys => exact inv.fits
  | @accept i kid outcome job verifying done accepted =>
    have sought : Fits a i (.verifying kid) := verifying ▸ inv.fits i
    obtain ⟨t, delivered⟩ := done_delivered inv.keys done
    exact fits_setPhase inv.fits ⟨kid, outcome, t, sought, delivered, accepted⟩
  | reject verifying done refused => exact fits_setPhase inv.fits ⟨accept_error refused, rfl⟩
  | drop => exact fits_setPhase inv.fits trivial
  | @call i job op next answer after running =>
    have before : Fits a i (.running job (.call op next)) := running ▸ inv.fits i
    have admitted : Fits a i (.running job (next answer)) := before
    exact fits_setPhase inv.fits admitted
  | @finish i job outcome running =>
    have admitted : Fits a i (.running job (.done outcome)) := running ▸ inv.fits i
    exact fits_setPhase inv.fits ⟨admitted, rfl⟩

theorem step_keys (reached : Auth.Reachable a.provider a.fromDict s.keys) (moved : Service.Step a s t) :
    Auth.Reachable a.provider a.fromDict t.keys := by
  cases moved with
  | keys moved => exact .step reached moved
  | _ => exact reached

theorem service_step_inv (inv : s.Inv a) (moved : Service.Step a s t) : t.Inv a where
  keys := step_keys inv.keys moved
  fits := step_fits inv moved
  database jobs agrees := (inv.database jobs (step_agrees moved agrees)).trans (step_database moved agrees)
  absent := step_absent inv moved

theorem service_inv (reached : Service.Reachable a s) : s.Inv a := by
  induction reached with
  | initial booted => exact booted_inv booted
  | step _ moved ih => exact service_step_inv ih moved

theorem later_reachable (reached : Service.Reachable a s) (later : Relation.ReflTransGen (Service.Step a) s t) :
    Service.Reachable a t := by
  induction later with
  | refl => exact reached
  | tail _ moved ih => exact .step ih moved

end

/-! ### A sample run -/

def aliceClaims (issuer : String) : JsonObject :=
  [("sub", .str "alice"), ("iss", .str issuer), ("preferred_username", .str "alice"),
    ("email", .str "alice@example.com"), ("aud", .str "pet"), ("scope", .str "openid organizations:write")]

def aliceJwt : Jwt JsonObject where
  getUnverifiedHeader _ := .ok [("kid", .str "k1"), ("alg", .str "RS256")]
  decode _ _ _ issuer _ _ := .ok (aliceClaims issuer)

def alice : Principal :=
  { Postgres.samplePrincipal with
    scopes := {"openid", "organizations:write"}
    rawClaims := aliceClaims "https://sso" }

/-- Request 0 logs in and the others create an organization, all with the same token. -/
def sampleApp : App JsonObject where
  framework := fastapi
  unicode := ⟨id, id⟩
  decimal _ := none
  issuerUrl := "https://sso"
  provider := sampleProvider
  fromDict := sampleFromDict
  jwt := aliceJwt
  verifier := { sampleVerifier with issuer := "https://sso" }
  server := careful
  autoflush := true
  requests
    | 0 => { route := .login, credentials := some "t", freshRequestId := 0, uuidGen := sampleUuids }
    | _ + 1 => {
      route := .createOrganization (.ok (named (.str (ofString "Acme"))))
      credentials := some "t"
      freshRequestId := 0
      uuidGen := sampleUuids }

def sampleLogin : Job := .provisionUser alice sampleUuids

def sampleCreation : Job := .createOrganization ⟨"Acme", alice⟩ sampleUuids

theorem sampleStarted_booted : Booted sampleApp sampleStarted where
  reached := sampleStarted_reachable
  started := by simp [sampleStarted]
  idle i := by simp [sampleStarted]

theorem sample_login : sampleApp.accept 0 (.ok (sampleKey (.str "k1"))) = .ok sampleLogin := rfl

theorem sample_creation (i : Nat) : sampleApp.accept (i + 1) (.ok (sampleKey (.str "k1"))) = .ok sampleCreation := by
  have gated : requiredScopes ["organizations:write"] alice = .ok alice := gate_ok.mpr (by simp [alice])
  have job : (sampleApp.requests (i + 1)).route.job fastapi ⟨id, id⟩ sampleUuids alice = .ok sampleCreation := by
    unfold Route.job
    dsimp only [sampleApp]
    rw [gated]
    rfl
  exact job

/-- The request has not begun, and the key that it needs is cached. -/
structure Untouched (s : Service JsonObject) (i : Nat) : Prop where
  arrived : s.phases i = .arrived
  idle : s.keys.tasks (i + 1) = .idle
  provider : s.keys.provider = sampleStarted.provider
  clock : s.keys.clock = 10

/-- The service has gone on with request `i` alone. -/
structure Leads (i : Nat) (s t : Service JsonObject) : Prop where
  later : Relation.ReflTransGen (Service.Step sampleApp) s t
  untouched : ∀ j, j ≠ i → Untouched s j → Untouched t j

theorem Leads.trans {i : Nat} {s t u : Service JsonObject} (first : Leads i s t) (second : Leads i t u) : Leads i s u where
  later := first.later.trans second.later
  untouched j other waits := second.untouched j other (first.untouched j other waits)

theorem leads_setPhase {i : Nat} {s t : Service JsonObject} {phase : Phase} (moved : Service.Step sampleApp s t)
    (keys : t.keys = s.keys) (phases : t.phases = (s.setPhase i phase).phases) : Leads i s t where
  later := .single moved
  untouched j other waits := by
    refine ⟨?_, ?_, ?_, ?_⟩
    · rw [phases, setPhase_other other]
      exact waits.arrived
    all_goals rw [keys]
    · exact waits.idle
    · exact waits.provider
    · exact waits.clock

theorem sample_fast {s : Service JsonObject} {i : Nat} (cached : s.keys.provider = sampleStarted.provider)
    (clock : s.keys.clock = 10) (idle : s.keys.tasks (i + 1) = .idle) (verifying : s.phases i = .verifying "k1") :
    ∃ t, Leads i s t ∧ t.store = s.store ∧ t.phases i = .verifying "k1" ∧
      t.keys.tasks (i + 1) = .done "k1" (.ok (sampleKey (.str "k1"))) := by
  have found : getSigningKeyFast sampleProvider s.keys.provider "k1" 10 = some (sampleKey (.str "k1")) := by
    have fresh : isStale sampleProvider sampleStarted.provider 10 = false :=
      isStale_false.mpr ⟨10, rfl, by norm_num [sampleProvider]⟩
    have held : sampleStarted.provider.find "k1" = some (sampleKey (.str "k1")) := rfl
    rw [cached]
    simp [getSigningKeyFast, held, fresh]
  have step : Auth.Step sampleProvider sampleFromDict s.keys _ := .fast idle (le_of_eq clock) found
  have others {j : Nat} (other : j ≠ i + 1) :
      (s.keys.setTask (i + 1) (.done "k1" (.ok (sampleKey (.str "k1"))))).tasks j = s.keys.tasks j := setTask_other other
  refine ⟨_, ⟨.single (.keys step ⟨?_, ?_⟩), ?_⟩, rfl, verifying, setTask_self⟩
  · exact others (Nat.succ_ne_zero i).symm
  · intro j waits moved
    by_cases same : j = i
    · subst same
      exact ⟨"k1", verifying, congrArg Task.kid? setTask_self⟩
    · exact (moved ((others fun other => same (Nat.succ.inj other)).trans waits)).elim
  · intro j other waits
    exact ⟨waits.arrived, (others fun same => other (Nat.succ.inj same)).trans waits.idle, waits.provider, rfl⟩

theorem sample_running {s : Service JsonObject} {i : Nat} {job : Job} (untouched : Untouched s i)
    (sought : soughtKid sampleApp.verifier sampleApp.jwt (sampleApp.requests i).credentials = some "k1")
    (accepted : sampleApp.accept i (.ok (sampleKey (.str "k1"))) = .ok job) : ∃ t, Leads i s t ∧ t.store = s.store ∧
      t.phases i = .running job (job.task sampleApp.unicode sampleApp.autoflush) := by
  have begun := leads_setPhase (Service.Step.lookup untouched.arrived sought) rfl rfl
  obtain ⟨t, served, store, verifying, done⟩ := sample_fast (s := s.setPhase i (.verifying "k1")) untouched.provider
    untouched.clock untouched.idle setPhase_self
  have admitted := leads_setPhase (Service.Step.accept verifying done accepted) rfl rfl
  exact ⟨_, (begun.trans served).trans admitted, store, setPhase_self⟩

/-- One call of a transaction. -/
theorem sample_call {s : Service JsonObject} {i : Nat} {job : Job} (op : DbOp)
    {next : op.Ret → Program DbOp DbOp.Ret (Except Exc JobResult)} (answer : op.Ret) (after : Database)
    (running : s.phases i = .running job (.call op next)) (called : careful.step i op s.store answer after) :
    ∃ t, Leads i s t ∧ t.store = after ∧ t.phases i = .running job (next answer) :=
  ⟨_, leads_setPhase (Service.Step.call running called) rfl rfl, rfl, setPhase_self (s := s) (i := i)⟩

theorem sample_answered : ∃ s response, Service.Reachable sampleApp s ∧ s.store = provisionedStore ∧
    s.phases 0 = .finished sampleLogin (.ok (.user sampleUser true)) (some response) ∧ response.statusCode = 201 ∧
    ∀ i, i ≠ 0 → Untouched s i := by
  have untouched (i : Nat) : Untouched (Service.initial sampleStarted) i := ⟨rfl, by simp [Service.initial, sampleStarted], rfl, rfl⟩
  obtain ⟨s, admitted, store, running⟩ := sample_running (untouched 0) rfl sample_login
  obtain ⟨s, clock, store, running⟩ := sample_call .now (7 : DateTime) .empty running ⟨by rw [store]; rfl, trivial⟩
  obtain ⟨s, upserted, store, running⟩ :=
    sample_call (.execute (.upsertUser (userValues sampleUser) (userUpdate sampleUser))) (.ok [(sampleRow.orm, true)])
      ⟨Table.empty.write 0 0 sampleRow, .empty, .empty⟩ running
      ⟨by rw [store]; exact Or.inl ⟨0, Table.vacant_inserts Table.empty_live 0 _, rfl, rfl⟩, trivial⟩
  obtain ⟨s, committed, store, running⟩ := sample_call .commit (.ok ())
    (Database.commit ⟨Table.empty.write 0 0 sampleRow, .empty, .empty⟩ 0) running ⟨by rw [store]; rfl, trivial⟩
  obtain ⟨s, closed, store, running⟩ := sample_call .close () provisionedStore running ⟨by rw [store]; rfl, trivial⟩
  have finished := leads_setPhase (Service.Step.finish running) rfl rfl
  have leads := (((admitted.trans clock).trans upserted).trans committed).trans (closed.trans finished)
  exact ⟨_, _, later_reachable (.initial sampleStarted_booted) leads.later, store, setPhase_self, rfl,
    fun i other => leads.untouched i other (untouched i)⟩

end PetBackend.Api
