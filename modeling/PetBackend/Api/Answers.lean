import PetBackend.Api.Entitlement

/-!
# What the answers tell

An answer stays as it was sent, and what it tells of its request's transaction goes on being so.
-/

namespace PetBackend.Api
open Library Auth Persistence Postgres Outcome

variable {K : Type}

/-- The status and the body against the request's transaction. -/
def Tells (i : Nat) (store : Database) (response : Response) : Prop :=
  match response.body with
  | .publicId publicId => response.statusCode = 201 ∧ Founded i publicId store
  | .me me => ∃ user created, me = meOut user ∧ response.statusCode = (if created then 201 else 200) ∧
    Provisioned i user created store
  | .problem _ => 400 ≤ response.statusCode ∧ Lost i store

structure Truthful (a : App K) (i : Nat) (store : Database) (response : Response) : Prop where
  identified : ("X-Request-ID", a.requestId i) ∈ response.headers
  tells : Tells i store response

def Phase.Ended : Phase → Prop
  | .refused _ _ | .finished _ _ _ | .dropped => True
  | _ => False

structure AnswersTruthful (a : App K) (s : Service K) : Prop where
  told : ∀ i response, (s.phases i).response? = some response → Truthful a i s.store response
  lasting : ∀ t, Relation.ReflTransGen (Service.Step a) s t → ∀ i response, (s.phases i).response? = some response →
    (t.phases i).response? = some response ∧ Truthful a i t.store response
  silent : ∀ i, (s.phases i).Ended → (s.phases i).response? = none → Lost i s.store

section
variable {a : App K} {s t : Service K} {i : Nat}

/-! ### One answer -/

theorem requestId_nonempty : a.requestId i ≠ "" := parseRequestId_nonempty _ _ _

theorem respond_ok (value : Response) :
    a.respond i (.ok value) = .ok (value.setHeader "X-Request-ID" (a.requestId i)) := rfl

theorem respond_error (documented : a.framework.Documented) (raised : RouteExc) :
    ∃ response content, a.respond i (.error raised) = .ok response ∧
      ("X-Request-ID", a.requestId i) ∈ response.headers ∧
      (response.statusCode = raised.status ∨ response.statusCode = 500) ∧ response.body = .problem content := by
  by_cases presentable : Presentable a.framework (ofString a.issuerUrl) raised
  · obtain ⟨response, answered⟩ : ∃ response, Answered a.framework (ofString a.issuerUrl) (a.requests i).route.path
        (a.requests i).headerRequestId (a.requestId i) (.error raised) response :=
      presentable_answered documented requestId_nonempty presentable
    obtain ⟨p, shows', same, -⟩ := answered.presented raised rfl presentable
    exact ⟨response, _, answered.sent, answered.identified, Or.inl (shows'.status.trans same), shows'.body⟩
  · obtain ⟨response, answered⟩ : ∃ response, Answered a.framework (ofString a.issuerUrl) (a.requests i).route.path
        (a.requests i).headerRequestId (a.requestId i) (.error raised) response :=
      hidden_answered documented presentable
    have shows' := answered.covered raised rfl presentable
    exact ⟨response, _, answered.sent, answered.identified, Or.inr shows'.status, shows'.body⟩

theorem problem_truthful (documented : a.framework.Documented) {raised : RouteExc} (status : 400 ≤ raised.status)
    {store : Database} (lost : Lost i store) {response : Response}
    (sent : (a.respond i (.error raised)).toOption = some response) : Truthful a i store response := by
  obtain ⟨answer, content, answered, identified, refused, body⟩ := respond_error (i := i) documented raised
  rw [answered] at sent
  cases sent
  refine ⟨identified, ?_⟩
  unfold Tells
  rw [body]
  refine ⟨?_, lost⟩
  omega

theorem ofExecutor_status (raised : Exc) : 400 ≤ (RouteExc.ofExecutor raised).status := by
  cases raised with
  | app error =>
    show 400 ≤ getHttpStatusForError error.code
    cases error.code <;> exact Nat.le_of_ble_eq_true rfl
  | _ => exact Nat.le_of_ble_eq_true rfl

theorem finished_ended {job : Job} {outcome : Except Exc JobResult} {answer : Option Response}
    (finished : s.phases i = .finished job outcome answer) (jobs : Nat → Job) :
    (s.database a jobs).tasks i = .done outcome := by
  show (s.phases i).program _ = _
  rw [finished]
  rfl

theorem finished_settled (inv : s.Inv a) {job : Job} {outcome : Except Exc JobResult} {answer : Option Response}
    (finished : s.phases i = .finished job outcome answer) : Settled i (Won (s.jobs job) i) outcome s.store :=
  ended_settled (inv.database _ (jobs_agree s job)) (finished_ended finished _)

theorem finished_answer (inv : s.Inv a) {job : Job} {outcome : Except Exc JobResult} {answer : Option Response}
    (finished : s.phases i = .finished job outcome answer) : answer = a.answer i outcome := by
  have fits : Fits a i (.finished job outcome answer) := finished ▸ inv.fits i
  exact fits.2

/-- A request that was answered was refused or has ended its transaction. -/
theorem answered_cases {response : Response} (answered : (s.phases i).response? = some response) :
    (∃ raised, s.phases i = .refused raised (some response)) ∨
      ∃ job outcome, s.phases i = .finished job outcome (some response) := by
  cases phase : s.phases i with
  | refused raised sent =>
    rw [phase] at answered
    cases answered
    exact Or.inl ⟨raised, rfl⟩
  | finished job outcome sent =>
    rw [phase] at answered
    cases answered
    exact Or.inr ⟨job, outcome, rfl⟩
  | _ =>
    rw [phase] at answered
    cases answered

theorem refused_answer (documented : a.framework.Documented) (inv : s.Inv a) {raised : RouteExc} {response : Response}
    (refused : s.phases i = .refused raised (some response)) : raised.status ∈ refusalStatuses ∧
      (response.statusCode = raised.status ∨ response.statusCode = 500) ∧
      ∃ content, response.body = .problem content := by
  have fits : Fits a i (.refused raised (some response)) := refused ▸ inv.fits i
  obtain ⟨answer, content, responded, -, shown, problem⟩ := respond_error (i := i) documented raised
  have same := fits.2
  rw [responded] at same
  cases same
  exact ⟨fits.1, shown, content, problem⟩

/-- A route's result is answered with its response, and what it raised with a problem. -/
theorem answer_cases (documented : a.framework.Documented) {outcome : Except Exc JobResult} {response : Response}
    (sent : a.answer i outcome = some response) :
    (∃ result, outcome = .ok result ∧ response = (routeResponse result).setHeader "X-Request-ID" (a.requestId i)) ∨
      ∃ raised content, outcome = .error raised ∧ a.respond i (.error (.ofExecutor raised)) = .ok response ∧
        (response.statusCode = (RouteExc.ofExecutor raised).status ∨ response.statusCode = 500) ∧
        response.body = .problem content := by
  cases outcome with
  | ok result =>
    simp only [App.answer, respond_ok, Except.toOption, Option.some.injEq] at sent
    exact Or.inl ⟨result, rfl, sent.symm⟩
  | error raised =>
    by_cases caught : raised.isException
    · obtain ⟨answer, content, refused, -, status, problem⟩ :=
        respond_error (i := i) documented (RouteExc.ofExecutor raised)
      rw [App.answer, if_pos caught, refused] at sent
      cases sent
      exact Or.inr ⟨raised, content, rfl, refused, status, problem⟩
    · rw [App.answer, if_neg caught] at sent
      cases sent

theorem answered_finished {job : Job} {response : Response} (held : (s.phases i).job? = some job)
    (answered : (s.phases i).response? = some response) :
    ∃ outcome, s.phases i = .finished job outcome (some response) := by
  rcases answered_cases answered with ⟨raised, refused⟩ | ⟨other, outcome, finished⟩
  · rw [refused] at held
    cases held
  · rw [finished] at held
    cases held
    exact ⟨outcome, finished⟩

theorem result_tells {jobs : Nat → Job} {result : JobResult} {store : Database} (won : Won jobs i result store)
    (name value : String) : Tells i store ((routeResponse result).setHeader name value) := by
  cases job : jobs i with
  | createOrganization cmd uuidGen =>
    simp only [Won, job] at won
    cases result with
    | organization publicId => exact ⟨rfl, won⟩
    | user user created => exact won.elim
  | provisionUser principal uuidGen =>
    simp only [Won, job] at won
    cases result with
    | organization publicId => exact won.elim
    | user user created => exact ⟨user, created, rfl, rfl, won⟩

theorem finished_truthful (documented : a.framework.Documented) (inv : s.Inv a) {job : Job}
    {outcome : Except Exc JobResult} {response : Response} (finished : s.phases i = .finished job outcome (some response)) :
    Truthful a i s.store response := by
  have settled := finished_settled inv finished
  have sent := finished_answer inv finished
  cases outcome with
  | ok result =>
    simp only [App.answer, respond_ok, Except.toOption, Option.some.injEq] at sent
    subst sent
    exact ⟨List.mem_append_right _ (List.mem_singleton.mpr rfl), result_tells settled _ _⟩
  | error raised =>
    by_cases caught : raised.isException
    · rw [App.answer, if_pos caught] at sent
      exact problem_truthful documented (ofExecutor_status raised) settled sent.symm
    · rw [App.answer, if_neg caught] at sent
      cases sent

theorem finished_silent (inv : s.Inv a) {job : Job}
    {outcome : Except Exc JobResult} (finished : s.phases i = .finished job outcome none) : Lost i s.store := by
  have settled := finished_settled inv finished
  have sent := finished_answer inv finished
  cases outcome with
  | ok result =>
    rw [App.answer, respond_ok] at sent
    cases sent
  | error raised => exact settled

/-! ### All of them, in a run -/

theorem response_stays (moved : Service.Step a s t) {response : Response}
    (answered : (s.phases i).response? = some response) : (t.phases i).response? = some response := by
  have other {j : Nat} (phase : Phase) (waits : (s.phases j).response? = none) :
      ((s.setPhase j phase).phases i).response? = some response := by
    rw [setPhase_other]
    · exact answered
    · rintro rfl
      cases waits.symm.trans answered
  cases moved with
  | unreadable arrived | refuse arrived | lookup arrived => exact other _ (by rw [arrived]; rfl)
  | keys => exact answered
  | accept verifying | reject verifying | drop verifying => exact other _ (by rw [verifying]; rfl)
  | call running | finish running => exact other _ (by rw [running]; rfl)

theorem response_lasts (later : Relation.ReflTransGen (Service.Step a) s t) {response : Response}
    (answered : (s.phases i).response? = some response) : (t.phases i).response? = some response := by
  induction later with
  | refl => exact answered
  | tail _ moved ih => exact response_stays moved ih

theorem response_truthful (documented : a.framework.Documented) (inv : s.Inv a) {response : Response}
    (answered : (s.phases i).response? = some response) : Truthful a i s.store response := by
  rcases answered_cases answered with ⟨raised, refused⟩ | ⟨job, outcome, finished⟩
  · have fits : Fits a i (.refused raised (some response)) := refused ▸ inv.fits i
    have lost := inv.absent i (by rw [refused]; rfl)
    exact problem_truthful documented (refusal_status fits.1).1 lost fits.2.symm
  · exact finished_truthful documented inv finished

end

/-! ### Logins -/

def LogsIn (s : Service K) (issuer subject : String) (i : Nat) : Prop :=
  ∃ principal uuidGen, (s.phases i).job? = some (.provisionUser principal uuidGen) ∧ principal.issuer = issuer ∧
    principal.subject = subject

/-- Request `i` was verified to be of this identity, and was shown this user. -/
structure LoggedIn (s : Service K) (issuer subject : String) (i : Nat) (response : Response) (me : MeOut) : Prop where
  login : LogsIn s issuer subject i
  answered : (s.phases i).response? = some response
  body : response.body = .me me

/-- To its clients an identity is one user, whom one request created. -/
structure LoginsAgree (s : Service K) : Prop where
  same : ∀ issuer subject i j response response' me me', LoggedIn s issuer subject i response me →
    LoggedIn s issuer subject j response' me' → me.publicId = me'.publicId
  apart : ∀ issuer issuer' subject subject' i j response response' me me', LoggedIn s issuer subject i response me →
    LoggedIn s issuer' subject' j response' me' → me.publicId = me'.publicId → issuer = issuer' ∧ subject = subject'
  created : ∀ issuer subject i response me, LoggedIn s issuer subject i response me → ∃ creator,
    LogsIn s issuer subject creator ∧
      (∀ j response' me', LoggedIn s issuer subject j response' me' →
        response'.statusCode = (if j = creator then 201 else 200)) ∧
      ∀ response', (s.phases creator).response? = some response' →
        ∃ me', LoggedIn s issuer subject creator response' me'

section
variable {a : App K} {s : Service K} {i : Nat} {issuer subject : String}

/-- Only a login that succeeded is shown a user. -/
theorem answer_me (documented : a.framework.Documented) {outcome : Except Exc JobResult} {response : Response}
    {me : MeOut} (sent : a.answer i outcome = some response) (body : response.body = .me me) : ∃ user created,
      outcome = .ok (.user user created) ∧ me = meOut user ∧
        response.statusCode = (if created then 201 else 200) := by
  rcases answer_cases documented sent with ⟨result, rfl, rfl⟩ | ⟨raised, content, -, -, -, problem⟩
  · cases result with
    | organization publicId => cases body
    | user user created => exact ⟨user, created, rfl, (Body.me.inj body).symm, rfl⟩
  · cases body.symm.trans problem

theorem loggedIn_succeeded (documented : a.framework.Documented) (inv : s.Inv a) {response : Response} {me : MeOut}
    (logged : LoggedIn s issuer subject i response me) : ∃ user created,
      Succeeded (s.jobs idleJob) (s.database a (s.jobs idleJob)) issuer subject i user created ∧ me = meOut user ∧
        response.statusCode = (if created then 201 else 200) := by
  obtain ⟨principal, uuidGen, held, claims⟩ := logged.login
  obtain ⟨outcome, finished⟩ := answered_finished held logged.answered
  obtain ⟨user, created, rfl, shown, status⟩ :=
    answer_me documented (finished_answer inv finished).symm logged.body
  exact ⟨user, created, ⟨⟨principal, uuidGen, jobs_agree s idleJob i _ held, claims⟩, finished_ended finished _⟩,
    shown, status⟩

theorem creator_logsIn {jobs : Nat → Job} {creator : Nat}
    (valid : Inv a.server (s.jobs idleJob) s.store)
    (creates : Creator (s.database a jobs) issuer subject creator) : LogsIn s issuer subject creator := by
  obtain ⟨id, row, committed, key, rfl⟩ := creates
  obtain ⟨first, isFirst, wrote⟩ := valid.first committed
  obtain ⟨principal, uuidGen, now, job, firstIssuer, firstSubject, -⟩ := valid.authored id first (Or.inl isFirst)
  have same : first.identity = row.identity := valid.users.identified (Or.inl isFirst) (Or.inl committed)
  rw [wrote] at job
  refine ⟨principal, uuidGen, jobs_held job nofun, ?_, ?_⟩
  · exact firstIssuer.symm.trans ((congrArg UserIdentity.authIssuer same).trans key.1)
  · exact firstSubject.symm.trans ((congrArg UserIdentity.authSubject same).trans key.2)

end

theorem sample_loggedIn {s : Service JsonObject} {response : Response} (reached : Service.Reachable sampleApp s)
    (finished : s.phases 0 = .finished sampleLogin (.ok (.user sampleUser true)) (some response)) :
    LoggedIn s "https://sso" "alice" 0 response (meOut sampleUser) := by
  have sent := finished_answer (service_inv reached) finished
  rw [App.answer, respond_ok] at sent
  cases sent
  exact ⟨⟨alice, sampleUuids, by rw [finished]; rfl, rfl, rfl⟩, by rw [finished]; rfl, rfl⟩

end PetBackend.Api
