import PetBackend.Api.Answers
import PetBackend.Api.Organizations

/-!
# Organizations and their creators

What the answers to `create_organization` say against what is committed, and against the logins before them.
-/

namespace PetBackend.Api
open Library Auth Persistence Postgres Outcome

variable {K : Type}

/-- Request `i` was told that it created this organization. -/
structure Created (s : Service K) (i : Nat) (response : Response) (publicId : UUID) : Prop where
  answered : (s.phases i).response? = some response
  body : response.body = .publicId publicId

/-- The organization of request `i`: under the name that its body was read as, and its only owner who sent it. -/
structure OrganizationOf (a : App K) (s : Service K) (i : Nat) (principal : Principal) (id : Nat)
    (o : OrganizationRow) : Prop where
  committed : o ∈ s.store.organizations.versions id
  founder : o.writtenBy = i
  job : (s.phases i).job? = some (.createOrganization ⟨o.values.name, principal⟩ (a.requests i).uuidGen)
  read : ∃ body, (a.requests i).route = .createOrganization (.ok body) ∧
    createOrgDtoIn a.framework a.unicode body = .ok o.values.name
  scope : "organizations:write" ∈ principal.scopes
  publicId : o.values.publicId = (a.requests i).uuidGen 0
  owner : ∃ mid m row, m ∈ s.store.memberships.versions mid ∧ m.orgId = id ∧ m.userRole = .owner ∧
    row ∈ s.store.users.versions m.userId ∧ row.hasKey principal.issuer principal.subject ∧
    ∀ mid' m', m' ∈ s.store.memberships.versions mid' → m'.orgId = id → mid' = mid ∧ m' = m

structure CreationsAnswered (a : App K) (s : Service K) : Prop where
  committed : ∀ i response publicId, Created s i response publicId → response.statusCode = 201 ∧
    ∃ principal id o, OrganizationOf a s i principal id o ∧ o.values.publicId = publicId
  answered : ∀ id o, o ∈ s.store.organizations.versions id →
    (∃ principal, OrganizationOf a s o.writtenBy principal id o) ∧
    ∀ response, (s.phases o.writtenBy).response? = some response → Created s o.writtenBy response o.values.publicId
  apart : ∀ i j response response' publicId, Created s i response publicId → Created s j response' publicId → i = j
  names : ∀ i j response response' publicId publicId' body body' name name', Created s i response publicId →
    Created s j response' publicId' → (a.requests i).route = .createOrganization (.ok body) →
    (a.requests j).route = .createOrganization (.ok body') → createOrgDtoIn a.framework a.unicode body = .ok name →
    createOrgDtoIn a.framework a.unicode body' = .ok name' →
    a.server.nameCanonical name = a.server.nameCanonical name' → i = j

section
variable {a : App K} {s t : Service K} {i : Nat}

/-! ### What is committed -/

/-- The name of a command was validated when the body was read, and validating it again changes nothing. -/
theorem inserted_name (laws : a.unicode.SpaceLaws) (returns : a.framework.ReturnsValidated) {principal : Principal}
    {job : Job} {values : OrganizationValues} (grants : Grants a i principal job)
    (inserted : Inserted a.unicode job values) : ∃ body, (a.requests i).route = .createOrganization (.ok body) ∧
      createOrgDtoIn a.framework a.unicode body = .ok values.name ∧ "organizations:write" ∈ principal.scopes ∧
      values.publicId = (a.requests i).uuidGen 0 ∧
      job = .createOrganization ⟨values.name, principal⟩ (a.requests i).uuidGen := by
  obtain ⟨cmd, uuidGen, rfl, publicId, accepted⟩ := inserted
  cases grants with
  | @createOrganization body name route scope read =>
    obtain ⟨raw, validated⟩ := createOrgDtoIn_ok returns read
    have again : validateOrgName a.unicode name = .ok name := (validateOrgName_fixed laws validated).validated
    have same : values.name = name := Except.ok.inj (accepted.symm.trans again)
    rw [same]
    exact ⟨body, route, read, scope, publicId, rfl⟩

theorem committed_organization (laws : a.unicode.SpaceLaws) (returns : a.framework.ReturnsValidated) (inv : s.Inv a)
    {id : Nat} {o : OrganizationRow} (committed : o ∈ s.store.organizations.versions id) :
    ∃ principal, OrganizationOf a s o.writtenBy principal id o := by
  have runs := inv.database _ (jobs_agree s idleLogin)
  have valid := (reachable_jobs_sound runs).inv
  have inserted : Inserted a.unicode (s.jobs idleLogin o.writtenBy) o.values := reachable_named runs id o (Or.inl committed)
  have named := inserted
  obtain ⟨cmd, uuidGen, job, -, -⟩ := named
  have held := jobs_held job nofun
  rw [job] at inserted
  obtain ⟨kid, outcome, t, -, -, accepted⟩ := held_admitted inv held
  obtain ⟨principal, -, grants⟩ := accept_ok accepted
  obtain ⟨body, route, read, scope, publicId, same⟩ := inserted_name laws returns grants inserted
  rw [same] at held
  obtain ⟨mid, m, owns⟩ := valid.owned id o committed
  obtain ⟨row, known, owner, generated, wrote, issuer, subject⟩ := owns.user
  rw [job, same] at wrote
  cases wrote
  exact ⟨principal, committed, rfl, held, ⟨body, route, read⟩, scope, publicId, mid, m, row, owns.committed, owns.org,
    owns.role, known, ⟨issuer, subject⟩, owns.only⟩

/-! ### What is answered -/

/-- Only a creation that succeeded is answered with an id. -/
theorem answer_publicId (documented : a.framework.Documented) {outcome : Except Exc JobResult} {response : Response}
    {publicId : UUID} (sent : a.answer i outcome = some response) (body : response.body = .publicId publicId) :
    outcome = .ok (.organization ⟨publicId⟩) ∧ response.statusCode = 201 := by
  rcases answer_cases documented sent with ⟨result, rfl, rfl⟩ | ⟨raised, content, -, -, -, problem⟩
  · cases result with
    | organization created =>
      have same : created.value = publicId := Body.publicId.inj body
      subst same
      exact ⟨rfl, rfl⟩
    | user user created => cases body
  · cases body.symm.trans problem

/-- Whoever was answered with an id has ended its transaction. -/
theorem created_finished (documented : a.framework.Documented) (inv : s.Inv a) {response : Response} {publicId : UUID}
    (created : Created s i response publicId) : ∃ job,
      s.phases i = .finished job (.ok (.organization ⟨publicId⟩)) (some response) ∧ response.statusCode = 201 := by
  rcases answered_cases created.answered with ⟨raised, refused⟩ | ⟨job, outcome, finished⟩
  · obtain ⟨-, -, content, problem⟩ := refused_answer documented inv refused
    cases created.body.symm.trans problem
  · obtain ⟨rfl, status⟩ := answer_publicId documented (finished_answer inv finished).symm created.body
    exact ⟨job, finished, status⟩

theorem created_founded (documented : a.framework.Documented) (inv : s.Inv a) {response : Response} {publicId : UUID}
    (created : Created s i response publicId) : response.statusCode = 201 ∧ Founded i publicId s.store := by
  obtain ⟨job, finished, status⟩ := created_finished documented inv created
  refine ⟨status, ?_⟩
  have settled : Won (s.jobs job) i (.organization ⟨publicId⟩) s.store := finished_settled inv finished
  cases jobs : s.jobs job i with
  | createOrganization cmd uuidGen =>
    simp only [Won, jobs] at settled
    exact settled
  | provisionUser principal uuidGen =>
    simp only [Won, jobs] at settled
    exact settled.elim

/-- An organization that is committed was not reported as a failure. -/
theorem founder_created (documented : a.framework.Documented) (inv : s.Inv a) {id : Nat} {o : OrganizationRow}
    {principal : Principal} (organization : OrganizationOf a s i principal id o) {response : Response}
    (answered : (s.phases i).response? = some response) : Created s i response o.values.publicId := by
  obtain ⟨outcome, finished⟩ := answered_finished organization.job answered
  have settled := finished_settled inv finished
  rcases answer_cases documented (finished_answer inv finished).symm with ⟨result, rfl, rfl⟩ | ⟨raised, content, rfl, -⟩
  · have won : Won (s.jobs _) i result s.store := settled
    have job := jobs_agree s (.createOrganization ⟨o.values.name, principal⟩ (a.requests i).uuidGen) i _ organization.job
    simp only [Won, job] at won
    cases result with
    | organization publicId =>
      obtain ⟨key, mid, founded, m, founds⟩ := won
      obtain ⟨-, same⟩ := founds.onlyOrganization id o organization.committed organization.founder
      rw [same, founds.publicId]
      exact ⟨answered, rfl⟩
    | user user created => exact won.elim
  · exact (Lost.organizations settled id o organization.committed organization.founder).elim

theorem program_waiting {phase : Phase} (none : phase.job? = none)
    (task : Program DbOp DbOp.Ret (Except Exc JobResult)) : phase.program task = task := by
  cases phase with
  | running | finished => cases none
  | _ => rfl

theorem later_database {jobs : Nat → Job} (later : Relation.ReflTransGen (Service.Step a) s t) (agrees : Agrees jobs t) :
    Agrees jobs s ∧ Running.Reachable a.server.step (s.database a jobs) (t.database a jobs) := by
  induction later with
  | refl => exact ⟨agrees, .initial⟩
  | tail _ moved ih =>
    obtain ⟨before, runs⟩ := ih (step_agrees moved agrees)
    exact ⟨before, runs.trans (step_database moved agrees)⟩

theorem loggedIn_known (documented : a.framework.Documented) (inv : s.Inv a) {issuer subject : String}
    {response : Response} {me : MeOut} (logged : LoggedIn s issuer subject i response me) :
    KnownUser s.store issuer subject := by
  obtain ⟨user, created, succeeded, -⟩ := loggedIn_succeeded documented inv logged
  obtain ⟨id, row, committed, key, -⟩ := succeeded_version (inv.database _ (jobs_agree s idleJob)) succeeded
  exact ⟨id, row, committed, key⟩

theorem ofExecutor_notFound {raised : Exc} (found : ∀ e, raised = .app e → e.code ≠ .notFound) :
    (RouteExc.ofExecutor raised).status ≠ 404 := by
  cases raised with
  | app error =>
    have other := found error rfl
    show getHttpStatusForError error.code ≠ 404
    cases code : error.code with
    | notFound => exact (other code).elim
    | _ => decide
  | _ => exact (by decide : (500 : Nat) ≠ 404)

/-- Once a login was answered, no creation of its identity that is admitted later is told that there is no such
user. -/
theorem known_users_found (documented : a.framework.Documented) (foreign : NoAppErrors a.server)
    (reached : Service.Reachable a s) {issuer subject : String} {response : Response} {me : MeOut}
    (logged : LoggedIn s issuer subject i response me) (later : Relation.ReflTransGen (Service.Step a) s t) {j : Nat}
    (unadmitted : (s.phases j).job? = none) {job : Job} (held : (t.phases j).job? = some job)
    (creates : CreatesFor issuer subject job) {answer : Response} (answered : (t.phases j).response? = some answer) :
    answer.statusCode ≠ 404 := by
  have inv := service_inv reached
  obtain ⟨outcome, finished⟩ := answered_finished held answered
  have admitted : t.jobs job j = job := jobs_agree t job j job held
  obtain ⟨agrees, runs⟩ := later_database later (jobs_agree t job)
  have waits : (s.database a (t.jobs job)).tasks j = ((t.jobs job j).task a.unicode a.autoflush) :=
    program_waiting unadmitted _
  have found : ∀ e, outcome = .error (.app e) → e.code ≠ .notFound := by
    rintro e rfl
    have knows := loggedIn_known documented inv logged
    rw [← admitted] at creates
    exact known_found foreign (inv.database _ agrees) knows waits creates runs (finished_ended finished _)
  have sent := finished_answer (service_inv (later_reachable reached later)) finished
  rcases answer_cases documented sent.symm with ⟨result, rfl, rfl⟩ | ⟨raised, content, rfl, -, status, -⟩
  · cases result with
    | organization publicId => exact (by decide : (201 : Nat) ≠ 404)
    | user user created =>
      show (if created then 201 else 200) ≠ 404
      cases created <;> decide
  · have other := ofExecutor_notFound fun e same => found e (congrArg Except.error same)
    rcases status with same | same
    · rw [same]
      exact other
    · rw [same]
      decide

/-! ### Names that are taken -/

/-- The status and the code of the answer are the error's. -/
theorem respond_app (documented : a.framework.Documented) (error : AppError) : ∃ response content,
    a.respond i (.error (.app error)) = .ok response ∧ response.statusCode = getHttpStatusForError error.code ∧
      response.body = .problem content ∧
      ∀ value, (ofString "code", value) ∈ content ↔ value = text error.code.value := by
  obtain ⟨response, answered⟩ : ∃ response, Answered a.framework (ofString a.issuerUrl) (a.requests i).route.path
      (a.requests i).headerRequestId (a.requestId i) (.error (.app error)) response :=
    presentable_answered documented requestId_nonempty trivial
  obtain ⟨p, shows', status, json, handled, presented⟩ := answered.presented _ rfl trivial
  refine ⟨response, _, answered.sent, shows'.status.trans status, shows'.body, fun value => ?_⟩
  obtain ⟨-, -, same⟩ := problem_response presented
  obtain ⟨-, -, own⟩ := problem_response handled
  rw [← same, own]
  simp +decide [Problem.payload]

theorem answer_app {error : AppError} {response : Response} (sent : a.respond i (.error (.app error)) = .ok response) :
    a.answer i (.error (.app error)) = some response := congrArg Except.toOption sent

theorem ofExecutor_conflict {raised : Exc} (conflict : (RouteExc.ofExecutor raised).status = 409) :
    ∃ e, raised = .app e ∧ (e.code = .conflict ∨ e.code = .organizationNameTaken) := by
  cases raised with
  | app error =>
    have status : getHttpStatusForError error.code = 409 := conflict
    refine ⟨error, rfl, ?_⟩
    cases code : error.code with
    | conflict => exact Or.inl rfl
    | organizationNameTaken => exact Or.inr rfl
    | _ =>
      rw [code] at status
      cases status
  | _ => cases conflict

theorem finished_taken (documented : a.framework.Documented) (inv : s.Inv a) {job : Job}
    {outcome : Except Exc JobResult} {response : Response} {content : List (PyText × PyJson)}
    (finished : s.phases i = .finished job outcome (some response)) (status : response.statusCode = 409)
    (body : response.body = .problem content) (code : (ofString "code", text "organization_name_taken") ∈ content) :
    ∃ e, outcome = .error (.app e) ∧ e.code = .organizationNameTaken := by
  have sent := (finished_answer inv finished).symm
  rcases answer_cases documented sent with ⟨result, rfl, rfl⟩ | ⟨raised, _, rfl, refused, shown, -⟩
  · cases result with
    | organization publicId => cases body
    | user user created => cases body
  · have conflict : (RouteExc.ofExecutor raised).status = 409 := by
      rcases shown with same | same
      · exact same.symm.trans status
      · cases same.symm.trans status
    obtain ⟨e, rfl, conflict | taken⟩ := ofExecutor_conflict conflict
    · obtain ⟨answer, shown, sent, -, problem, codes⟩ := respond_app (i := i) documented e
      cases sent.symm.trans refused
      rw [Body.problem.inj (body.symm.trans problem), codes, conflict] at code
      have other : ofString "organization_name_taken" ≠ ofString "conflict" := by decide
      exact (other (PyValue.str.inj code)).elim
    · exact ⟨e, rfl, taken⟩

structure NamesTaken (a : App K) (s : Service K) : Prop where
  told : ∀ i response content, (s.phases i).response? = some response → response.statusCode = 409 →
    response.body = .problem content → (ofString "code", text "organization_name_taken") ∈ content →
    ∃ body name id o, (a.requests i).route = .createOrganization (.ok body) ∧
      createOrgDtoIn a.framework a.unicode body = .ok name ∧ o ∈ s.store.organizations.versions id ∧
      o.writtenBy ≠ i ∧ a.server.nameCanonical o.values.name = a.server.nameCanonical name
  held : ∀ id o, o ∈ s.store.organizations.versions id → ∀ t, Relation.ReflTransGen (Service.Step a) s t →
    ∀ i response publicId body name, Created t i response publicId →
    (a.requests i).route = .createOrganization (.ok body) → createOrgDtoIn a.framework a.unicode body = .ok name →
    a.server.nameCanonical o.values.name = a.server.nameCanonical name → i = o.writtenBy

/-- Whoever is told that a name is taken is told so of another's organization, and a committed organization has its
name to itself for good. -/
theorem names_taken (documented : a.framework.Documented) (honest : HonestConflicts a.server) (laws : a.unicode.SpaceLaws)
    (returns : a.framework.ReturnsValidated) (reached : Service.Reachable a s) : NamesTaken a s where
  told i response content answered status body code := by
    have inv := service_inv reached
    rcases answered_cases answered with ⟨raised, refused⟩ | ⟨job, outcome, finished⟩
    · obtain ⟨refusal, shown, -⟩ := refused_answer documented inv refused
      have other := (refusal_status refusal).2
      omega
    · obtain ⟨e, rfl, taken⟩ := finished_taken documented inv finished status body code
      have runs := inv.database _ (jobs_agree s job)
      obtain ⟨values, inserted, id, o, committed, same⟩ := clash_held honest runs (finished_ended finished _) taken
      have held : (s.phases i).job? = some job := by
        rw [finished]
        rfl
      rw [jobs_agree s job i job held] at inserted
      obtain ⟨kid, outcome, t, -, -, accepted⟩ := held_admitted inv held
      obtain ⟨principal, -, grants⟩ := accept_ok accepted
      obtain ⟨json, route, read, -⟩ := inserted_name laws returns grants inserted
      have lost : Lost i s.store := finished_settled inv finished
      exact ⟨json, values.name, id, o, route, read, committed, lost.organizations id o committed, same⟩
  held id o committed t later i response publicId body name created route read same := by
    have inv := service_inv (later_reachable reached later)
    obtain ⟨agrees, runs⟩ := later_database later (jobs_agree t idleLogin)
    have grows := organizations_grow ((service_inv reached).database _ agrees) runs
    have valid := (reachable_jobs_sound (inv.database _ (jobs_agree t idleLogin))).inv
    obtain ⟨-, key, mid, o', m, founds⟩ := created_founded documented inv created
    obtain ⟨principal, organization⟩ := committed_organization laws returns inv founds.organization
    rw [founds.founder] at organization
    obtain ⟨own, ownRoute, ownRead⟩ := organization.read
    cases route.symm.trans ownRoute
    have named : name = o'.values.name := Except.ok.inj (read.symm.trans ownRead)
    subst named
    have here : id = key :=
      valid.organizations.unique (Or.inl ((grows id).subset committed)) (Or.inl founds.organization) (Or.inr same)
    subst here
    have one : o = o' := valid.organizations.identified (Or.inl ((grows id).subset committed)) (Or.inl founds.organization)
    rw [one]
    exact founds.founder.symm

end

/-! ### A sample run -/

/-- The login of the sample, and what the creation that follows it ends in. -/
theorem sample_created : ∃ s t login response, Service.Reachable sampleApp s ∧
    s.phases 0 = .finished sampleLogin (.ok (.user sampleUser true)) (some login) ∧ (s.phases 1).job? = none ∧
    Relation.ReflTransGen (Service.Step sampleApp) s t ∧
    t.phases 1 = .finished sampleCreation (.ok (.organization ⟨sampleUuids 0⟩)) (some response) ∧
    response.statusCode = 201 ∧ response.body = .publicId (sampleUuids 0) ∧ Untouched t 2 ∧
    t.store = (stagedStore.commit 1).discard 1 := by
  obtain ⟨s, login, reached, store, loggedIn, -, untouched⟩ := sample_answered
  have arrived := untouched 1 Nat.one_ne_zero
  obtain ⟨t, admitted, here, running⟩ := sample_running arrived rfl (sample_creation 0)
  rw [store] at here
  obtain ⟨t, selected, here, running⟩ := sample_call (.execute (.selectUser "https://sso" "alice"))
    (.ok [sampleRow.orm]) provisionedStore running ⟨by rw [here]; exact ⟨rfl, sample_selects⟩, trivial⟩
  obtain ⟨t, organized, here, running⟩ := sample_call (.insertOrganization ⟨sampleUuids 0, "Acme"⟩) (.ok ())
    { provisionedStore with organizations := provisionedStore.organizations.write 1 0 sampleOrganization } running
    ⟨by rw [here]; exact ⟨0, Table.vacant_inserts sample_vacant 0 _, rfl⟩, trivial⟩
  obtain ⟨t, owned, here, running⟩ := sample_call
    (.execute (.insertMembership ⟨sampleUuids 1, sampleUuids 0, sampleUuids 0, .owner⟩)) (.ok ()) stagedStore running
    ⟨by
      rw [here]
      exact ⟨0, 0, 0, sampleRow, sampleOrganization, rfl, rfl, rfl, rfl, Table.vacant_inserts sample_vacant 0 _, rfl⟩,
    trivial⟩
  obtain ⟨t, committed, here, running⟩ := sample_call .commit (.ok ()) (stagedStore.commit 1) running
    ⟨by rw [here]; rfl, trivial⟩
  obtain ⟨t, closed, here, running⟩ := sample_call .close () ((stagedStore.commit 1).discard 1) running
    ⟨by rw [here]; rfl, trivial⟩
  have finished := leads_setPhase (Service.Step.finish running) rfl rfl
  have leads := ((((admitted.trans selected).trans organized).trans owned).trans committed).trans (closed.trans finished)
  exact ⟨s, _, login, _, reached, loggedIn, by rw [arrived.arrived]; rfl, leads.later, setPhase_self, rfl, rfl,
    leads.untouched 2 (by decide) (untouched 2 (by decide)), here⟩

theorem sample_laws : sampleApp.unicode.SpaceLaws where
  idempotent _ := rfl
  spaces text := by
    have kept := rewritten_map (p := PyString.isSpace) (f := id) (fun _ => rfl) text.toList
    rwa [List.map_id] at kept

theorem known_users_found_sample : ∃ (t : Service JsonObject) (answer : Response),
    (t.phases 1).response? = some answer ∧ answer.statusCode ≠ 404 := by
  obtain ⟨s, t, login, response, reached, loggedIn, unadmitted, later, finished, -⟩ := sample_created
  have answered : (t.phases 1).response? = some response := by
    rw [finished]
    rfl
  exact ⟨t, response, answered, known_users_found fastapi_documented careful_foreign reached
    (sample_loggedIn reached loggedIn) later unadmitted (by rw [finished]; rfl) ⟨_, _, rfl, rfl, rfl⟩ answered⟩

def foundedStore : Database := (stagedStore.commit 1).discard 1

theorem founded_view (id : Nat) : foundedStore.users.view 2 id = if id = 0 then some sampleRow else none := by
  by_cases here : id = 0
  · subst here
    rfl
  · simp [foundedStore, stagedStore, provisionedStore, Database.commit, Database.discard, Table.view, Table.commit,
      Table.discard, Table.write, Table.empty, here]

theorem founded_selects : Selects foundedStore 2 "https://sso" "alice" [sampleRow.orm] := by
  refine ⟨[(0, sampleRow)], by simp, rfl, fun id row => ?_⟩
  rw [founded_view]
  by_cases here : id = 0
  · subst here
    simp only [List.mem_singleton, Prod.mk.injEq, true_and, if_true, Option.some.injEq]
    constructor
    · rintro rfl
      exact ⟨rfl, rfl, rfl⟩
    · exact fun same => same.1.symm
  · simp [here]

def taken : AppError := translateDbError (determineExc nameViolation)

/-- The second creation of the sample is told that the name is taken. -/
theorem names_taken_sample : ∃ t response content, Service.Reachable sampleApp t ∧
    (t.phases 2).response? = some response ∧ response.statusCode = 409 ∧ response.body = .problem content ∧
    (ofString "code", text "organization_name_taken") ∈ content ∧ NamesTaken sampleApp t := by
  obtain ⟨s, t, login, response, reached, -, -, later, -, -, -, untouched, here⟩ := sample_created
  have reached := later_reachable reached later
  obtain ⟨t, admitted, store, running⟩ := sample_running untouched rfl (sample_creation 1)
  replace store : t.store = foundedStore := store.trans here
  obtain ⟨t, selected, store, running⟩ := sample_call (.execute (.selectUser "https://sso" "alice"))
    (.ok [sampleRow.orm]) foundedStore running ⟨by rw [store]; exact ⟨rfl, founded_selects⟩, trivial⟩
  obtain ⟨t, clashed, store, running⟩ := sample_call (.insertOrganization ⟨sampleUuids 0, "Acme"⟩)
    (.error (.driver nameViolation)) foundedStore running
    ⟨by rw [store]; exact Or.inl rfl, nofun, fun _ => ⟨_, rfl, 0, sampleOrganization, by rw [store]; exact Or.inl (.head _), rfl⟩⟩
  obtain ⟨t, rolledBack, store, running⟩ := sample_call .rollback (.ok ()) (foundedStore.discard 2) running
    ⟨by rw [store]; rfl, trivial⟩
  obtain ⟨t, closed, store, running⟩ := sample_call .close () ((foundedStore.discard 2).discard 2) running
    ⟨by rw [store]; rfl, trivial⟩
  have done : t.phases 2 = .running sampleCreation (.done (.error (.app taken))) := running
  have finished := leads_setPhase (Service.Step.finish done) rfl rfl
  have leads := ((admitted.trans selected).trans clashed).trans ((rolledBack.trans closed).trans finished)
  have ended := later_reachable reached leads.later
  obtain ⟨answer, content, sent, status, body, codes⟩ := respond_app (a := sampleApp) (i := 2) fastapi_documented taken
  refine ⟨_, answer, content, ended, ?_, status, body, (codes _).mpr rfl,
    names_taken fastapi_documented careful_honest sample_laws fastapi_returns ended⟩
  have answered := answer_app sent
  rw [setPhase_self, answered, Phase.response?]

end PetBackend.Api
