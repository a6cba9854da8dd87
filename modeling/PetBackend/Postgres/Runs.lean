import PetBackend.Postgres.Founding
import PetBackend.Postgres.Provisioning

/-!
# All the runs together

Every job is safe among the others, so the invariant holds in every state that they can reach, and
each run that has ended has committed what it returned, or nothing.
-/

namespace PetBackend.Postgres
open Library Persistence

def Won (jobs : Nat → Job) (i : Nat) : JobResult → Database → Prop :=
  match jobs i with
  | .createOrganization .. => OrganizationWon i
  | .provisionUser .. => UserWon i

section
variable {server : Server} {u : UnicodeData} {autoflush : Bool} {jobs : Nat → Job}
  {state later : Running DbOp DbOp.Ret Database (Except Exc JobResult)}

theorem empty_idle (i : Nat) : Idle i .empty := ⟨fun _ => rfl, fun _ => rfl, fun _ => rfl⟩

theorem empty_lost (i : Nat) : Lost i .empty := by
  constructor <;> intro id row member <;> cases member

theorem job_safe (i : Nat) : (setting server jobs i).Safe (Settled i (Won jobs i))
    ((jobs i).task u autoflush) .empty := by
  have valid : Inv server jobs .empty := empty_inv
  have safe : Calls (setting server jobs i) (run (asyncSession autoflush) ((jobs i).handler u))
      (fun outcome _ t => Settled i (Won jobs i) outcome t) {} .empty := by
    unfold Won
    cases job : jobs i with
    | createOrganization cmd uuidGen =>
      exact createOrganization_safe job (empty_idle i) (empty_lost i) valid
    | provisionUser principal uuidGen =>
      exact provisionUser_safe job (empty_idle i) (empty_lost i) valid
  exact Setting.safe_map safe valid

theorem initial_sound : Sound (setting server jobs) (Inv server jobs)
    (fun i => Settled i (Won jobs i)) (initial u autoflush jobs) :=
  ⟨empty_inv, job_safe⟩

theorem reachable_jobs_sound (reached : Reachable server u autoflush jobs state) :
    Sound (setting server jobs) (Inv server jobs) (fun i => Settled i (Won jobs i)) state :=
  reachable_sound setting_compatible initial_sound reached

theorem ended_settled (reached : Reachable server u autoflush jobs state) {i : Nat}
    {outcome : Except Exc JobResult} (ended : state.tasks i = .done outcome) :
    Settled i (Won jobs i) outcome state.store :=
  (reachable_jobs_sound reached).ended setting_compatible ended

/-! ### Organizations -/

/-- Each organization has exactly one membership, its creator's as owner, canonical names are
distinct, and a run that has ended has founded exactly the organization it returned, or nothing. -/
structure OrganizationsOwned (server : Server) (jobs : Nat → Job)
    (state : Running DbOp DbOp.Ret Database (Except Exc JobResult)) : Prop where
  owned : ∀ id o, o ∈ state.store.organizations.versions id →
    ∃ mid m, Owns jobs state.store id mid o.writtenBy m
  canonical : ∀ id id' o o', o ∈ state.store.organizations.versions id →
    o' ∈ state.store.organizations.versions id' →
    server.nameCanonical o.values.name = server.nameCanonical o'.values.name → id = id' ∧ o = o'
  returned : ∀ i cmd uuidGen result, jobs i = .createOrganization cmd uuidGen →
    state.tasks i = .done (.ok result) →
    ∃ publicId, result = .organization publicId ∧ Founded i publicId.value state.store
  raised : ∀ i raised, state.tasks i = .done (.error raised) → Lost i state.store

theorem organizations_owned (reached : Reachable server u autoflush jobs state) :
    OrganizationsOwned server jobs state := by
  have valid := (reachable_jobs_sound reached).inv
  constructor
  · exact valid.owned
  · intro id id' o o' member member' same
    have here := valid.organizations.unique (Or.inl member) (Or.inl member') (Or.inr same)
    subst here
    exact ⟨rfl, valid.organizations.identified (Or.inl member) (Or.inl member')⟩
  · intro i cmd uuidGen result job ended
    have settled := ended_settled reached ended
    simp only [Settled, Won, job] at settled
    cases result with
    | organization publicId => exact ⟨publicId, rfl, settled⟩
    | user user created => exact settled.elim
  · exact fun i raised ended => ended_settled reached ended

/-! ### Users -/

def Succeeded (jobs : Nat → Job) (state : Running DbOp DbOp.Ret Database (Except Exc JobResult))
    (issuer subject : String) (i : Nat) (user : User) (created : Bool) : Prop :=
  (∃ principal uuidGen, jobs i = .provisionUser principal uuidGen ∧ principal.issuer = issuer ∧
    principal.subject = subject) ∧ state.tasks i = .done (.ok (.user user created))

def UserRow.hasKey (row : UserRow) (issuer subject : String) : Prop :=
  row.values.authIssuer = issuer ∧ row.values.authSubject = subject

/-- The run that inserted a row of this identity and committed it. -/
def Creator (state : Running DbOp DbOp.Ret Database (Except Exc JobResult)) (issuer subject : String)
    (i : Nat) : Prop :=
  ∃ id row, row ∈ state.store.users.versions id ∧ row.hasKey issuer subject ∧ row.insertedBy = i

def UsersGrow (d d' : Database) : Prop := ∀ id, d.users.versions id <:+ d'.users.versions id

/-- One row for each identity, whose identity columns stay, whose other columns are those of the
upsert committed last, and which one run reports created. -/
structure ProvisionedOnce (server : Server) (jobs : Nat → Job)
    (state : Running DbOp DbOp.Ret Database (Except Exc JobResult)) : Prop where
  one : ∀ issuer subject id id' row row', row ∈ state.store.users.versions id →
    row' ∈ state.store.users.versions id' → row.hasKey issuer subject → row'.hasKey issuer subject →
    id = id'
  unchanged : ∀ id row row', row ∈ state.store.users.versions id →
    row' ∈ state.store.users.versions id → row.identity = row'.identity
  lasting : ∀ later, Running.Reachable server.step state later → UsersGrow state.store later.store
  latest : ∀ id row, row ∈ state.store.users.versions id → Authored jobs row
  reported : ∀ issuer subject i user created, Succeeded jobs state issuer subject i user created →
    ∃ creator, Creator state issuer subject creator ∧
      (∀ j user' created', Succeeded jobs state issuer subject j user' created' →
        (created' = true ↔ j = creator) ∧ user'.publicId = user.publicId) ∧
      ∀ outcome, state.tasks creator = .done outcome →
        ∃ user', Succeeded jobs state issuer subject creator user' true
  raised : ∀ i raised, state.tasks i = .done (.error raised) → Lost i state.store

theorem version_unique {d : Database} (valid : Inv server jobs d) {issuer subject : String}
    {id id' : Nat} {row row' : UserRow} (committed : row ∈ d.users.versions id)
    (committed' : row' ∈ d.users.versions id') (key : row.hasKey issuer subject)
    (key' : row'.hasKey issuer subject) : row.identity = row'.identity := by
  have here : id = id' := valid.users.unique (Or.inl committed) (Or.inl committed')
    (Or.inr ⟨key.2.trans key'.2.symm, key.1.trans key'.1.symm⟩)
  subst here
  exact valid.users.identified (Or.inl committed) (Or.inl committed')

theorem succeeded_version (reached : Reachable server u autoflush jobs state) {issuer subject : String}
    {i : Nat} {user : User} {created : Bool}
    (succeeded : Succeeded jobs state issuer subject i user created) :
    ∃ id row, row ∈ state.store.users.versions id ∧ row.hasKey issuer subject ∧
      user = toDomain row.orm ∧ (created = true ↔ row.insertedBy = i) := by
  obtain ⟨⟨principal, uuidGen, job, rfl, rfl⟩, ended⟩ := succeeded
  have settled := ended_settled reached ended
  simp only [Settled, Won, job] at settled
  obtain ⟨id, row, committed, mine, same, inserted⟩ := settled
  obtain ⟨author, _, _, wrote, issuer, subject, _⟩ :=
    (reachable_jobs_sound reached).inv.authored id row (Or.inl committed)
  rw [mine, job] at wrote
  cases wrote
  exact ⟨id, row, committed, ⟨issuer, subject⟩, same, inserted⟩

/-- The run that inserted a committed row, once it has ended, has returned and reported it. -/
theorem creator_reports (reached : Reachable server u autoflush jobs state) {issuer subject : String}
    {creator : Nat} (creates : Creator state issuer subject creator)
    {outcome : Except Exc JobResult} (ended : state.tasks creator = .done outcome) :
    ∃ user, Succeeded jobs state issuer subject creator user true := by
  have valid := (reachable_jobs_sound reached).inv
  obtain ⟨id, row, committed, key, rfl⟩ := creates
  obtain ⟨first, isFirst, wrote⟩ := valid.first committed
  obtain ⟨principal, uuidGen, _, job, firstIssuer, firstSubject, _⟩ :=
    valid.authored id first (Or.inl isFirst)
  have same : first.identity = row.identity := valid.users.identified (Or.inl isFirst) (Or.inl committed)
  have claims : principal.issuer = issuer ∧ principal.subject = subject := by
    rw [← firstIssuer, ← firstSubject]
    exact ⟨(congrArg UserIdentity.authIssuer same).trans key.1,
      (congrArg UserIdentity.authSubject same).trans key.2⟩
  rw [wrote] at job
  have settled := ended_settled reached ended
  rcases outcome with raised | ⟨publicId | ⟨user, created⟩⟩
  · exact (settled.users id first isFirst wrote).elim
  · simp only [Settled, Won, job] at settled
    exact settled.elim
  · have succeeded : Succeeded jobs state issuer subject row.insertedBy user created :=
      ⟨⟨principal, uuidGen, job, claims⟩, ended⟩
    obtain ⟨id', row', committed', key', _, inserted⟩ := succeeded_version reached succeeded
    have here := version_unique valid committed' committed key' key
    have reported : created = true := inserted.mpr (congrArg UserIdentity.insertedBy here)
    rw [reported] at succeeded
    exact ⟨user, succeeded⟩

theorem users_grow (reached : Reachable server u autoflush jobs state)
    (further : Running.Reachable server.step state later) : UsersGrow state.store later.store := by
  have grows : UsersGrow state.store later.store := by
    refine reachable_monotone setting_compatible (fun d id => List.suffix_rfl)
      (fun a b id => (a id).trans (b id)) ?_ (reachable_jobs_sound reached) further
    intro i s t spared id
    obtain ⟨newer, grown, _⟩ := (spared (i + 1) (Nat.ne_of_lt i.lt_succ_self)).users.grown id
    exact ⟨newer, grown.symm⟩
  exact grows

theorem provisioned_once (reached : Reachable server u autoflush jobs state) :
    ProvisionedOnce server jobs state := by
  have sound := reachable_jobs_sound reached
  have valid := sound.inv
  constructor
  · intro issuer subject id id' row row' member member' key key'
    refine valid.users.unique (Or.inl member) (Or.inl member') (Or.inr ⟨?_, ?_⟩)
    · exact key.2.trans key'.2.symm
    · exact key.1.trans key'.1.symm
  · exact fun id row row' member member' => valid.users.identified (Or.inl member) (Or.inl member')
  · exact fun later further => users_grow reached further
  · exact fun id row member => valid.authored id row (Or.inl member)
  · intro issuer subject i user created succeeded
    obtain ⟨id, row, committed, key, same, _⟩ := succeeded_version reached succeeded
    have creates : Creator state issuer subject row.insertedBy := ⟨id, row, committed, key, rfl⟩
    refine ⟨row.insertedBy, creates, ?_, fun outcome ended => creator_reports reached creates ended⟩
    intro j user' created' succeeded'
    obtain ⟨id', row', committed', key', same', inserted'⟩ := succeeded_version reached succeeded'
    have here := version_unique valid committed' committed key' key
    have inserter : row'.insertedBy = row.insertedBy := congrArg UserIdentity.insertedBy here
    refine ⟨?_, ?_⟩
    · rw [inserted', inserter]
      exact eq_comm
    · rw [same, same']
      exact congrArg PublicId.mk (congrArg UserIdentity.publicId here)
  · exact fun i raised ended => ended_settled reached ended

end

/-! ### A sample run -/

/-- The server that does whatever is permitted. -/
def loosest : Server where
  nameCanonical := id
  step := Permits id
  conforms h := h

def samplePrincipal : Principal where
  issuer := "https://sso"
  subject := "alice"
  email := "alice@example.com"
  username := "alice"

def sampleUuids (n : Nat) : UUID := BitVec.ofNat 128 n

/-- Run 0 provisions the user, the others create organizations. -/
def sampleJobs : Nat → Job
  | 0 => .provisionUser samplePrincipal sampleUuids
  | _ => .createOrganization ⟨"Acme", samplePrincipal⟩ sampleUuids

def sampleUser : User := userFromClaims samplePrincipal ⟨sampleUuids 0⟩ 7

def sampleRow : UserRow := ⟨userValues sampleUser, 0, 0, userUpdate sampleUser⟩

def sampleOrganization : OrganizationRow := ⟨⟨sampleUuids 0, "Acme"⟩, 1⟩

def sampleOwner : MembershipRow := ⟨sampleUuids 1, 0, 0, .owner, 1⟩

def provisionedStore : Database :=
  (Database.commit ⟨Table.empty.write 0 0 sampleRow, .empty, .empty⟩ 0).discard 0

def stagedStore : Database :=
  { provisionedStore with
    organizations := provisionedStore.organizations.write 1 0 sampleOrganization
    memberships := provisionedStore.memberships.write 1 0 sampleOwner }

theorem reach {server : Server} {u : UnicodeData} {autoflush : Bool} {jobs : Nat → Job}
    {state : Running DbOp DbOp.Ret Database (Except Exc JobResult)} (i : Nat) (op : DbOp)
    (answer : op.Ret) (after : Database) {next : op.Ret → Program DbOp DbOp.Ret (Except Exc JobResult)}
    (reached : Reachable server u autoflush jobs state) (pending : state.tasks i = .call op next)
    (called : server.step i op state.store answer after) : Reachable server u autoflush jobs
      ⟨after, fun j => if j = i then next answer else state.tasks j⟩ :=
  .step reached (.call pending called)

theorem sample_provisioned : ∃ tasks, Reachable loosest ⟨id, id⟩ true sampleJobs
    ⟨provisionedStore, tasks⟩ ∧ tasks 0 = .done (.ok (.user sampleUser true)) ∧
    tasks 1 = (sampleJobs 1).task ⟨id, id⟩ true := by
  have started : Reachable loosest ⟨id, id⟩ true sampleJobs (initial ⟨id, id⟩ true sampleJobs) :=
    .initial
  have clock := reach 0 .now (7 : DateTime) .empty started rfl rfl
  have upserted := reach 0 (.execute (.upsertUser (userValues sampleUser) (userUpdate sampleUser)))
    (.ok [(sampleRow.orm, true)]) ⟨Table.empty.write 0 0 sampleRow, .empty, .empty⟩ clock rfl
    (Or.inl ⟨0, Table.vacant_inserts Table.empty_live 0 _, rfl, rfl⟩)
  have committed := reach 0 .commit (.ok ())
    (Database.commit ⟨Table.empty.write 0 0 sampleRow, .empty, .empty⟩ 0) upserted rfl rfl
  have closed := reach 0 .close () provisionedStore committed rfl rfl
  exact ⟨_, closed, rfl, rfl⟩

theorem sample_view (id : Nat) :
    provisionedStore.users.view 1 id = if id = 0 then some sampleRow else none := by
  by_cases here : id = 0
  · subst here
    rfl
  · simp [provisionedStore, Database.commit, Database.discard, Table.view, Table.commit,
      Table.discard, Table.write, Table.empty, here]

theorem sample_selects : Selects provisionedStore 1 "https://sso" "alice" [sampleRow.orm] := by
  refine ⟨[(0, sampleRow)], by simp, rfl, fun id row => ?_⟩
  rw [sample_view]
  by_cases here : id = 0
  · subst here
    simp only [List.mem_singleton, Prod.mk.injEq, true_and, if_true, Option.some.injEq]
    constructor
    · rintro rfl
      exact ⟨rfl, rfl, rfl⟩
    · exact fun same => same.1.symm
  · simp [here]

theorem sample_vacant {ρ : Type} (key : Nat) (a : ρ) :
    ¬ (((Table.empty : Table ρ).commit 0).discard 0).Live key a :=
  fun live => Table.empty_live key a (Table.commit_live (Table.discard_live live))

theorem sample_founded : ∃ tasks, Reachable loosest ⟨id, id⟩ true sampleJobs
    ⟨(stagedStore.commit 1).discard 1, tasks⟩ ∧ tasks 0 = .done (.ok (.user sampleUser true)) ∧
    tasks 1 = .done (.ok (.organization ⟨sampleUuids 0⟩)) := by
  obtain ⟨tasks, reached, first, second⟩ := sample_provisioned
  have selected := reach 1 (.execute (.selectUser "https://sso" "alice")) (.ok [sampleRow.orm])
    provisionedStore reached second ⟨rfl, sample_selects⟩
  have organization := reach 1 (.insertOrganization ⟨sampleUuids 0, "Acme"⟩) (.ok ())
    { provisionedStore with
      organizations := provisionedStore.organizations.write 1 0 sampleOrganization } selected rfl
    ⟨0, Table.vacant_inserts sample_vacant 0 _, rfl⟩
  have membership := reach 1
    (.execute (.insertMembership ⟨sampleUuids 1, sampleUuids 0, sampleUuids 0, .owner⟩)) (.ok ())
    stagedStore organization rfl ⟨0, 0, 0, sampleRow, sampleOrganization, rfl, rfl, rfl, rfl,
      Table.vacant_inserts sample_vacant 0 _, rfl⟩
  have committed := reach 1 .commit (.ok ()) (stagedStore.commit 1) membership rfl rfl
  have closed := reach 1 .close () ((stagedStore.commit 1).discard 1) committed rfl rfl
  exact ⟨_, closed, first, rfl⟩
theorem organizations_owned_sample : ∃ state, Reachable loosest ⟨id, id⟩ true sampleJobs state ∧
    state.store.organizations.versions 0 = [sampleOrganization] ∧
    OrganizationsOwned loosest sampleJobs state := by
  obtain ⟨tasks, reached, _, _⟩ := sample_founded
  exact ⟨_, reached, rfl, organizations_owned reached⟩

theorem provisioned_once_sample : ∃ state, Reachable loosest ⟨id, id⟩ true sampleJobs state ∧
    Succeeded sampleJobs state "https://sso" "alice" 0 sampleUser true ∧
    ProvisionedOnce loosest sampleJobs state := by
  obtain ⟨tasks, reached, first, _⟩ := sample_founded
  exact ⟨_, reached, ⟨⟨samplePrincipal, sampleUuids, rfl, rfl, rfl⟩, first⟩, provisioned_once reached⟩

end PetBackend.Postgres
