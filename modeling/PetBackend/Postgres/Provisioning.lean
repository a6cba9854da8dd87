import PetBackend.Postgres.Transactions

/-!
# Provisioning a user

The run of `provision_user_from_claims`: what its upsert writes, and what its commit makes of it.
-/

namespace PetBackend.Postgres
open Library Persistence Py

/-- Run `i` has committed this version of a row, which it inserted if it says so. -/
def Provisioned (i : Nat) (user : User) (created : Bool) (d : Database) : Prop :=
  ∃ id row, row ∈ d.users.versions id ∧ row.writtenBy = i ∧ user = toDomain row.orm ∧
    (created = true ↔ row.insertedBy = i)

/-- Run `i` has written the version and nothing else, and can commit it. -/
structure Upserted (i : Nat) (orm : UserORM) (created : Bool) (d : Database) : Prop where
  lost : Lost i d
  organizations : ∀ id, d.organizations.own i id = none
  memberships : ∀ id, d.memberships.own i id = none
  user : ∃ id row, d.users.own i id = some row ∧ row.writtenBy = i ∧ row.orm = orm ∧
    (created = true ↔ row.insertedBy = i)

theorem provisioned_endures (i : Nat) (user : User) (created : Bool) :
    Endures i (Provisioned i user created) where
  spared spared provisioned := by
    obtain ⟨id, row, committed, mine, same, inserted⟩ := provisioned
    exact ⟨id, row, spared.users.mem committed, mine, same, inserted⟩
  discarded provisioned := provisioned

theorem Upserted.spared {i : Nat} {orm : UserORM} {created : Bool} {d d' : Database}
    (upserted : Upserted i orm created d) (spared : Spares i d d') : Upserted i orm created d' where
  lost := (lost_endures i).spared spared upserted.lost
  organizations id := by
    rw [spared.organizations.own]
    exact upserted.organizations id
  memberships id := by
    rw [spared.memberships.own]
    exact upserted.memberships id
  user := by
    rw [spared.users.own]
    exact upserted.user

theorem upserted_prepared (jobs : Nat → Job) (i : Nat) (orm : UserORM) (created : Bool) :
    Prepared jobs i (Upserted i orm created) (Provisioned i (toDomain orm) created) where
  spared spared upserted := upserted.spared spared
  lost := Upserted.lost
  committable upserted := by
    constructor
    · intro id o own
      rw [upserted.organizations id] at own
      cases own
    · intro mid m own
      rw [upserted.memberships mid] at own
      cases own
  wins upserted := by
    obtain ⟨id, row, own, mine, same, inserted⟩ := upserted.user
    exact ⟨id, row, Table.mem_commit.mpr (Or.inl own), mine, by rw [same], inserted⟩

section
variable {server : Server} {jobs : Nat → Job} {i : Nat} {d : Database} {σ : SessionState}
  {autoflush : Bool} {principal : Principal} {uuidGen : Nat → UUID} {u : UnicodeData}

theorem authored_upsert (job : jobs i = .provisionUser principal uuidGen) (now : DateTime)
    (row : UserRow) (writer : row.writtenBy = i) (issuer : row.values.authIssuer = principal.issuer)
    (subject : row.values.authSubject = principal.subject)
    (update : row.update = userUpdate (userFromClaims principal ⟨uuidGen 0⟩ now))
    (profile : row.profile = row.update) : Authored jobs row :=
  ⟨principal, uuidGen, now, by rw [writer, job], issuer, subject, update, profile⟩

theorem calls_upsert (job : jobs i = .provisionUser principal uuidGen) (now : DateTime)
    (idle : Idle i d) (lost : Lost i d) : Calls (setting server jobs i)
      (dbCall (.execute (.upsertUser (userValues (userFromClaims principal ⟨uuidGen 0⟩ now))
        (userUpdate (userFromClaims principal ⟨uuidGen 0⟩ now)))))
      (Handled i fun (rows : List (UserORM × Bool)) σ' t => σ' = σ ∧
        ∃ orm created, rows = [(orm, created)] ∧ Upserted i orm created t) σ d := by
  refine calls_statement ⟨idle, lost⟩ (idle_endures i).spared And.right ?_
  rintro t rows after ⟨idle, lost⟩ valid permitted
  rcases permitted with ⟨id, inserts, rfl, rfl⟩ | ⟨id, row, seen, subject, issuer, unlocked, rfl, rfl⟩
  · obtain ⟨others, stays⟩ := kept_insertUser valid _ rfl inserts
      (authored_upsert job now _ rfl rfl rfl rfl rfl) rfl
    refine ⟨others, stays, fun t' moved' _ => ⟨rfl, _, true, rfl, Upserted.spared ?_ moved'⟩⟩
    refine ⟨⟨lost.users, lost.organizations, lost.memberships⟩, idle.organizations,
      idle.memberships, id, _, ?_, rfl, rfl, by simp⟩
    simp [Table.write]
  · have committed := Table.view_committed seen (idle.users id)
    obtain ⟨others, stays⟩ := kept_setUser valid committed unlocked
      (authored_upsert job now (row.set i _) rfl issuer subject rfl rfl)
    refine ⟨others, stays, fun t' moved' _ => ⟨rfl, _, false, rfl, Upserted.spared ?_ moved'⟩⟩
    refine ⟨⟨lost.users, lost.organizations, lost.memberships⟩, idle.organizations,
      idle.memberships, id, _, ?_, rfl, rfl, ?_⟩
    · simp [Table.write]
    · obtain ⟨first, isFirst, wrote⟩ := valid.first committed
      have other := lost.users id first isFirst
      rw [wrote] at other
      simpa [UserRow.set] using other

theorem provisionUser_handler : (Job.provisionUser principal uuidGen).handler u =
    .call .now fun answer => match answer with
      | .error raised => .done (.error raised)
      | .ok now => .call (.upsert (userFromClaims principal ⟨uuidGen 0⟩ now)) fun answer =>
        match answer with
        | .error raised => .done (.error raised)
        | .ok (user, created) => .done (.ok (.user user created)) := by
  show Program.call _ _ = _
  congr 1
  funext answer
  rcases answer with raised | now
  · rfl
  · show Program.call _ _ = _
    congr 1
    funext answer
    rcases answer with raised | ⟨user, created⟩ <;> rfl

def UserWon (i : Nat) : JobResult → Database → Prop
  | .user user created, d => Provisioned i user created d
  | .organization _, _ => False

def UserReady (i : Nat) : JobResult → SessionState → Database → Prop
  | .user user created, σ, d => σ = {} ∧ ∃ orm, user = toDomain orm ∧ Upserted i orm created d
  | .organization _, _, _ => False

theorem userWon_endures (i : Nat) (result : JobResult) : Endures i (UserWon i result) := by
  cases result with
  | user user created => exact provisioned_endures i user created
  | organization publicId => exact ⟨fun _ impossible => impossible, fun impossible => impossible⟩

theorem ends_provisionUser (job : jobs i = .provisionUser principal uuidGen) {uow : UnitOfWork}
    (opened : Opened uow) (idle : Idle i d) (lost : Lost i d) (valid : Inv server jobs d) :
    Ends (setting server jobs i)
      (runHandler (asyncSession autoflush) ((Job.provisionUser principal uuidGen).handler u))
      (fun outcome uow σ t => Opened uow ∧ Handled i (UserReady i) outcome σ t) uow {} d := by
  rw [provisionUser_handler]
  refine ends_call valid (ends_lift valid (calls_dbCall fun t moved valid now after called => ?_))
  have same : after = t := server.conforms called
  subst same
  refine ⟨fun j _ => (setting server jobs j).rely_refl _, valid, fun t' moved' _ valid' => ?_⟩
  obtain ⟨idle, lost⟩ := (idle_endures i).spared moved' ((idle_endures i).spared moved ⟨idle, lost⟩)
  refine ends_call valid' (ends_accessor opened.2.2.1 valid' (ends_bind valid' ?_))
  refine ends_mono ?_ (ends_repoExecute valid' opened (calls_execute_idle (calls_upsert job now idle lost)))
  rintro (raised | rows) uow' σ' t'' stays ⟨opened', there⟩
  · exact fun _ => ends_raised opened' there
  · obtain ⟨rfl, orm, created, rfl, upserted⟩ := there
    exact fun _ => ends_pure fun t₃ moved₃ _ _ => ends_settle fun t₄ moved₄ _ =>
      ⟨opened', rfl, orm, rfl, (upserted.spared moved₃).spared moved₄⟩

theorem provisionUser_safe (job : jobs i = .provisionUser principal uuidGen) (idle : Idle i d)
    (lost : Lost i d) (valid : Inv server jobs d) :
    Calls (setting server jobs i)
      (run (asyncSession autoflush) ((Job.provisionUser principal uuidGen).handler u))
      (fun outcome _ t => Settled i (UserWon i) outcome t) σ d := by
  refine calls_run ?_ (userWon_endures i) idle lost valid
    fun uow d opened idle lost valid => ends_provisionUser job opened idle lost valid
  rintro (publicId | ⟨user, created⟩) σ d valid ready
  · exact ready.elim
  · obtain ⟨rfl, orm, rfl, upserted⟩ := ready
    exact calls_commit (upserted_prepared jobs i orm created) (provisioned_endures i _ created) upserted

end

end PetBackend.Postgres
