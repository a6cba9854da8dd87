import PetBackend.Postgres.Transactions

/-!
# Creating an organization

The run of `create_organization_cmd`. With autoflush the organization is inserted before its
membership. Without, the membership can only refer to an organization that exists, and then the
organization's own insert fails on commit.
-/

namespace PetBackend.Postgres
open Library Persistence Py

/-- Run `i` has committed organization `id` with membership `mid`, and nothing else of the kind. -/
structure Founds (i : Nat) (publicId : UUID) (id mid : Nat) (o : OrganizationRow) (m : MembershipRow)
    (d : Database) : Prop where
  organization : o ∈ d.organizations.versions id
  founder : o.writtenBy = i
  publicId : o.values.publicId = publicId
  onlyOrganization : ∀ key a, a ∈ d.organizations.versions key → a.writtenBy = i → key = id ∧ a = o
  membership : m ∈ d.memberships.versions mid
  author : m.writtenBy = i
  org : m.orgId = id
  onlyMembership : ∀ key a, a ∈ d.memberships.versions key → a.writtenBy = i → key = mid ∧ a = m

def Founded (i : Nat) (publicId : UUID) (d : Database) : Prop :=
  ∃ id mid o m, Founds i publicId id mid o m d

/-- A committed row carries the user's public id and the identity of the principal. -/
def Knows (cmd : CreateOrganizationCmdIn) (user : User) (d : Database) : Prop :=
  ∃ id row, row ∈ d.users.versions id ∧ row.values.publicId = user.publicId.value ∧
    row.values.authIssuer = cmd.principal.issuer ∧ row.values.authSubject = cmd.principal.subject

structure Staged (cmd : CreateOrganizationCmdIn) (user : User) (i : Nat) (publicId : UUID) (id : Nat)
    (o : OrganizationRow) (d : Database) : Prop where
  lost : Lost i d
  knows : Knows cmd user d
  founder : o.writtenBy = i
  organization : ∀ key a, d.organizations.own i key = some a ↔ key = id ∧ a = o
  publicId : o.values.publicId = publicId
  memberships : ∀ key, d.memberships.own i key = none

/-- Run `i` has inserted its organization and the owner's membership. -/
structure Owned (jobs : Nat → Job) (i : Nat) (publicId : UUID) (id mid : Nat) (o : OrganizationRow)
    (m : MembershipRow) (d : Database) : Prop where
  lost : Lost i d
  organization : ∀ key a, d.organizations.own i key = some a ↔ key = id ∧ a = o
  founder : o.writtenBy = i
  publicId : o.values.publicId = publicId
  membership : ∀ key a, d.memberships.own i key = some a ↔ key = mid ∧ a = m
  author : m.writtenBy = i
  org : m.orgId = id
  role : m.userRole = .owner
  user : ∃ row ∈ d.users.versions m.userId, Identifies jobs i row

/-- An organization with this public id is committed already. -/
structure Doomed (i : Nat) (publicId : UUID) (d : Database) : Prop where
  lost : Lost i d
  taken : ∃ id o, o ∈ d.organizations.versions id ∧ o.values.publicId = publicId

section
variable {i : Nat} {publicId : UUID} {d d' : Database}

theorem founded_endures (i : Nat) (publicId : UUID) : Endures i (Founded i publicId) where
  spared spared founded := by
    obtain ⟨id, mid, o, m, founds⟩ := founded
    exact ⟨id, mid, o, m, {
      organization := spared.organizations.mem founds.organization
      founder := founds.founder
      publicId := founds.publicId
      onlyOrganization := fun key a member mine =>
        founds.onlyOrganization key a (spared.organizations.mine member mine) mine
      membership := spared.memberships.mem founds.membership
      author := founds.author
      org := founds.org
      onlyMembership := fun key a member mine =>
        founds.onlyMembership key a (spared.memberships.mine member mine) mine }⟩
  discarded founded := by
    obtain ⟨id, mid, o, m, founds⟩ := founded
    exact ⟨id, mid, o, m, ⟨founds.organization, founds.founder, founds.publicId,
      founds.onlyOrganization, founds.membership, founds.author, founds.org, founds.onlyMembership⟩⟩

theorem Knows.spared {cmd : CreateOrganizationCmdIn} {user : User} (knows : Knows cmd user d)
    (spared : Spares i d d') : Knows cmd user d' := by
  obtain ⟨id, row, committed, same⟩ := knows
  exact ⟨id, row, spared.users.mem committed, same⟩

theorem Staged.spared {cmd : CreateOrganizationCmdIn} {user : User} {id : Nat} {o : OrganizationRow}
    (staged : Staged cmd user i publicId id o d) (spared : Spares i d d') :
    Staged cmd user i publicId id o d' where
  lost := (lost_endures i).spared spared staged.lost
  knows := staged.knows.spared spared
  founder := staged.founder
  organization key a := by
    rw [spared.organizations.own]
    exact staged.organization key a
  publicId := staged.publicId
  memberships key := by
    rw [spared.memberships.own]
    exact staged.memberships key

theorem Doomed.spared (doomed : Doomed i publicId d) (spared : Spares i d d') :
    Doomed i publicId d' where
  lost := (lost_endures i).spared spared doomed.lost
  taken := by
    obtain ⟨id, o, committed, same⟩ := doomed.taken
    exact ⟨id, o, spared.organizations.mem committed, same⟩

theorem owned_prepared (jobs : Nat → Job) (i : Nat) (publicId : UUID) (id mid : Nat)
    (o : OrganizationRow) (m : MembershipRow) :
    Prepared jobs i (Owned jobs i publicId id mid o m) (Founded i publicId) where
  spared spared owned := { owned with
    lost := (lost_endures i).spared spared owned.lost
    organization := fun key a => by
      rw [spared.organizations.own]
      exact owned.organization key a
    membership := fun key a => by
      rw [spared.memberships.own]
      exact owned.membership key a
    user := by
      obtain ⟨row, committed, identifies⟩ := owned.user
      exact ⟨row, spared.users.mem committed, identifies⟩ }
  lost := Owned.lost
  committable owned := by
    constructor
    · intro key a own
      obtain ⟨rfl, rfl⟩ := (owned.organization key a).mp own
      refine ⟨mid, m, (owned.membership mid m).mpr ⟨rfl, rfl⟩, owned.org, owned.role, owned.user, ?_⟩
      intro key other ownOther _
      exact (owned.membership key other).mp ownOther
    · intro key a own
      obtain ⟨rfl, rfl⟩ := (owned.membership key a).mp own
      exact ⟨o, (owned.organization _ o).mpr ⟨owned.org, rfl⟩⟩
  wins {d} owned := by
    refine ⟨id, mid, o, m, ?_⟩
    constructor
    · exact Table.mem_commit.mpr (Or.inl ((owned.organization id o).mpr ⟨rfl, rfl⟩))
    · exact owned.founder
    · exact owned.publicId
    · intro key a member mine
      rcases Table.mem_commit.mp member with own | older
      · exact (owned.organization key a).mp own
      · exact (owned.lost.organizations key a older mine).elim
    · exact Table.mem_commit.mpr (Or.inl ((owned.membership mid m).mpr ⟨rfl, rfl⟩))
    · exact owned.author
    · exact owned.org
    · intro key a member mine
      rcases Table.mem_commit.mp member with own | older
      · exact (owned.membership key a).mp own
      · exact (owned.lost.memberships key a older mine).elim

end

section
variable {server : Server} {jobs : Nat → Job} {i : Nat} {d : Database} {σ : SessionState}
  {cmd : CreateOrganizationCmdIn} {uuidGen : Nat → UUID} {user : User}

theorem calls_select (idle : Idle i d) (lost : Lost i d) (issuer subject : String) :
    Calls (setting server jobs i) (dbCall (.execute (.selectUser issuer subject)))
      (Handled i fun (rows : List UserORM) σ' t => σ' = σ ∧ Idle i t ∧ Lost i t ∧
        ∀ orm ∈ rows, ∃ id row, row ∈ t.users.versions id ∧ row.orm = orm ∧
          row.values.authIssuer = issuer ∧ row.values.authSubject = subject) σ d := by
  refine calls_statement ⟨idle, lost⟩ (idle_endures i).spared And.right ?_
  rintro t rows after ⟨idle, lost⟩ valid ⟨rfl, found, _, rfl, exact_⟩
  refine ⟨fun j _ => (setting server jobs j).rely_refl _, valid, fun t' moved' _ => ?_⟩
  obtain ⟨idle', lost'⟩ := (idle_endures i).spared moved' ⟨idle, lost⟩
  refine ⟨rfl, idle', lost', fun orm member => ?_⟩
  obtain ⟨⟨id, row⟩, isFound, rfl⟩ := List.mem_map.mp member
  obtain ⟨seen, same⟩ := (exact_ id row).mp isFound
  exact ⟨id, row, moved'.users.mem (Table.view_committed seen (idle.users id)), rfl, same⟩

theorem calls_insertOrganization (idle : Idle i d) (lost : Lost i d) (knows : Knows cmd user d)
    (values : OrganizationValues) :
    Calls (setting server jobs i) (dbCall (.insertOrganization values))
      (Handled i fun (_ : Unit) σ' t => σ' = σ ∧
        ∃ id, Staged cmd user i values.publicId id ⟨values, i⟩ t) σ d := by
  refine calls_dbCall fun t moved valid answer after called => ?_
  obtain ⟨idle, lost⟩ := (idle_endures i).spared moved ⟨idle, lost⟩
  have permitted := server.conforms called
  cases answer with
  | error raised => exact failed_lost valid lost permitted
  | ok =>
    obtain ⟨id, inserts, rfl⟩ := permitted
    obtain ⟨others, stays⟩ := kept_writeOrganization valid rfl inserts
    have knows : Knows cmd user t := knows.spared moved
    refine ⟨others, stays, fun t' moved' _ => ⟨rfl, id, Staged.spared ?_ moved'⟩⟩
    refine ⟨⟨lost.users, lost.organizations, lost.memberships⟩, knows, rfl, ?_, rfl, idle.memberships⟩
    intro key a
    simp [Table.write, idle.organizations, eq_comm]

theorem calls_insertTaken {values : OrganizationValues} (doomed : Doomed i values.publicId d) :
    Calls (setting server jobs i) (dbCall (.insertOrganization values))
      (Handled i fun (_ : Unit) _ _ => False) σ d := by
  refine calls_dbCall fun t moved valid answer after called => ?_
  have doomed := doomed.spared moved
  have permitted := server.conforms called
  cases answer with
  | error raised => exact failed_lost valid doomed.lost permitted
  | ok =>
    obtain ⟨id, inserts, _⟩ := permitted
    obtain ⟨key, o, committed, same⟩ := doomed.taken
    exact (inserts.unique key o (Or.inl committed) (Or.inl same.symm)).elim

theorem calls_insertMembership {publicId : UUID} {id : Nat} {o : OrganizationRow}
    (job : jobs i = .createOrganization cmd uuidGen) (staged : Staged cmd user i publicId id o d)
    (values : MembershipValues) (sameOrg : values.orgPublicId = publicId)
    (sameUser : values.userPublicId = user.publicId.value) (owner : values.userRole = .owner) :
    Calls (setting server jobs i) (dbCall (.execute (.insertMembership values)))
      (Handled i fun (_ : Unit) σ' t => σ' = σ ∧ ∃ mid m, Owned jobs i publicId id mid o m t) σ d := by
  refine calls_statement staged (fun moved staged => staged.spared moved) Staged.lost ?_
  intro t _ after staged valid permitted
  obtain ⟨mid, userId, orgId, row, organization, seenUser, isUser, seenOrg, isOrg, inserts, rfl⟩ :=
    permitted
  obtain ⟨others, stays⟩ := kept_writeMembership valid rfl inserts seenOrg
  obtain ⟨key, known, committed, knownId, issuer, subject⟩ := staged.knows
  have own : t.organizations.own i id = some o := (staged.organization id o).mpr ⟨rfl, rfl⟩
  have here : orgId = id := valid.organizations.unique (Table.view_live seenOrg) (Or.inr ⟨i, own⟩)
    (Or.inl (isOrg.trans (sameOrg.trans staged.publicId.symm)))
  have there : userId = key := valid.users.unique (Table.view_live seenUser) (Or.inl committed)
    (Or.inl (isUser.trans (sameUser.trans knownId.symm)))
  refine ⟨others, stays, fun t' moved' _ =>
    ⟨rfl, mid, ⟨values.publicId, userId, orgId, values.userRole, i⟩, ?_⟩⟩
  refine (owned_prepared jobs i publicId id mid o _).spared moved' ?_
  refine ⟨⟨staged.lost.users, staged.lost.organizations, staged.lost.memberships⟩,
    staged.organization, staged.founder, staged.publicId, ?_, rfl, here, owner, known, ?_, ?_⟩
  · intro k a
    simp [Table.write, staged.memberships, eq_comm]
  · rw [there]
    exact committed
  · exact ⟨cmd, uuidGen, job, issuer, subject⟩

/-- Without an organization of its own the run can only refer to a committed one. -/
theorem calls_insertStray (idle : Idle i d) (lost : Lost i d) (values : MembershipValues) :
    Calls (setting server jobs i) (dbCall (.execute (.insertMembership values)))
      (Handled i fun (_ : Unit) σ' t => σ' = σ ∧ Doomed i values.orgPublicId t) σ d := by
  refine calls_statement ⟨idle, lost⟩ (idle_endures i).spared And.right ?_
  rintro t _ after ⟨idle, lost⟩ valid permitted
  obtain ⟨mid, userId, orgId, row, organization, _, _, seenOrg, isOrg, inserts, rfl⟩ := permitted
  obtain ⟨others, stays⟩ := kept_writeMembership valid rfl inserts seenOrg
  refine ⟨others, stays, fun t' moved' _ => ⟨rfl, Doomed.spared ?_ moved'⟩⟩
  exact ⟨⟨lost.users, lost.organizations, lost.memberships⟩, orgId, organization,
    Table.view_committed seenOrg (idle.organizations orgId), isOrg⟩

/-! ### The handler -/

variable {autoflush : Bool} {u : UnicodeData} {uow : UnitOfWork}

/-- What the handler does once it has the user and a valid name. -/
def stageOwner (uuidGen : Nat → UUID) (user : User) (name : Name u) : HandlerProgram u JobResult :=
  .call (.orgsCreate ⟨⟨uuidGen 0⟩, name⟩) fun answer => match answer with
    | .error raised => .done (.error raised)
    | .ok () => .call (.membershipsCreate ⟨⟨uuidGen 1⟩, ⟨uuidGen 0⟩, user.publicId, .owner⟩)
      fun answer => match answer with
        | .error raised => .done (.error raised)
        | .ok () => .done (.ok (.organization ⟨uuidGen 0⟩))

theorem createOrganization_handler : (Job.createOrganization cmd uuidGen).handler u =
    .call (.getByAuthIdentity cmd.principal.issuer cmd.principal.subject) fun answer => match answer with
      | .error raised => .done (.error raised)
      | .ok none => .done (.error (.app (notFound "User not found")))
      | .ok (some user) => match Name.create u cmd.name with
        | .error raised => .done (.error (.validation raised))
        | .ok name => stageOwner uuidGen user name := by
  show Program.call _ _ = _
  congr 1
  funext answer
  rcases answer with raised | _ | user
  · rfl
  · rfl
  · unfold nameOrRaise
    cases Name.create u cmd.name with
    | error raised => rfl
    | ok name =>
      show Program.call _ _ = _
      congr 1
      funext answer
      rcases answer with raised | _
      · rfl
      · show Program.call _ _ = _
        congr 1
        funext answer
        rcases answer with raised | _ <;> rfl

theorem calls_flush {values : OrganizationValues} {post : Except Exc Unit → SessionState → Database → Prop}
    (safe : Calls (setting server jobs i) (dbCall (.insertOrganization values)) post {} d) :
    Calls (setting server jobs i) flushPending post ⟨[values]⟩ d := by
  have same : flushPending.run ⟨[values]⟩ = (dbCall (.insertOrganization values)).run {} := by
    show Program.call _ _ = Program.call _ _
    congr 1
    funext answer
    rcases answer with raised | _ <;> rfl
  unfold Calls
  rw [same]
  exact safe

def OrganizationWon (i : Nat) : JobResult → Database → Prop
  | .organization publicId, d => Founded i publicId.value d
  | .user _ _, _ => False

def OrganizationReady (jobs : Nat → Job) (i : Nat) : JobResult → SessionState → Database → Prop
  | .organization publicId, σ, d =>
    (σ = {} ∧ ∃ id mid o m, Owned jobs i publicId.value id mid o m d) ∨
      ∃ values, σ = ⟨[values]⟩ ∧ values.publicId = publicId.value ∧ Doomed i publicId.value d
  | .user _ _, _, _ => False

theorem organizationWon_endures (i : Nat) (result : JobResult) : Endures i (OrganizationWon i result) := by
  cases result with
  | organization publicId => exact founded_endures i publicId.value
  | user user created => exact ⟨fun _ impossible => impossible, fun impossible => impossible⟩

theorem calls_membership (job : jobs i = .createOrganization cmd uuidGen) (idle : Idle i d)
    (lost : Lost i d) (knows : Knows cmd user d) (valid : Inv server jobs d) (name : String) :
    Calls (setting server jobs i) ((asyncSession autoflush).execute 0 (.insertMembership
        (membershipValues ⟨⟨uuidGen 1⟩, ⟨uuidGen 0⟩, user.publicId, .owner⟩)))
      (Handled i fun (_ : Unit) σ t => OrganizationReady jobs i (.organization ⟨uuidGen 0⟩) σ t)
      ⟨[⟨uuidGen 0, name⟩]⟩ d := by
  cases autoflush with
  | true =>
    refine calls_bind valid (calls_mono ?_
      (calls_flush (calls_insertOrganization idle lost knows ⟨uuidGen 0, name⟩)))
    rintro (raised | _) σ t stays there _
    · exact calls_pure ((lost_endures i).lasts there)
    · obtain ⟨rfl, id, staged⟩ := there
      refine calls_mono ?_ (calls_insertMembership job staged _ rfl rfl rfl)
      rintro (raised | _) σ' t' stays' there'
      · exact there'
      · obtain ⟨rfl, mid, m, owned⟩ := there'
        exact Or.inl ⟨rfl, id, mid, _, m, owned⟩
  | false =>
    refine calls_bind valid (calls_pure fun t moved stays _ => ?_)
    obtain ⟨idle, lost⟩ := (idle_endures i).spared moved ⟨idle, lost⟩
    refine calls_mono ?_ (calls_insertStray idle lost _)
    rintro (raised | _) σ' t' stays' there'
    · exact there'
    · obtain ⟨rfl, doomed⟩ := there'
      exact Or.inr ⟨_, rfl, rfl, doomed⟩

theorem organizationReady_spared {result : JobResult} {d' : Database}
    (ready : OrganizationReady jobs i result σ d) (spared : Spares i d d') :
    OrganizationReady jobs i result σ d' := by
  cases result with
  | organization publicId =>
    rcases ready with ⟨idle, id, mid, o, m, owned⟩ | ⟨values, pending, same, doomed⟩
    · exact Or.inl ⟨idle, id, mid, o, m, (owned_prepared jobs i _ id mid o m).spared spared owned⟩
    · exact Or.inr ⟨values, pending, same, doomed.spared spared⟩
  | user user created => exact ready.elim

theorem ends_stageOwner (job : jobs i = .createOrganization cmd uuidGen) (opened : Opened uow)
    (idle : Idle i d) (lost : Lost i d) (knows : Knows cmd user d) (valid : Inv server jobs d)
    (name : Name u) : Ends (setting server jobs i)
      (runHandler (asyncSession autoflush) (stageOwner uuidGen user name))
      (fun outcome uow σ t => Opened uow ∧ Handled i (OrganizationReady jobs i) outcome σ t)
      uow {} d := by
  refine ends_call valid (ends_accessor opened.2.1 valid (ends_lift valid (calls_modify ?_)))
  intro t moved valid _
  obtain ⟨idle, lost⟩ := (idle_endures i).spared moved ⟨idle, lost⟩
  have knows := knows.spared moved
  refine ends_call valid (ends_accessor opened.2.2.2 valid ?_)
  refine ends_mono ?_ (ends_repoExecute valid opened
    (calls_membership job idle lost knows valid name.value))
  rintro (raised | _) uow' σ t' stays ⟨opened', there⟩ _
  · exact ends_raised opened' there
  · have ready : OrganizationReady jobs i (.organization ⟨uuidGen 0⟩) σ t' := there
    exact ends_settle fun t'' moved' _ => ⟨opened', organizationReady_spared ready moved'⟩

theorem ends_createOrganization (job : jobs i = .createOrganization cmd uuidGen) (opened : Opened uow)
    (idle : Idle i d) (lost : Lost i d) (valid : Inv server jobs d) : Ends (setting server jobs i)
      (runHandler (asyncSession autoflush) ((Job.createOrganization cmd uuidGen).handler u))
      (fun outcome uow σ t => Opened uow ∧ Handled i (OrganizationReady jobs i) outcome σ t)
      uow {} d := by
  rw [createOrganization_handler]
  refine ends_call valid (ends_accessor opened.2.2.1 valid (ends_bind valid ?_))
  refine ends_mono ?_ (ends_repoExecute valid opened (calls_execute_idle (calls_select idle lost _ _)))
  rintro (raised | rows) uow' σ t stays ⟨opened, there⟩
  · exact fun _ => ends_raised opened there
  · obtain ⟨rfl, idle, lost, found⟩ := there
    intro _
    rcases rows with _ | ⟨orm, _ | ⟨second, rest⟩⟩
    · exact ends_pure fun t' moved _ _ => ends_raised opened ((lost_endures i).spared moved lost)
    · obtain ⟨id, row, committed, rfl, same⟩ := found orm List.mem_cons_self
      have knows : Knows cmd (toDomain row.orm) t := ⟨id, row, committed, rfl, same⟩
      refine ends_pure fun t' moved valid _ => ?_
      obtain ⟨idle, lost⟩ := (idle_endures i).spared moved ⟨idle, lost⟩
      cases Name.create u cmd.name with
      | error raised =>
        simp only
        exact ends_raised opened lost
      | ok name =>
        simp only
        exact ends_stageOwner job opened idle lost (knows.spared moved) valid name
    · exact ends_raise fun t' moved _ _ => ends_raised opened ((lost_endures i).spared moved lost)

theorem createOrganization_safe (job : jobs i = .createOrganization cmd uuidGen) (idle : Idle i d)
    (lost : Lost i d) (valid : Inv server jobs d) : Calls (setting server jobs i)
      (run (asyncSession autoflush) ((Job.createOrganization cmd uuidGen).handler u))
      (fun outcome _ t => Settled i (OrganizationWon i) outcome t) σ d := by
  refine calls_run ?_ (organizationWon_endures i) idle lost valid
    fun uow d opened idle lost valid => ends_createOrganization job opened idle lost valid
  rintro (publicId | ⟨user, created⟩) σ d valid ready
  · rcases ready with ⟨rfl, id, mid, o, m, owned⟩ | ⟨values, rfl, same, doomed⟩
    · exact calls_commit (owned_prepared jobs i publicId.value id mid o m)
        (founded_endures i publicId.value) owned
    · rw [← same] at doomed
      refine calls_bind valid (calls_mono ?_ (calls_flush (calls_insertTaken doomed)))
      rintro (raised | _) σ t stays there _
      · exact calls_pure ((lost_endures i).lasts there)
      · exact there.elim
  · exact ready.elim

end

end PetBackend.Postgres
