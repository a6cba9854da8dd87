import PetBackend.App.Ledger
import PetBackend.Postgres.Deciding
import PetBackend.Postgres.Timestamps

/-!
# The books

The ledger that the committed rows amount to, and what the commit of a transaction enters into it.
-/

namespace PetBackend.Postgres
open Library Persistence

/-! ### Who asked for what is written -/

def asking (job : Job) : Expected := { anything (fun _ => True) with executes := Sends job }

/-- The public ids of the rows are the ones that their runs drew for them. -/
structure Drawn (jobs : Nat → Job) (d : Database) : Prop where
  users : ∀ id row, d.users.Live id row →
    ∃ principal uuidGen, jobs row.insertedBy = .provisionUser principal uuidGen ∧ row.values.publicId = uuidGen 0
  memberships : ∀ mid m, d.memberships.Live mid m →
    ∃ cmd uuidGen, jobs m.writtenBy = .createOrganization cmd uuidGen ∧ m.publicId = uuidGen 1

section
variable {server : Server} {u : UnicodeData} {autoflush : Bool} {jobs : Nat → Job} {i : Nat} {d : Database}
  {state : Running DbOp DbOp.Ret Database (Except Exc JobResult)}

theorem permits_drawn {op : DbOp} {d' : Database} {answer : op.Ret} {g : Nat} (drawn : Drawn jobs d)
    (allowed : (dbMeter (asking (jobs i))).allowed g op) (permitted : Permits server.nameCanonical i op d answer d') :
    Drawn jobs d' := by
  constructor
  · intro id row live
    cases permits_changes permitted with
    | same | organization | membership => exact drawn.users id row live
    | discard => exact drawn.users id row (Table.discard_live live)
    | commit => exact drawn.users id row (Table.commit_live live)
    | @user values update rows key written writes =>
      rcases Table.write_live live with ⟨-, rfl⟩ | older
      · cases writes with
        | insert =>
          have sends : Sends (jobs i) (.upsertUser values update) := allowed
          generalize jobs i = job at sends
          cases sends with
          | login principal uuidGen now => exact ⟨principal, uuidGen, rfl, rfl⟩
        | @set base seen => exact drawn.users key base (Table.view_live seen)
      · exact drawn.users id row older
  · intro mid m live
    rcases permits_membership permitted live with older | ⟨values, rfl, writer, publicId⟩
    · exact drawn.memberships mid m older
    · have sends : Sends (jobs i) (.insertMembership values) := allowed
      rw [writer, publicId]
      generalize jobs i = job at sends
      cases sends with
      | owner cmd uuidGen user => exact ⟨cmd, uuidGen, rfl, rfl⟩

theorem reachable_drawn (reached : Reachable server u autoflush jobs state) : Drawn jobs state.store := by
  have empty : Drawn jobs .empty :=
    ⟨fun id row live => (Table.empty_live id row live).elim, fun mid m live => (Table.empty_live mid m live).elim⟩
  have meets (i : Nat) : ((jobs i).handler u).Meets (asking (jobs i)) 1 fun _ => True :=
    handler_meets (fun _ _ => trivial) (fun _ sends => sends) trivial fun _ => trivial
  have runs := reachable_yields (fun state _ => Drawn jobs state.store) (fun _ => True) (fun _ => 1) ?_ empty
    (fun i _ => task_yields trivial (meets i)) reached
  · obtain ⟨g, drawn, -⟩ := runs
    exact drawn
  · intro state g i op next answer after drawn pending allowed called _
    exact ⟨fun _ => @anything_likely (fun _ => True) op answer,
      permits_drawn drawn (allowed trivial) (server.conforms called)⟩

/-- A run that has read the clock once has one time for all that it inserts. -/
theorem reachable_timed (reached : Reachable server u autoflush jobs state) {id : Nat} {row : UserRow}
    (live : state.store.users.Live id row) (same : row.insertedBy = row.writtenBy) :
    row.values.createdAt = row.values.updatedAt := by
  obtain ⟨events, ran⟩ := reached.recorded
  have timely := run_timely ran id row live
  have created := timely.created
  rw [same, timely.updated] at created
  exact (Option.some.inj created).symm

end

/-! ### The ledger -/

/-- The newest versions of the users, and the rest by what it refers to. -/
def Database.ledger (u : UnicodeData) (d : Database) : Ledger u where
  users := { user | ∃ id row, d.user id = some row ∧ user = toDomain row.orm }
  organizations :=
    { org | ∃ id o, o ∈ d.organizations.versions id ∧ o.values = ⟨org.publicId.value, org.name.value⟩ }
  memberships := { membership | ∃ mid m o user, m ∈ d.memberships.versions mid ∧
    o ∈ d.organizations.versions m.orgId ∧ user ∈ d.users.versions m.userId ∧
    membership = ⟨⟨m.publicId⟩, ⟨o.values.publicId⟩, ⟨user.values.publicId⟩, m.userRole⟩ }

/-- What a job comes to when nothing else runs. -/
inductive Job.Effect (u : UnicodeData) (canonical : String → String) (ledger : Ledger u) :
    Job → JobResult → Ledger u → Prop where
  | login {principal : Principal} {uuidGen : Nat → UUID} {now : DateTime} {user : User} {created : Bool} {later : Ledger u}
    (login : Ledger.Login (userFromClaims principal ⟨uuidGen 0⟩ now) ledger user created later) :
    Job.Effect u canonical ledger (.provisionUser principal uuidGen) (.user user created) later
  | creation {cmd : CreateOrganizationCmdIn} {uuidGen : Nat → UUID} {name : Name u} {later : Ledger u}
    (named : Name.create u cmd.name = .ok name)
    (founding : Ledger.Founding canonical cmd.principal ⟨⟨uuidGen 0⟩, name⟩ ⟨uuidGen 1⟩ ledger later) :
    Job.Effect u canonical ledger (.createOrganization cmd uuidGen) (.organization ⟨uuidGen 0⟩) later

theorem Job.Effect.wellFormed {u : UnicodeData} {canonical : String → String} {ledger later : Ledger u} {job : Job}
    {result : JobResult} (effect : job.Effect u canonical ledger result later) (valid : ledger.WellFormed canonical) :
    later.WellFormed canonical := by
  cases effect with
  | login login => exact login.wellFormed valid
  | creation _ founding => exact founding.wellFormed valid

theorem empty_ledger (u : UnicodeData) : Database.empty.ledger u = Ledger.empty := by
  ext <;> simp [Database.ledger, Database.user, Database.empty, Table.empty, Ledger.empty]

/-- The ledger is about what is committed. -/
theorem ledger_same {u : UnicodeData} {d d' : Database} (users : d'.users.versions = d.users.versions)
    (organizations : d'.organizations.versions = d.organizations.versions)
    (memberships : d'.memberships.versions = d.memberships.versions) : d'.ledger u = d.ledger u := by
  unfold Database.ledger Database.user
  rw [users, organizations, memberships]

/-! ### What a commit enters -/

/-- What is known of the rows in every state. -/
structure Books (server : Server) (u : UnicodeData) (jobs : Nat → Job) (d : Database) : Prop where
  valid : Inv server jobs d
  named : Named u jobs d
  drawn : Drawn jobs d
  timed : ∀ id row, d.users.Live id row → row.insertedBy = row.writtenBy → row.values.createdAt = row.values.updatedAt

section
variable {server : Server} {u : UnicodeData} {autoflush : Bool} {jobs : Nat → Job} {i : Nat} {d : Database}
  {state : Running DbOp DbOp.Ret Database (Except Exc JobResult)}

theorem reachable_books (reached : Reachable server u autoflush jobs state) : Books server u jobs state.store where
  valid := (reachable_jobs_sound reached).inv
  named := reachable_named reached
  drawn := reachable_drawn reached
  timed _ _ := reachable_timed reached

theorem Lost.ownUser (lost : Lost i d) {id : Nat} {row : UserRow} (committed : row ∈ (d.commit i).users.versions id)
    (mine : row.writtenBy = i) : d.users.own i id = some row :=
  (Table.mem_commit.mp committed).resolve_right fun older => lost.users id row older mine

theorem Lost.ownOrganization (lost : Lost i d) {id : Nat} {o : OrganizationRow}
    (committed : o ∈ (d.commit i).organizations.versions id) (mine : o.writtenBy = i) :
    d.organizations.own i id = some o :=
  (Table.mem_commit.mp committed).resolve_right fun older => lost.organizations id o older mine

theorem Lost.ownMembership (lost : Lost i d) {mid : Nat} {m : MembershipRow}
    (committed : m ∈ (d.commit i).memberships.versions mid) (mine : m.writtenBy = i) : d.memberships.own i mid = some m :=
  (Table.mem_commit.mp committed).resolve_right fun older => lost.memberships mid m older mine

theorem Inv.member (valid : Inv server jobs d) {mid : Nat} {m : MembershipRow}
    (committed : m ∈ d.memberships.versions mid) : ∃ row, row ∈ d.users.versions m.userId := by
  obtain ⟨o, isOrganization⟩ := valid.referenced mid m committed
  obtain ⟨mid', m', owns⟩ := valid.owned m.orgId o isOrganization
  obtain ⟨row, isUser, -⟩ := owns.user
  obtain ⟨-, rfl⟩ := owns.only mid m committed rfl
  exact ⟨row, isUser⟩

theorem head_user {id : Nat} {row : UserRow} (committed : row ∈ d.users.versions id) : ∃ newest, d.user id = some newest :=
  Option.isSome_iff_exists.mp (List.isSome_head?.mpr (List.ne_nil_of_mem committed))

theorem user_committed {id : Nat} {row : UserRow} (newest : d.user id = some row) : row ∈ d.users.versions id :=
  List.mem_of_mem_head? newest

theorem domain_user {row : UserRow} {user : User} (publicId : row.values.publicId = user.publicId.value)
    (issuer : row.values.authIssuer = user.authIssuer) (subject : row.values.authSubject = user.authSubject)
    (profile : row.profile = userUpdate user) (created : row.values.createdAt = user.createdAt) :
    toDomain row.orm = user := by
  obtain ⟨⟨⟩⟩ := row
  obtain ⟨⟨⟩⟩ := user
  simp_all [UserRow.profile, userUpdate, toDomain, UserRow.orm]

/-- A row that the run inserted has no older version, or that would be its own too. -/
theorem Books.vacant (books : Books server u jobs d) (lost : Lost i d) {id : Nat} {row : UserRow} (own : d.users.own i id = some row)
    (new : row.insertedBy = i) : d.users.versions id = [] := by
  refine List.eq_nil_iff_forall_not_mem.mpr fun older isOlder => ?_
  have same := books.valid.users.identified (Or.inl isOlder) (Or.inr ⟨i, own⟩)
  obtain ⟨first, isFirst, wrote⟩ := books.valid.first isOlder
  exact lost.users id first isFirst (wrote.trans ((congrArg UserIdentity.insertedBy same).trans new))

/-! ### Of a login -/

section
variable {principal : Principal} {uuidGen : Nat → UUID} (job : jobs i = .provisionUser principal uuidGen)
  (books : Books server u jobs d) (after : Inv server jobs (d.commit i))
include job books

theorem login_authored {id : Nat} {row : UserRow} (own : d.users.own i id = some row) :
    row.values.authIssuer = principal.issuer ∧ row.values.authSubject = principal.subject ∧
      ∃ now, row.profile = userUpdate (userFromClaims principal ⟨uuidGen 0⟩ now) := by
  obtain ⟨_, _, now, wrote, issuer, subject, update, profile⟩ := books.valid.authored id row (Or.inr ⟨i, own⟩)
  rw [show row.writtenBy = i from books.valid.users.written own, job] at wrote
  cases wrote
  exact ⟨issuer, subject, now, profile.trans update⟩

theorem login_only {id key : Nat} {row a : UserRow} (own : d.users.own i id = some row)
    (other : d.users.own i key = some a) : key = id := by
  obtain ⟨issuer, subject, -⟩ := login_authored job books own
  obtain ⟨issuer', subject', -⟩ := login_authored job books other
  exact books.valid.users.unique (Or.inr ⟨i, other⟩) (Or.inr ⟨i, own⟩)
    (Or.inr ⟨subject'.trans subject.symm, issuer'.trans issuer.symm⟩)

theorem login_user {id : Nat} {row : UserRow} (own : d.users.own i id = some row) (key : Nat) :
    (d.commit i).user key = if key = id then some row else d.user key := by
  by_cases here : key = id
  · subst here
    rw [if_pos rfl]
    exact Table.commit_head own
  · rw [if_neg here]
    have unwritten : d.users.own i key = none := by
      by_contra written
      obtain ⟨a, other⟩ := Option.ne_none_iff_exists'.mp written
      exact here (login_only job books own other)
    simp [Database.user, Database.commit, Table.commit, unwritten]

theorem login_users {id : Nat} {row : UserRow} (own : d.users.own i id = some row) (user : User) :
    user ∈ ((d.commit i).ledger u).users ↔
      user = toDomain row.orm ∨ ∃ key known, key ≠ id ∧ d.user key = some known ∧ user = toDomain known.orm := by
  constructor
  · rintro ⟨key, known, held, rfl⟩
    rw [login_user job books own] at held
    split at held
    · cases held
      exact Or.inl rfl
    · rename_i elsewhere
      exact Or.inr ⟨key, known, elsewhere, held, rfl⟩
  · rintro (rfl | ⟨key, known, elsewhere, held, rfl⟩)
    · exact ⟨id, row, by rw [login_user job books own, if_pos rfl], rfl⟩
    · exact ⟨key, known, by rw [login_user job books own, if_neg elsewhere, held], rfl⟩

theorem login_memberships (mid : Nat) : d.memberships.own i mid = none := by
  by_contra written
  obtain ⟨m, own⟩ := Option.ne_none_iff_exists'.mp written
  obtain ⟨_, _, wrote, -⟩ := books.drawn.memberships mid m (Or.inr ⟨i, own⟩)
  rw [show m.writtenBy = i from books.valid.memberships.written own, job] at wrote
  cases wrote

include after

theorem login_organizations (id : Nat) : d.organizations.own i id = none := by
  by_contra written
  obtain ⟨o, own⟩ := Option.ne_none_iff_exists'.mp written
  obtain ⟨mid, m, owns⟩ := after.owned id o (Table.mem_commit.mpr (Or.inl own))
  obtain ⟨row, -, _, _, wrote, -⟩ := owns.user
  rw [show o.writtenBy = i from books.valid.organizations.written own, job] at wrote
  cases wrote

/-- But for the users the ledger stays. -/
theorem login_ledger {users : Set User} (entered : ∀ user, user ∈ users ↔ user ∈ ((d.commit i).ledger u).users) :
    (d.commit i).ledger u = { d.ledger u with users := users } := by
  have organizations : (d.commit i).organizations.versions = d.organizations.versions :=
    Table.commit_unwritten (login_organizations job books after)
  have memberships : (d.commit i).memberships.versions = d.memberships.versions :=
    Table.commit_unwritten (login_memberships job books)
  ext membership
  · exact (entered membership).symm
  · simp only [Database.ledger, organizations]
  · simp only [Database.ledger, organizations, memberships, Set.mem_ofPred_eq]
    constructor
    · rintro ⟨mid, m, o, user, isMembership, isOrganization, isUser, rfl⟩
      obtain ⟨older, isOlder⟩ := books.valid.member isMembership
      have same : user.identity = older.identity := after.users.identified (Or.inl isUser) (Or.inl (commit_user isOlder))
      exact ⟨mid, m, o, older, isMembership, isOrganization, isOlder,
        by rw [show user.values.publicId = older.values.publicId from congrArg UserIdentity.publicId same]⟩
    · rintro ⟨mid, m, o, user, isMembership, isOrganization, isUser, rfl⟩
      exact ⟨mid, m, o, user, isMembership, isOrganization, commit_user isUser, rfl⟩

theorem login_opens (lost : Lost i d) {id : Nat} {row : UserRow} (own : d.users.own i id = some row)
    (new : row.insertedBy = i) : ∃ now, Ledger.Login (userFromClaims principal ⟨uuidGen 0⟩ now) (d.ledger u)
      (toDomain row.orm) true ((d.commit i).ledger u) := by
  have live : d.users.Live id row := Or.inr ⟨i, own⟩
  have vacant := books.vacant lost own new
  obtain ⟨issuer, subject, now, profile⟩ := login_authored job books own
  have seen : toDomain row.orm = userFromClaims principal ⟨uuidGen 0⟩ now := by
    refine domain_user ?_ issuer subject profile ?_
    · obtain ⟨_, _, wrote, publicId⟩ := books.drawn.users id row live
      rw [new, job] at wrote
      cases wrote
      exact publicId
    · have timed := books.timed id row live (new.trans (books.valid.users.written own).symm)
      exact timed.trans (congrArg UserUpdate.updatedAt profile)
  have fresh : ∀ known ∈ (d.ledger u).users, known.authKey ≠ (toDomain row.orm).authKey ∧
      known.publicId ≠ (toDomain row.orm).publicId := by
    rintro _ ⟨key, known, held, rfl⟩
    have apart : ¬ userKeys.clash known.identity row.identity := by
      intro clash
      have member := user_committed held
      rw [books.valid.users.unique (Or.inl member) live clash, vacant] at member
      cases member
    exact ⟨fun same => apart (Or.inr ⟨congrArg Prod.snd same, congrArg Prod.fst same⟩),
      fun same => apart (Or.inl (congrArg PublicId.value same))⟩
  have entered : (d.commit i).ledger u = { d.ledger u with users := insert (toDomain row.orm) (d.ledger u).users } := by
    refine login_ledger job books after fun user => ?_
    rw [login_users job books own]
    refine or_congr Iff.rfl ⟨?_, ?_⟩
    · rintro ⟨key, known, held, rfl⟩
      refine ⟨key, known, ?_, held, rfl⟩
      rintro rfl
      rw [Database.user, vacant] at held
      cases held
    · rintro ⟨key, known, -, held, rfl⟩
      exact ⟨key, known, held, rfl⟩
  rw [entered]
  refine ⟨now, ?_⟩
  rw [← seen]
  exact .opens fresh

theorem login_renews {id : Nat} {row first : UserRow} (own : d.users.own i id = some row)
    (older : first ∈ d.users.versions id) : ∃ now, Ledger.Login (userFromClaims principal ⟨uuidGen 0⟩ now) (d.ledger u)
      (toDomain row.orm) false ((d.commit i).ledger u) := by
  obtain ⟨issuer, subject, now, profile⟩ := login_authored job books own
  obtain ⟨known, held⟩ := head_user older
  have member := user_committed held
  have same : known.identity = row.identity := books.valid.users.identified (Or.inl member) (Or.inr ⟨i, own⟩)
  have authKey : (toDomain known.orm).authKey = (userFromClaims principal ⟨uuidGen 0⟩ now).authKey :=
    congrArg₂ Prod.mk ((congrArg UserIdentity.authIssuer same).trans issuer)
      ((congrArg UserIdentity.authSubject same).trans subject)
  have renewed : toDomain row.orm = (toDomain known.orm).renewed (userFromClaims principal ⟨uuidGen 0⟩ now) := by
    refine domain_user ?_ ?_ ?_ profile ?_
    · exact (congrArg UserIdentity.publicId same).symm
    · exact (congrArg UserIdentity.authIssuer same).symm
    · exact (congrArg UserIdentity.authSubject same).symm
    · exact (congrArg UserIdentity.createdAt same).symm
  have entered : (d.commit i).ledger u = { d.ledger u with
      users := insert (toDomain row.orm) ((d.ledger u).users \ {toDomain known.orm}) } := by
    refine login_ledger job books after fun user => ?_
    rw [login_users job books own]
    refine or_congr Iff.rfl ⟨?_, ?_⟩
    · rintro ⟨⟨key, other, isOther, rfl⟩, apart⟩
      refine ⟨key, other, ?_, isOther, rfl⟩
      rintro rfl
      rw [held] at isOther
      cases isOther
      exact apart rfl
    · rintro ⟨key, other, elsewhere, isOther, rfl⟩
      refine ⟨⟨key, other, isOther, rfl⟩, fun clash => elsewhere ?_⟩
      have publicId : other.values.publicId = known.values.publicId :=
        congrArg (fun user : User => user.publicId.value) clash
      exact books.valid.users.unique (Or.inl (user_committed isOther)) (Or.inl member) (Or.inl publicId)
  rw [entered, renewed]
  exact ⟨now, .renews ⟨id, known, held, rfl⟩ authKey⟩

/-- The commit of a login is the login of the ledger, and what is returned is what it answers. -/
theorem commit_login (lost : Lost i d) {user : User} {created : Bool} (won : Provisioned i user created (d.commit i)) :
    ∃ now, Ledger.Login (userFromClaims principal ⟨uuidGen 0⟩ now) (d.ledger u) user created ((d.commit i).ledger u) := by
  obtain ⟨id, row, committed, mine, rfl, inserted⟩ := won
  have own := lost.ownUser committed mine
  by_cases new : row.insertedBy = i
  · rw [inserted.mpr new]
    exact login_opens job books after lost own new
  · rw [Bool.eq_false_iff.mpr fun reported => new (inserted.mp reported)]
    rcases books.valid.inserter id row (Or.inr ⟨i, own⟩) with self | ⟨first, isFirst, -⟩
    · exact (new (self.trans mine)).elim
    · exact login_renews job books after own isFirst

end

/-! ### Of a creation -/

section
variable {cmd : CreateOrganizationCmdIn} {uuidGen : Nat → UUID} (job : jobs i = .createOrganization cmd uuidGen)
  (books : Books server u jobs d)
include job books

theorem creation_users (id : Nat) : d.users.own i id = none := by
  by_contra written
  obtain ⟨row, own⟩ := Option.ne_none_iff_exists'.mp written
  obtain ⟨_, _, _, wrote, -⟩ := books.valid.authored id row (Or.inr ⟨i, own⟩)
  rw [show row.writtenBy = i from books.valid.users.written own, job] at wrote
  cases wrote

theorem creation_named {id : Nat} {o : OrganizationRow} (own : d.organizations.own i id = some o) :
    ∃ name, Name.create u cmd.name = .ok name ∧ o.values = ⟨uuidGen 0, name.value⟩ := by
  obtain ⟨_, _, wrote, publicId, validated⟩ := books.named id o (Or.inr ⟨i, own⟩)
  rw [show o.writtenBy = i from books.valid.organizations.written own, job] at wrote
  cases wrote
  obtain ⟨name, created, value⟩ := name_created validated
  refine ⟨name, created, ?_⟩
  rw [value, ← publicId]

/-- The founder's account is one that is committed. -/
theorem creation_owner (after : Inv server jobs (d.commit i)) {id mid : Nat} {o : OrganizationRow} {m : MembershipRow}
    (own : d.organizations.own i id = some o) (ownMembership : d.memberships.own i mid = some m) (org : m.orgId = id) :
    m.userRole = .owner ∧ ∃ row, d.user m.userId = some row ∧ (toDomain row.orm).authKey = cmd.principal.authKey := by
  obtain ⟨mid', m', owns⟩ := after.owned id o (Table.mem_commit.mpr (Or.inl own))
  obtain ⟨-, rfl⟩ := owns.only mid m (Table.mem_commit.mpr (Or.inl ownMembership)) org
  obtain ⟨row, isUser, _, _, wrote, issuer, subject⟩ := owns.user
  rw [show o.writtenBy = i from books.valid.organizations.written own, job] at wrote
  cases wrote
  have member : row ∈ d.users.versions m.userId := by
    rw [← Table.commit_unwritten (creation_users job books)]
    exact isUser
  obtain ⟨newest, held⟩ := head_user member
  have same : newest.identity = row.identity :=
    books.valid.users.identified (Or.inl (user_committed held)) (Or.inl member)
  exact ⟨owns.role, newest, held, congrArg₂ Prod.mk ((congrArg UserIdentity.authIssuer same).trans issuer)
    ((congrArg UserIdentity.authSubject same).trans subject)⟩

section
variable {id : Nat} {o : OrganizationRow} {name : Name u} (own : d.organizations.own i id = some o)
  (values : o.values = ⟨uuidGen 0, name.value⟩)
include own values

omit job in
theorem creation_free : ∀ other ∈ (d.ledger u).organizations, other.publicId ≠ ⟨uuidGen 0⟩ ∧
    server.nameCanonical other.name.value ≠ server.nameCanonical name.value := by
  rintro other ⟨key, a, member, same⟩
  have apart : ¬ (organizationKeys server.nameCanonical).clash a o := by
    intro clash
    have here := books.valid.organizations.unique (Or.inl member) (Or.inr ⟨i, own⟩) clash
    rw [here, books.valid.organizationsOnce own] at member
    cases member
  refine ⟨fun clash => apart (Or.inl ?_), fun clash => apart (Or.inr ?_)⟩
  · rw [same, values]
    exact congrArg PublicId.value clash
  · rw [same, values]
    exact clash

omit job books in
theorem creation_organizations (only : ∀ key a, d.organizations.own i key = some a → key = id ∧ a = o) :
    ((d.commit i).ledger u).organizations = insert ⟨⟨uuidGen 0⟩, name⟩ (d.ledger u).organizations := by
  ext org
  constructor
  · rintro ⟨key, a, member, same⟩
    rcases Table.mem_commit.mp member with mine | older
    · obtain ⟨rfl, rfl⟩ := only key a mine
      refine Or.inl ?_
      obtain ⟨⟨publicId⟩, ⟨text, validated⟩⟩ := org
      obtain ⟨text', validated'⟩ := name
      rw [values] at same
      cases same
      rfl
    · exact Or.inr ⟨key, a, older, same⟩
  · rintro (rfl | ⟨key, a, member, same⟩)
    · exact ⟨id, o, Table.mem_commit.mpr (Or.inl own), values⟩
    · exact ⟨key, a, commit_organization member, same⟩

theorem creation_memberships (after : Inv server jobs (d.commit i)) {mid : Nat} {m : MembershipRow} {owner : UserRow}
    (ownMembership : d.memberships.own i mid = some m) (org : m.orgId = id) (role : m.userRole = .owner)
    (held : d.user m.userId = some owner)
    (only : ∀ key a, d.memberships.own i key = some a → key = mid ∧ a = m) :
    ((d.commit i).ledger u).memberships =
      insert ⟨⟨uuidGen 1⟩, ⟨uuidGen 0⟩, (toDomain owner.orm).publicId, .owner⟩ (d.ledger u).memberships := by
  have drawn : m.publicId = uuidGen 1 := by
    obtain ⟨_, _, wrote, publicId⟩ := books.drawn.memberships mid m (Or.inr ⟨i, ownMembership⟩)
    rw [show m.writtenBy = i from books.valid.memberships.written ownMembership, job] at wrote
    cases wrote
    exact publicId
  have users : (d.commit i).users.versions = d.users.versions := Table.commit_unwritten (creation_users job books)
  ext membership
  constructor
  · rintro ⟨key, a, organization, user, member, isOrganization, isUser, rfl⟩
    rw [users] at isUser
    rcases Table.mem_commit.mp member with mine | older
    · obtain ⟨rfl, rfl⟩ := only key a mine
      have same : organization = o := after.organizations.identified (Or.inl isOrganization)
        (Or.inl (Table.mem_commit.mpr (Or.inl (org.symm ▸ own))))
      have publicId : user.values.publicId = owner.values.publicId := congrArg UserIdentity.publicId
        (books.valid.users.identified (Or.inl isUser) (Or.inl (user_committed held)))
      refine Or.inl ?_
      rw [same, values, drawn, role, publicId]
      rfl
    · rcases Table.mem_commit.mp isOrganization with mine | before
      · exact (books.valid.unreferenced mine older rfl).elim
      · exact Or.inr ⟨key, a, organization, user, older, before, isUser, rfl⟩
  · rintro (rfl | ⟨key, a, organization, user, member, isOrganization, isUser, rfl⟩)
    · refine ⟨mid, m, o, owner, Table.mem_commit.mpr (Or.inl ownMembership),
        Table.mem_commit.mpr (Or.inl (org.symm ▸ own)), commit_user (user_committed held), ?_⟩
      rw [values, drawn, role]
      rfl
    · exact ⟨key, a, organization, user, commit_membership member, commit_organization isOrganization,
        commit_user isUser, rfl⟩

end

theorem commit_creation (after : Inv server jobs (d.commit i)) (lost : Lost i d) {publicId : UUID}
    (won : Founded i publicId (d.commit i)) : publicId = uuidGen 0 ∧ ∃ name, Name.create u cmd.name = .ok name ∧
      Ledger.Founding server.nameCanonical cmd.principal ⟨⟨uuidGen 0⟩, name⟩ ⟨uuidGen 1⟩ (d.ledger u)
        ((d.commit i).ledger u) := by
  obtain ⟨id, mid, o, m, founds⟩ := won
  have own := lost.ownOrganization founds.organization founds.founder
  have ownMembership := lost.ownMembership founds.membership founds.author
  obtain ⟨name, created, values⟩ := creation_named job books own
  obtain ⟨role, owner, held, authKey⟩ := creation_owner job books after own ownMembership founds.org
  have organizations := creation_organizations own values fun key a mine =>
    founds.onlyOrganization key a (Table.mem_commit.mpr (Or.inl mine)) (books.valid.organizations.written mine)
  have memberships := creation_memberships job books own values after ownMembership founds.org role held fun key a mine =>
    founds.onlyMembership key a (Table.mem_commit.mpr (Or.inl mine)) (books.valid.memberships.written mine)
  have users : ((d.commit i).ledger u).users = (d.ledger u).users := by
    have same : (d.commit i).users.versions = d.users.versions := Table.commit_unwritten (creation_users job books)
    simp only [Database.ledger, Database.user, same]
  have entered : (d.commit i).ledger u = { d.ledger u with
      organizations := insert ⟨⟨uuidGen 0⟩, name⟩ (d.ledger u).organizations
      memberships := insert ⟨⟨uuidGen 1⟩, ⟨uuidGen 0⟩, (toDomain owner.orm).publicId, .owner⟩ (d.ledger u).memberships } :=
    Ledger.ext users organizations memberships
  refine ⟨?_, name, created, ?_⟩
  · rw [← founds.publicId, values]
  · rw [entered]
    exact .founds ⟨m.userId, owner, held, rfl⟩ authKey (creation_free books own values)

end

/-- What a transaction that has committed nothing commits is what its job comes to. -/
theorem commit_effect (books : Books server u jobs d) (after : Inv server jobs (d.commit i)) (lost : Lost i d)
    {result : JobResult} (won : Won jobs i result (d.commit i)) :
    (jobs i).Effect u server.nameCanonical (d.ledger u) result ((d.commit i).ledger u) := by
  unfold Won at won
  cases job : jobs i with
  | provisionUser principal uuidGen =>
    rw [job] at won
    cases result with
    | organization publicId => exact won.elim
    | user user created =>
      obtain ⟨now, login⟩ := commit_login job books after lost won
      exact .login login
  | createOrganization cmd uuidGen =>
    rw [job] at won
    cases result with
    | user user created => exact won.elim
    | organization publicId =>
      obtain ⟨drawn, name, named, founding⟩ := commit_creation job books after lost won
      rw [show publicId = ⟨uuidGen 0⟩ from congrArg PublicId.mk drawn]
      exact .creation named founding

end

end PetBackend.Postgres
