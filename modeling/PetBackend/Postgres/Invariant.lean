import PetBackend.Postgres.Logic

/-!
# The invariant of the tables

What holds of the committed rows and of every open transaction, and what each effect of a call on
the tables keeps.
-/

namespace PetBackend.Postgres
open Library Persistence

def UserRow.profile (row : UserRow) : UserUpdate where
  username := row.values.username
  email := row.values.email
  firstName := row.values.firstName
  lastName := row.values.lastName
  lastLoginAt := row.values.lastLoginAt
  updatedAt := row.values.updatedAt

section
variable (server : Server) (jobs : Nat → Job)

/-- The version holds what the provisioning run that wrote it made of its claims. -/
def Authored (row : UserRow) : Prop :=
  ∃ principal uuidGen now, jobs row.writtenBy = .provisionUser principal uuidGen ∧
    row.values.authIssuer = principal.issuer ∧ row.values.authSubject = principal.subject ∧
    row.update = userUpdate (userFromClaims principal ⟨uuidGen 0⟩ now) ∧ row.profile = row.update

def Identifies (i : Nat) (row : UserRow) : Prop :=
  ∃ cmd uuidGen, jobs i = .createOrganization cmd uuidGen ∧
    row.values.authIssuer = cmd.principal.issuer ∧ row.values.authSubject = cmd.principal.subject

/-- Membership `mid` is the only one of organization `id`, and makes the creator its owner. -/
structure Owns (d : Database) (id mid creator : Nat) (m : MembershipRow) : Prop where
  committed : m ∈ d.memberships.versions mid
  org : m.orgId = id
  role : m.userRole = .owner
  user : ∃ row ∈ d.users.versions m.userId, Identifies jobs creator row
  only : ∀ key other, other ∈ d.memberships.versions key → other.orgId = id → key = mid ∧ other = m

structure Inv (d : Database) : Prop where
  users : d.users.Valid userKeys
  organizations : d.organizations.Valid (organizationKeys server.nameCanonical)
  memberships : d.memberships.Valid membershipKeys
  organizationsOnce : d.organizations.InsertOnly
  membershipsOnce : d.memberships.InsertOnly
  authored : ∀ id row, d.users.Live id row → Authored jobs row
  inserter : ∀ id row, d.users.Live id row → row.insertedBy = row.writtenBy ∨
    ∃ first ∈ d.users.versions id, first.writtenBy = row.insertedBy
  owned : ∀ id o, o ∈ d.organizations.versions id → ∃ mid m, Owns jobs d id mid o.writtenBy m
  referenced : ∀ mid m, m ∈ d.memberships.versions mid → ∃ o, o ∈ d.organizations.versions m.orgId
  references : ∀ i mid m, d.memberships.own i mid = some m →
    (∃ o, o ∈ d.organizations.versions m.orgId) ∨ ∃ o, d.organizations.own i m.orgId = some o

/-- Transaction `i` had no part in what changed. -/
structure Spares (i : Nat) (d d' : Database) : Prop where
  users : Table.Spares UserRow.writtenBy i d.users d'.users
  organizations : Table.Spares OrganizationRow.writtenBy i d.organizations d'.organizations
  memberships : Table.Spares MembershipRow.writtenBy i d.memberships d'.memberships

/-- An effect of transaction `i` that the others do not notice but by what it commits. -/
def Kept (i : Nat) (d d' : Database) : Prop := (∀ j, i ≠ j → Spares j d d') ∧ Inv server jobs d'

def setting (i : Nat) : Setting DbOp DbOp.Ret Database where
  step := server.step i
  inv := Inv server jobs
  rely := Spares i
  guarantee d d' := ∀ j, i ≠ j → Spares j d d'
  rely_refl _ := ⟨Table.spares_refl _, Table.spares_refl _, Table.spares_refl _⟩
  rely_trans a b := ⟨Table.spares_trans a.users b.users,
    Table.spares_trans a.organizations b.organizations,
    Table.spares_trans a.memberships b.memberships⟩

end

variable {server : Server} {jobs : Nat → Job} {d d' : Database} {i : Nat}

theorem setting_compatible : Compatible server.step (Inv server jobs) (setting server jobs) where
  step _ := rfl
  inv _ := rfl
  relies _ j _ _ different spared := spared j different

theorem empty_inv : Inv server jobs .empty := by
  refine ⟨Table.empty_valid, Table.empty_valid, Table.empty_valid, ?_, ?_, ?_, ?_, ?_, ?_, ?_⟩
  · intro i id a own
    cases own
  · intro i id a own
    cases own
  · exact fun id row live => (Table.empty_live id row live).elim
  · exact fun id row live => (Table.empty_live id row live).elim
  · exact fun id o committed => by cases committed
  · exact fun mid m committed => by cases committed
  · exact fun i mid m own => by cases own

theorem Owns.mono {id mid creator : Nat} {m : MembershipRow} (owns : Owns jobs d id mid creator m)
    (users : ∀ key row, row ∈ d.users.versions key → row ∈ d'.users.versions key)
    (memberships : ∀ key row, row ∈ d.memberships.versions key → row ∈ d'.memberships.versions key)
    (noneNew : ∀ key row, row ∈ d'.memberships.versions key → row.orgId = id →
      row ∈ d.memberships.versions key) : Owns jobs d' id mid creator m where
  committed := memberships mid m owns.committed
  org := owns.org
  role := owns.role
  user := by
    obtain ⟨row, committed, identifies⟩ := owns.user
    exact ⟨row, users _ row committed, identifies⟩
  only key other committed same := owns.only key other (noneNew key other committed same) same

theorem owned_same (valid : Inv server jobs d) (users : d'.users.versions = d.users.versions)
    (organizations : d'.organizations.versions = d.organizations.versions)
    (memberships : d'.memberships.versions = d.memberships.versions) (id : Nat) (o : OrganizationRow)
    (committed : o ∈ d'.organizations.versions id) : ∃ mid m, Owns jobs d' id mid o.writtenBy m := by
  rw [organizations] at committed
  obtain ⟨mid, m, owns⟩ := valid.owned id o committed
  refine ⟨mid, m, owns.mono ?_ ?_ ?_⟩
  · exact fun key row h => users ▸ h
  · exact fun key row h => memberships ▸ h
  · exact fun key row h _ => memberships ▸ h

/-! ### Effects -/

theorem kept_same (valid : Inv server jobs d) : Kept server jobs i d d :=
  ⟨fun j _ => (setting server jobs j).rely_refl d, valid⟩

theorem kept_discard (valid : Inv server jobs d) : Kept server jobs i d (d.discard i) := by
  refine ⟨fun j different => ⟨Table.spares_discard (Ne.symm different),
    Table.spares_discard (Ne.symm different), Table.spares_discard (Ne.symm different)⟩, ?_⟩
  constructor
  · exact Table.discard_valid valid.users
  · exact Table.discard_valid valid.organizations
  · exact Table.discard_valid valid.memberships
  · exact Table.discard_insertOnly valid.organizationsOnce
  · exact Table.discard_insertOnly valid.membershipsOnce
  · exact fun id row live => valid.authored id row (Table.discard_live live)
  · exact fun id row live => valid.inserter id row (Table.discard_live live)
  · exact owned_same valid rfl rfl rfl
  · exact valid.referenced
  · intro j mid m own
    simp only [Database.discard, Table.discard] at own ⊢
    split at own
    · cases own
    · rename_i other
      rcases valid.references j mid m own with committed | mine
      · exact Or.inl committed
      · exact Or.inr (by simpa only [other, if_false] using mine)

theorem kept_failed (valid : Inv server jobs d) (failed : Failed i d d') : Kept server jobs i d d' := by
  rcases failed with rfl | rfl
  · exact kept_same valid
  · exact kept_discard valid

theorem kept_writeUser (valid : Inv server jobs d) {id : Nat} (row : UserRow) (mine : row.writtenBy = i)
    (unlocked : ∀ j a, d.users.own j id = some a → j = i)
    (same : ∀ a, d.users.Live id a → a.identity = row.identity)
    (apart : ∀ key a, d.users.Live key a → userKeys.clash row.identity a.identity → id = key)
    (authored : Authored jobs row) (inserter : row.insertedBy = row.writtenBy ∨
      ∃ first ∈ d.users.versions id, first.writtenBy = row.insertedBy) :
    Kept server jobs i d { d with users := d.users.write i id row } := by
  refine ⟨fun j different => ⟨Table.spares_write (Ne.symm different), Table.spares_refl _,
    Table.spares_refl _⟩, ?_⟩
  constructor
  · exact Table.write_valid valid.users mine unlocked same apart
  · exact valid.organizations
  · exact valid.memberships
  · exact valid.organizationsOnce
  · exact valid.membershipsOnce
  · intro key a live
    rcases Table.write_live live with ⟨_, rfl⟩ | older
    · exact authored
    · exact valid.authored key a older
  · intro key a live
    rcases Table.write_live live with ⟨rfl, rfl⟩ | older
    · exact inserter
    · exact valid.inserter key a older
  · exact owned_same valid rfl rfl rfl
  · exact valid.referenced
  · exact valid.references

theorem kept_insertUser (valid : Inv server jobs d) {id : Nat} (row : UserRow) (mine : row.writtenBy = i)
    (inserts : Table.Inserts userKeys d.users id row) (authored : Authored jobs row)
    (inserted : row.insertedBy = row.writtenBy) :
    Kept server jobs i d { d with users := d.users.write i id row } := by
  apply kept_writeUser valid row mine
  · exact fun j a own => (inserts.fresh a (Or.inr ⟨j, own⟩)).elim
  · exact fun a live => (inserts.fresh a live).elim
  · exact fun key a live clash => (inserts.unique key a live clash).elim
  · exact authored
  · exact Or.inl inserted

theorem Inv.first (valid : Inv server jobs d) {id : Nat} {row : UserRow}
    (committed : row ∈ d.users.versions id) :
    ∃ first ∈ d.users.versions id, first.writtenBy = row.insertedBy := by
  rcases valid.inserter id row (Or.inl committed) with self | found
  · exact ⟨row, committed, self.symm⟩
  · exact found

theorem kept_setUser (valid : Inv server jobs d) {id : Nat} {row : UserRow} {update : UserUpdate}
    (committed : row ∈ d.users.versions id) (unlocked : ∀ j a, d.users.own j id = some a → j = i)
    (authored : Authored jobs (row.set i update)) :
    Kept server jobs i d { d with users := d.users.write i id (row.set i update) } := by
  have live : d.users.Live id row := Or.inl committed
  have first := valid.first committed
  apply kept_writeUser valid (row.set i update) rfl unlocked
  · exact fun a other => (valid.users.identified live other).symm
  · exact fun key a other clash => valid.users.unique live other clash
  · exact authored
  · exact Or.inr first

theorem kept_writeOrganization (valid : Inv server jobs d) {id : Nat} {row : OrganizationRow}
    (mine : row.writtenBy = i)
    (inserts : Table.Inserts (organizationKeys server.nameCanonical) d.organizations id row) :
    Kept server jobs i d { d with organizations := d.organizations.write i id row } := by
  refine ⟨fun j different => ⟨Table.spares_refl _, Table.spares_write (Ne.symm different),
    Table.spares_refl _⟩, ?_⟩
  constructor
  · exact valid.users
  · exact inserts.valid valid.organizations mine
  · exact valid.memberships
  · exact Table.write_insertOnly valid.organizationsOnce inserts.no_versions
  · exact valid.membershipsOnce
  · exact valid.authored
  · exact valid.inserter
  · exact owned_same valid rfl rfl rfl
  · exact valid.referenced
  · intro j mid m own
    rcases valid.references j mid m own with committed | ⟨o, open_⟩
    · exact Or.inl committed
    · refine Or.inr ?_
      simp only [Table.write]
      split
      · exact ⟨row, rfl⟩
      · exact ⟨o, open_⟩

theorem kept_writeMembership (valid : Inv server jobs d) {id : Nat} {row : MembershipRow}
    (mine : row.writtenBy = i) (inserts : Table.Inserts membershipKeys d.memberships id row)
    {organization : OrganizationRow} (seen : d.organizations.view i row.orgId = some organization) :
    Kept server jobs i d { d with memberships := d.memberships.write i id row } := by
  refine ⟨fun j different => ⟨Table.spares_refl _, Table.spares_refl _,
    Table.spares_write (Ne.symm different)⟩, ?_⟩
  constructor
  · exact valid.users
  · exact valid.organizations
  · exact inserts.valid valid.memberships mine
  · exact valid.organizationsOnce
  · exact Table.write_insertOnly valid.membershipsOnce inserts.no_versions
  · exact valid.authored
  · exact valid.inserter
  · exact owned_same valid rfl rfl rfl
  · exact valid.referenced
  · intro j mid m own
    simp only [Table.write] at own
    split at own
    · rename_i same
      cases own
      rw [same.1]
      rcases Option.or_eq_some_iff.mp seen with open_ | ⟨_, newest⟩
      · exact Or.inr ⟨organization, open_⟩
      · exact Or.inl ⟨organization, List.mem_of_mem_head? newest⟩
    · exact valid.references j mid m own

/-- What a transaction may commit: its organizations with an owner each, and no membership of
another organization. -/
structure Committable (jobs : Nat → Job) (i : Nat) (d : Database) : Prop where
  owned : ∀ id o, d.organizations.own i id = some o → ∃ mid m, d.memberships.own i mid = some m ∧
    m.orgId = id ∧ m.userRole = .owner ∧
    (∃ row ∈ d.users.versions m.userId, Identifies jobs i row) ∧
    ∀ key other, d.memberships.own i key = some other → other.orgId = id → key = mid ∧ other = m
  references : ∀ mid m, d.memberships.own i mid = some m →
    ∃ o, d.organizations.own i m.orgId = some o

theorem commit_user {id : Nat} {row : UserRow} (committed : row ∈ d.users.versions id) :
    row ∈ (d.commit i).users.versions id := Table.mem_commit.mpr (Or.inr committed)

theorem commit_organization {id : Nat} {o : OrganizationRow} (committed : o ∈ d.organizations.versions id) :
    o ∈ (d.commit i).organizations.versions id := Table.mem_commit.mpr (Or.inr committed)

theorem commit_membership {mid : Nat} {m : MembershipRow} (committed : m ∈ d.memberships.versions mid) :
    m ∈ (d.commit i).memberships.versions mid := Table.mem_commit.mpr (Or.inr committed)

/-- An organization of this transaction has no committed membership yet. -/
theorem Inv.unreferenced (valid : Inv server jobs d) {id key : Nat} {o : OrganizationRow} {m : MembershipRow}
    (own : d.organizations.own i id = some o) (committed : m ∈ d.memberships.versions key) : m.orgId ≠ id := by
  rintro rfl
  obtain ⟨older, isOlder⟩ := valid.referenced key m committed
  rw [valid.organizationsOnce own] at isOlder
  cases isOlder

theorem commit_owned (valid : Inv server jobs d) (committable : Committable jobs i d) {id : Nat} {o : OrganizationRow}
    (committed : o ∈ (d.commit i).organizations.versions id) :
    ∃ mid m, Owns jobs (d.commit i) id mid o.writtenBy m := by
  rcases Table.mem_commit.mp committed with own | older
  · have writer : o.writtenBy = i := valid.organizations.written own
    obtain ⟨mid, m, ownM, org, role, ⟨row, isUser, identifies⟩, only⟩ := committable.owned id o own
    rw [writer]
    refine ⟨mid, m, Table.mem_commit.mpr (Or.inl ownM), org, role, ⟨row, commit_user isUser, identifies⟩, ?_⟩
    intro key other member same
    rcases Table.mem_commit.mp member with ownOther | isOlder
    · exact only key other ownOther same
    · exact (valid.unreferenced own isOlder same).elim
  · obtain ⟨mid, m, owns⟩ := valid.owned id o older
    refine ⟨mid, m, owns.mono (fun _ _ => commit_user) (fun _ _ => commit_membership) ?_⟩
    intro key row member same
    rcases Table.mem_commit.mp member with own | isOlder
    · obtain ⟨mine, ownMine⟩ := committable.references key row own
      rw [same] at ownMine
      rw [valid.organizationsOnce ownMine] at older
      cases older
    · exact isOlder

theorem commit_references (valid : Inv server jobs d) {j mid : Nat} {m : MembershipRow}
    (own : (d.commit i).memberships.own j mid = some m) :
    (∃ o, o ∈ (d.commit i).organizations.versions m.orgId) ∨
      ∃ o, (d.commit i).organizations.own j m.orgId = some o := by
  simp only [Database.commit, Table.commit] at own
  split at own
  · cases own
  · rename_i other
    rcases valid.references j mid m own with ⟨o, committed⟩ | ⟨o, open_⟩
    · exact Or.inl ⟨o, commit_organization committed⟩
    · refine Or.inr ⟨o, ?_⟩
      simpa only [Database.commit, Table.commit, other, if_false] using open_

theorem kept_commit (valid : Inv server jobs d) (committable : Committable jobs i d) :
    Kept server jobs i d (d.commit i) := by
  refine ⟨fun j different => ⟨Table.spares_commit valid.users (Ne.symm different),
    Table.spares_commit valid.organizations (Ne.symm different),
    Table.spares_commit valid.memberships (Ne.symm different)⟩, ?_⟩
  constructor
  · exact Table.commit_valid valid.users
  · exact Table.commit_valid valid.organizations
  · exact Table.commit_valid valid.memberships
  · exact Table.commit_insertOnly valid.organizations valid.organizationsOnce
  · exact Table.commit_insertOnly valid.memberships valid.membershipsOnce
  · exact fun id row live => valid.authored id row (Table.commit_live live)
  · intro id row live
    rcases valid.inserter id row (Table.commit_live live) with self | ⟨first, committed, wrote⟩
    · exact Or.inl self
    · exact Or.inr ⟨first, commit_user committed, wrote⟩
  · exact fun id o committed => commit_owned valid committable committed
  · intro mid m member
    rcases Table.mem_commit.mp member with own | older
    · obtain ⟨o, mine⟩ := committable.references mid m own
      exact ⟨o, Table.mem_commit.mpr (Or.inl mine)⟩
    · obtain ⟨o, committed⟩ := valid.referenced mid m older
      exact ⟨o, commit_organization committed⟩
  · exact fun j mid m own => commit_references valid own

end PetBackend.Postgres
