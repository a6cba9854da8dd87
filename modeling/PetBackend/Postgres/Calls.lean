import PetBackend.Postgres.Runs

/-!
# What a call does

What is permitted, by what it comes to in the tables.
-/

namespace PetBackend.Postgres
open Library Persistence

/-- A row that an upsert of run `i` writes. -/
inductive WritesUser (d : Database) (i : Nat) (values : UserValues) (update : UserUpdate) (id : Nat) :
    UserRow → Prop where
  | insert (inserts : Table.Inserts userKeys d.users id ⟨values, i, i, update⟩) :
    WritesUser d i values update id ⟨values, i, i, update⟩
  | set {row : UserRow} (seen : d.users.view i id = some row)
    (key : row.hasKey values.authIssuer values.authSubject) :
    WritesUser d i values update id (row.set i update)

/-- Nothing, or it ends what its transaction wrote, or it writes one row. -/
inductive Changes (i : Nat) (d : Database) : (op : DbOp) → op.Ret → Database → Prop where
  | same {op : DbOp} {answer : op.Ret} : Changes i d op answer d
  | discard {op : DbOp} {answer : op.Ret} : Changes i d op answer (d.discard i)
  | commit {answer : DbOp.commit.Ret} : Changes i d .commit answer (d.commit i)
  | organization {values : OrganizationValues} {id : Nat} : Changes i d (.insertOrganization values) (.ok ())
      { d with organizations := d.organizations.write i id ⟨values, i⟩ }
  | membership {values : MembershipValues} {id userId orgId : Nat} {result : PUnit} :
    Changes i d (.execute (.insertMembership values)) (.ok result)
      { d with memberships := d.memberships.write i id ⟨values.publicId, userId, orgId, values.userRole, i⟩ }
  | user {values : UserValues} {update : UserUpdate} {rows : List (UserORM × Bool)} {id : Nat} {row : UserRow}
    (writes : WritesUser d i values update id row) : Changes i d (.execute (.upsertUser values update)) (.ok rows)
      { d with users := d.users.write i id row }

section
variable {nameCanonical : String → String} {i : Nat} {op : DbOp} {d d' : Database} {answer : op.Ret}

theorem failed_changes (failed : Failed i d d') : Changes i d op answer d' := by
  rcases failed with rfl | rfl
  · exact .same
  · exact .discard

theorem permits_changes (permitted : Permits nameCanonical i op d answer d') : Changes i d op answer d' := by
  cases op with
  | now =>
    cases permitted
    exact .same
  | close =>
    cases permitted
    exact .discard
  | execute statement =>
    cases answer with
    | error raised => exact failed_changes (statement_failed permitted)
    | ok result =>
      cases statement with
      | selectUser issuer subject =>
        obtain ⟨rfl, -⟩ := permitted
        exact .same
      | insertMembership values =>
        obtain ⟨id, userId, orgId, user, organization, -, -, -, -, -, rfl⟩ := permitted
        exact .membership
      | upsertUser values update =>
        rcases permitted with ⟨id, inserts, rfl, -⟩ | ⟨id, row, seen, subject, issuer, -, rfl, -⟩
        · exact .user (.insert inserts)
        · exact .user (.set seen ⟨issuer, subject⟩)
  | insertOrganization values =>
    cases answer with
    | error raised => exact failed_changes permitted
    | ok =>
      obtain ⟨id, -, rfl⟩ := permitted
      exact .organization
  | refresh =>
    cases answer with
    | error raised => exact failed_changes permitted
    | ok =>
      cases permitted
      exact .same
  | commit =>
    cases answer with
    | error raised => exact failed_changes permitted
    | ok =>
      cases permitted
      exact .commit
  | rollback =>
    cases answer with
    | error raised => exact failed_changes permitted
    | ok =>
      cases permitted
      exact .discard

/-- Only an insert brings an organization. -/
theorem permits_live {id : Nat} {o : OrganizationRow} (permitted : Permits nameCanonical i op d answer d')
    (live : d'.organizations.Live id o) :
    d.organizations.Live id o ∨ ∃ values, op = .insertOrganization values ∧ o = ⟨values, i⟩ := by
  cases permits_changes permitted with
  | same | membership | user => exact Or.inl live
  | discard => exact Or.inl (Table.discard_live live)
  | commit => exact Or.inl (Table.commit_live live)
  | organization =>
    rcases Table.write_live live with ⟨-, rfl⟩ | older
    · exact Or.inr ⟨_, rfl, rfl⟩
    · exact Or.inl older

theorem permits_own {j id : Nat} {o : OrganizationRow} (permitted : Permits nameCanonical i op d answer d')
    (own : d'.organizations.own j id = some o) :
    d.organizations.own j id = some o ∨ j = i ∧ ∃ values, op = .insertOrganization values := by
  cases permits_changes permitted with
  | same | membership | user => exact Or.inl own
  | discard =>
    simp only [Database.discard, Table.discard] at own
    split at own
    · cases own
    · exact Or.inl own
  | commit =>
    simp only [Database.commit, Table.commit] at own
    split at own
    · cases own
    · exact Or.inl own
  | organization =>
    simp only [Table.write] at own
    split at own
    · rename_i here
      exact Or.inr ⟨here.1, _, rfl⟩
    · exact Or.inl own

/-- Only a statement brings a membership. -/
theorem permits_membership {mid : Nat} {m : MembershipRow} (permitted : Permits nameCanonical i op d answer d')
    (live : d'.memberships.Live mid m) : d.memberships.Live mid m ∨
      ∃ values, op = .execute (.insertMembership values) ∧ m.writtenBy = i ∧ m.publicId = values.publicId := by
  cases permits_changes permitted with
  | same | organization | user => exact Or.inl live
  | discard => exact Or.inl (Table.discard_live live)
  | commit => exact Or.inl (Table.commit_live live)
  | membership =>
    rcases Table.write_live live with ⟨-, rfl⟩ | older
    · exact Or.inr ⟨_, rfl, rfl, rfl⟩
    · exact Or.inl older

end

end PetBackend.Postgres
