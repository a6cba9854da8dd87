import PetBackend.Library.Versions
import PetBackend.Persistence.UnitOfWork

/-!
# The database

The tables of `infra/sqla/db/models.py` that the use cases touch, and what a PostgreSQL server may
do with each call of a transaction at READ COMMITTED: every answer it may give and every state it
may leave. Any statement, commit or rollback may fail. Server-side timestamps are left out.
-/

namespace PetBackend.Postgres
open Library Persistence

/-- A version of a row of `users`: the run that inserted the row, and the run and the `set_` clause
that wrote this version. -/
structure UserRow where
  values : UserValues
  insertedBy : Nat
  writtenBy : Nat
  update : UserUpdate

structure OrganizationRow where
  values : OrganizationValues
  writtenBy : Nat

structure MembershipRow where
  publicId : UUID
  userId : Nat
  orgId : Nat
  userRole : MemberRole
  writtenBy : Nat

structure UserIdentity where
  publicId : UUID
  authIssuer : String
  authSubject : String
  createdAt : DateTime
  insertedBy : Nat

def UserRow.identity (row : UserRow) : UserIdentity where
  publicId := row.values.publicId
  authIssuer := row.values.authIssuer
  authSubject := row.values.authSubject
  createdAt := row.values.createdAt
  insertedBy := row.insertedBy

def UserRow.orm (row : UserRow) : UserORM where
  publicId := row.values.publicId
  firstName := row.values.firstName
  lastName := row.values.lastName
  username := row.values.username
  email := row.values.email
  authIssuer := row.values.authIssuer
  authSubject := row.values.authSubject
  lastLoginAt := row.values.lastLoginAt
  createdAt := row.values.createdAt
  updatedAt := row.values.updatedAt

/-- `DO UPDATE SET`. -/
def UserRow.set (row : UserRow) (i : Nat) (update : UserUpdate) : UserRow where
  values := { row.values with
    username := update.username
    email := update.email
    firstName := update.firstName
    lastName := update.lastName
    lastLoginAt := update.lastLoginAt
    updatedAt := update.updatedAt }
  insertedBy := row.insertedBy
  writtenBy := i
  update := update

/-- The unique constraints of `users`: `public_id` and `uq_users_auth_subject_auth_issuer`. -/
def userKeys : Table.Keys UserRow UserIdentity where
  writer := UserRow.writtenBy
  identity := UserRow.identity
  clash a b := a.publicId = b.publicId ∨ (a.authSubject = b.authSubject ∧ a.authIssuer = b.authIssuer)
  symm clash := clash.imp Eq.symm (fun same => ⟨same.1.symm, same.2.symm⟩)

/-- `public_id` and `uq_organizations_name_canonical`, over the computed column. -/
def organizationKeys (nameCanonical : String → String) : Table.Keys OrganizationRow OrganizationRow where
  writer := OrganizationRow.writtenBy
  identity := id
  clash a b := a.values.publicId = b.values.publicId ∨
    nameCanonical a.values.name = nameCanonical b.values.name
  symm clash := clash.imp Eq.symm Eq.symm

/-- `public_id` and `uq_memberships_org_user`. -/
def membershipKeys : Table.Keys MembershipRow MembershipRow where
  writer := MembershipRow.writtenBy
  identity := id
  clash a b := a.publicId = b.publicId ∨ (a.userId = b.userId ∧ a.orgId = b.orgId)
  symm clash := clash.imp Eq.symm (fun same => ⟨same.1.symm, same.2.symm⟩)

structure Database where
  users : Table UserRow
  organizations : Table OrganizationRow
  memberships : Table MembershipRow

namespace Database

def empty : Database := ⟨.empty, .empty, .empty⟩

def commit (d : Database) (i : Nat) : Database :=
  ⟨d.users.commit i, d.organizations.commit i, d.memberships.commit i⟩

def discard (d : Database) (i : Nat) : Database :=
  ⟨d.users.discard i, d.organizations.discard i, d.memberships.discard i⟩

end Database

inductive DbOp where
  | now
  | execute (statement : Statement)
  | insertOrganization (values : OrganizationValues)
  | refresh
  | commit
  | rollback
  | close

abbrev DbOp.Ret : DbOp → Type
  | .now => DateTime
  | .execute statement => Except Exc statement.Result
  | .close => Unit
  | _ => Except Exc Unit

/-- A failure leaves the transaction as it was, or loses its writes. -/
def Failed (i : Nat) (d d' : Database) : Prop := d' = d ∨ d' = d.discard i

def Answered {α : Type} (ok : α → Prop) (failed : Prop) : Except Exc α → Prop
  | .ok value => ok value
  | .error _ => failed

/-- The rows that a `SELECT` by identity finds, in any order. -/
def Selects (d : Database) (i : Nat) (issuer subject : String) (rows : List UserORM) : Prop :=
  ∃ found : List (Nat × UserRow), found.Nodup ∧ rows = found.map (fun entry => entry.2.orm) ∧
    ∀ id row, (id, row) ∈ found ↔ d.users.view i id = some row ∧
      row.values.authIssuer = issuer ∧ row.values.authSubject = subject

/-- The two scalar subqueries found a row each. Without one the value is null and the insert fails. -/
def InsertsMembership (d : Database) (i : Nat) (values : MembershipValues) (d' : Database) : Prop :=
  ∃ id userId orgId user organization,
    d.users.view i userId = some user ∧ user.values.publicId = values.userPublicId ∧
    d.organizations.view i orgId = some organization ∧
    organization.values.publicId = values.orgPublicId ∧
    Table.Inserts membershipKeys d.memberships id ⟨values.publicId, userId, orgId, values.userRole, i⟩ ∧
    d' = { d with memberships :=
      d.memberships.write i id ⟨values.publicId, userId, orgId, values.userRole, i⟩ }

/-- `xmax = 0` exactly when the row was inserted. An update waits for an open transaction that wrote
the row. -/
def Upserts (d : Database) (i : Nat) (values : UserValues) (update : UserUpdate)
    (rows : List (UserORM × Bool)) (d' : Database) : Prop :=
  (∃ id, Table.Inserts userKeys d.users id ⟨values, i, i, update⟩ ∧
    d' = { d with users := d.users.write i id ⟨values, i, i, update⟩ } ∧
    rows = [((⟨values, i, i, update⟩ : UserRow).orm, true)]) ∨
  ∃ id row, d.users.view i id = some row ∧ row.values.authSubject = values.authSubject ∧
    row.values.authIssuer = values.authIssuer ∧
    (∀ j a, d.users.own j id = some a → j = i) ∧
    d' = { d with users := d.users.write i id (row.set i update) } ∧
    rows = [((row.set i update).orm, false)]

def Permits (nameCanonical : String → String) (i : Nat) :
    (op : DbOp) → Database → op.Ret → Database → Prop
  | .now, d, _, d' => d' = d
  | .execute (.selectUser issuer subject), d, answer, d' =>
    Answered (fun rows => d' = d ∧ Selects d i issuer subject rows) (Failed i d d') answer
  | .execute (.insertMembership values), d, answer, d' =>
    Answered (fun _ => InsertsMembership d i values d') (Failed i d d') answer
  | .execute (.upsertUser values update), d, answer, d' =>
    Answered (fun rows => Upserts d i values update rows d') (Failed i d d') answer
  | .insertOrganization values, d, answer, d' =>
    Answered (fun _ => ∃ id,
      Table.Inserts (organizationKeys nameCanonical) d.organizations id ⟨values, i⟩ ∧
      d' = { d with organizations := d.organizations.write i id ⟨values, i⟩ }) (Failed i d d') answer
  | .refresh, d, answer, d' => Answered (fun _ => d' = d) (Failed i d d') answer
  | .commit, d, answer, d' => Answered (fun _ => d' = d.commit i) (Failed i d d') answer
  | .rollback, d, answer, d' => Answered (fun _ => d' = d.discard i) (Failed i d d') answer
  | .close, d, _, d' => d' = d.discard i

theorem statement_failed {nameCanonical : String → String} {i : Nat} {statement : Statement} {raised : Exc}
    {d d' : Database} (permitted : Permits nameCanonical i (.execute statement) d (.error raised) d') :
    Failed i d d' := by
  cases statement with
  | _ => exact permitted

/-- A server: the expression of the computed column, and how it answers, within what is permitted. -/
structure Server where
  nameCanonical : String → String
  step : Nat → (op : DbOp) → Database → op.Ret → Database → Prop
  conforms : ∀ {i op d answer d'}, step i op d answer d' → Permits nameCanonical i op d answer d'

end PetBackend.Postgres
