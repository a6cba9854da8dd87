import Mathlib.Data.Set.Function
import PetBackend.App.Usecases

/-!
# The ledger

What the use cases are for, as if they were run one at a time: who has an account, which organizations there are,
and who belongs to them.
-/

namespace PetBackend

/-- Who somebody is to the identity provider. -/
def User.authKey (user : User) : String × String := (user.authIssuer, user.authSubject)

def Principal.authKey (principal : Principal) : String × String := (principal.issuer, principal.subject)

/-- An account as a later login leaves it. -/
def User.renewed (known seen : User) : User :=
  { known with
    username := seen.username
    email := seen.email
    firstName := seen.firstName
    lastName := seen.lastName
    lastLoginAt := seen.lastLoginAt
    updatedAt := seen.updatedAt }

@[ext] structure Ledger (u : UnicodeData) where
  users : Set User
  organizations : Set (Organization u)
  memberships : Set Membership

namespace Ledger

variable {u : UnicodeData}

def empty : Ledger u := ⟨∅, ∅, ∅⟩

/-- Whoever has no account yet is given the one that was prepared, and who has one keeps it under its public id. -/
inductive Login (seen : User) (ledger : Ledger u) : User → Bool → Ledger u → Prop where
  | opens (fresh : ∀ known ∈ ledger.users, known.authKey ≠ seen.authKey ∧ known.publicId ≠ seen.publicId) :
    Login seen ledger seen true { ledger with users := insert seen ledger.users }
  | renews {known : User} (held : known ∈ ledger.users) (same : known.authKey = seen.authKey) :
    Login seen ledger (known.renewed seen) false
      { ledger with users := insert (known.renewed seen) (ledger.users \ {known}) }

/-- An account founds an organization of a free name and becomes its owner. -/
inductive Founding (canonical : String → String) (founder : Principal) (org : Organization u) (membershipId : PublicId)
    (ledger : Ledger u) : Ledger u → Prop where
  | founds {owner : User} (held : owner ∈ ledger.users) (same : owner.authKey = founder.authKey)
    (free : ∀ other ∈ ledger.organizations, other.publicId ≠ org.publicId ∧
      canonical other.name.value ≠ canonical org.name.value) :
    Founding canonical founder org membershipId ledger { ledger with
      organizations := insert org ledger.organizations
      memberships := insert ⟨membershipId, org.publicId, owner.publicId, .owner⟩ ledger.memberships }

/-- The only membership of an organization, which is its owner's. -/
structure OwnedBy (ledger : Ledger u) (org : Organization u) (owner : User) (membership : Membership) : Prop where
  held : owner ∈ ledger.users
  listed : membership ∈ ledger.memberships
  names : membership.userPublicId = owner.publicId ∧ membership.role = .owner
  only : ∀ other ∈ ledger.memberships, other.orgPublicId = org.publicId ↔ other = membership

structure WellFormed (canonical : String → String) (ledger : Ledger u) : Prop where
  accounts : ledger.users.InjOn User.authKey
  userIds : ledger.users.InjOn User.publicId
  names : ledger.organizations.InjOn fun org => canonical org.name.value
  organizationIds : ledger.organizations.InjOn Organization.publicId
  owned : ∀ org ∈ ledger.organizations, ∃ owner membership, ledger.OwnedBy org owner membership
  referenced : ∀ membership ∈ ledger.memberships, ∃ org ∈ ledger.organizations, org.publicId = membership.orgPublicId

variable {canonical : String → String} {ledger later : Ledger u}

theorem empty_wellFormed : (empty : Ledger u).WellFormed canonical where
  accounts := Set.injOn_empty _
  userIds := Set.injOn_empty _
  names := Set.injOn_empty _
  organizationIds := Set.injOn_empty _
  owned _ := False.elim
  referenced _ := False.elim

theorem injOn_insert {α β : Type} {s : Set α} {f : α → β} {a : α} (injective : s.InjOn f) (fresh : ∀ b ∈ s, f b ≠ f a) :
    (insert a s).InjOn f := by
  refine (Set.injOn_insert fun member => fresh a member rfl).mpr ⟨injective, ?_⟩
  rintro ⟨b, member, same⟩
  exact fresh b member same

/-- Replacing an element by one of the same key. -/
theorem injOn_replace {α β : Type} {s : Set α} {f : α → β} {a b : α} (injective : s.InjOn f) (member : a ∈ s)
    (same : f b = f a) : (insert b (s \ {a})).InjOn f := by
  refine injOn_insert (injective.mono Set.sdiff_subset) ?_
  rintro c ⟨isMember, other⟩ clash
  exact other (injective isMember member (clash.trans same))

theorem Login.wellFormed {seen user : User} {created : Bool} (login : Login seen ledger user created later)
    (valid : ledger.WellFormed canonical) : later.WellFormed canonical := by
  cases login with
  | opens fresh =>
    refine { valid with
      accounts := injOn_insert valid.accounts fun known held => (fresh known held).1
      userIds := injOn_insert valid.userIds fun known held => (fresh known held).2
      owned := fun org member => ?_ }
    obtain ⟨owner, membership, owned⟩ := valid.owned org member
    exact ⟨owner, membership, { owned with held := Set.mem_insert_of_mem seen owned.held }⟩
  | @renews known held same =>
    refine { valid with
      accounts := injOn_replace valid.accounts held rfl
      userIds := injOn_replace valid.userIds held rfl
      owned := fun org member => ?_ }
    obtain ⟨owner, membership, owned⟩ := valid.owned org member
    by_cases here : owner = known
    · subst here
      exact ⟨owner.renewed seen, membership, { owned with held := Set.mem_insert .. }⟩
    · exact ⟨owner, membership, { owned with held := Set.mem_insert_of_mem _ ⟨owned.held, here⟩ }⟩

theorem Founding.wellFormed {founder : Principal} {org : Organization u} {membershipId : PublicId}
    (founding : Founding canonical founder org membershipId ledger later) (valid : ledger.WellFormed canonical) :
    later.WellFormed canonical := by
  obtain @⟨owner, held, same, free⟩ := founding
  -- no membership refers to the new organization yet
  have unused : ∀ other ∈ ledger.memberships, other.orgPublicId ≠ org.publicId := by
    intro other member same
    obtain ⟨referred, isMember, names⟩ := valid.referenced other member
    exact (free referred isMember).1 (names.trans same)
  refine { valid with
    names := injOn_insert valid.names fun other member => (free other member).2
    organizationIds := injOn_insert valid.organizationIds fun other member => (free other member).1
    owned := ?_
    referenced := ?_ }
  · rintro other (rfl | member)
    · refine ⟨owner, _, held, Set.mem_insert .., ⟨rfl, rfl⟩, ?_⟩
      rintro membership (rfl | isMember)
      · exact ⟨fun _ => rfl, fun _ => rfl⟩
      · refine ⟨fun names => (unused membership isMember names).elim, ?_⟩
        rintro rfl
        rfl
    · obtain ⟨user, membership, owned⟩ := valid.owned other member
      refine ⟨user, membership, owned.held, Set.mem_insert_of_mem _ owned.listed, owned.names, ?_⟩
      rintro another (rfl | isMember)
      · refine ⟨fun names => ((free other member).1 names.symm).elim, fun old => ?_⟩
        exact (unused membership owned.listed (old ▸ rfl)).elim
      · exact owned.only another isMember
  · rintro membership (rfl | isMember)
    · exact ⟨org, Set.mem_insert .., rfl⟩
    · obtain ⟨referred, member, names⟩ := valid.referenced membership isMember
      exact ⟨referred, Set.mem_insert_of_mem _ member, names⟩

end Ledger

end PetBackend
