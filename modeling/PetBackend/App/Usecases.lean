import PetBackend.Domain.Principal
import PetBackend.Persistence.Executor

/-!
# The use cases

`app/usecases`. A uuid generator is the stream of what its calls return.
-/

namespace PetBackend
open Library Persistence

/-- Handler code that lets failures propagate unless it says otherwise. -/
abbrev Handler (u : UnicodeData) (α : Type) : Type := ExceptT Exc (Program (UowOp u) UowOp.Ret) α

variable {u : UnicodeData}

def uow (op : UowOp u) : Handler u op.Value := ExceptT.mk (Program.lift op)

structure CreateOrganizationCmdIn where
  name : String
  principal : Principal

def nameOrRaise (value : String) : Handler u (Name u) :=
  match Name.create u value with
  | .ok name => pure name
  | .error raised => throw (.validation raised)

def createOrganizationCmd (cmd : CreateOrganizationCmdIn) (uuidGen : Nat → UUID) :
    Handler u PublicId := do
  let orgPublicId : PublicId := ⟨uuidGen 0⟩
  let found : Option User ← uow (.getByAuthIdentity cmd.principal.issuer cmd.principal.subject)
  match found with
  | none => throw (.app (notFound "User not found"))
  | some user =>
    let org : Organization u := { publicId := orgPublicId, name := ← nameOrRaise cmd.name }
    let membership : Membership := {
      publicId := ⟨uuidGen 1⟩
      orgPublicId := org.publicId
      userPublicId := user.publicId
      role := .owner }
    uow (.orgsCreate org)
    uow (.membershipsCreate membership)
    return orgPublicId

/-- The user that `provision_user_from_claims` creates. -/
def userFromClaims (principal : Principal) (publicId : PublicId) (now : DateTime) : User where
  publicId := publicId
  authIssuer := principal.issuer
  authSubject := principal.subject
  email := principal.email
  username := principal.username
  firstName := principal.firstName
  lastName := principal.lastName
  lastLoginAt := now
  createdAt := now
  updatedAt := now

def provisionUserFromClaims (principal : Principal) (uuidGen : Nat → UUID) :
    Handler u (User × Bool) := do
  let now : DateTime ← uow .now
  let publicId : PublicId := ⟨uuidGen 0⟩
  uow (.upsert (userFromClaims principal publicId now))

end PetBackend
