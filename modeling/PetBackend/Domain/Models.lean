import PetBackend.App.Errors
import PetBackend.PyString

/-!
# Value objects and entities

`domain/value_objects.py` and `domain/models.py`. The Unicode tables are a parameter.
-/

namespace PetBackend

abbrev UUID := BitVec 128

/-- A point in time, in microseconds. -/
abbrev DateTime := Int

/-- `unicodedata.normalize("NFC", _)` and `str.casefold`. -/
structure UnicodeData where
  nfc : String → String
  casefold : String → String

def orgNameMinLen : Nat := 3

def orgNameMaxLen : Nat := 64

section
variable (u : UnicodeData)

def normalizeOrgName (value : String) : String := u.nfc (PyString.strip value)

def canonicalizeOrgName (value : String) : String := u.nfc (u.casefold value)

def validateOrgName (value : String) : Except ValidationError String :=
  let normalizedValue := normalizeOrgName u value
  let canonicalValue := canonicalizeOrgName u normalizedValue
  if normalizedValue = "" then .error { message := "Name cannot be empty" }
  else if normalizedValue.length < orgNameMinLen then .error { message := "Name is too short" }
  else if normalizedValue.length > orgNameMaxLen then .error { message := "Name is too long" }
  else if canonicalValue.length > orgNameMaxLen then .error { message := "Name is too long" }
  else .ok normalizedValue

structure Name where
  value : String
  validated : ∃ raw, validateOrgName u raw = .ok value

def Name.create (value : String) : Except ValidationError (Name u) :=
  match result : validateOrgName u value with
  | .ok normalized => .ok ⟨normalized, value, result⟩
  | .error raised => .error raised

end

structure PublicId where
  value : UUID
  deriving DecidableEq

inductive MemberRole where
  | owner
  | admin
  | member
  deriving DecidableEq

structure Organization (u : UnicodeData) where
  publicId : PublicId
  name : Name u

structure Membership where
  publicId : PublicId
  orgPublicId : PublicId
  userPublicId : PublicId
  role : MemberRole

structure User where
  publicId : PublicId
  email : String
  username : String
  firstName : Option String
  lastName : Option String
  authIssuer : String
  authSubject : String
  lastLoginAt : DateTime
  createdAt : DateTime
  updatedAt : DateTime
  deriving DecidableEq

end PetBackend
