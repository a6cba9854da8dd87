import PetBackend.Json
import Mathlib.Data.Finset.Empty

/-!
# The authenticated principal

`domain/auth.py`.
-/

namespace PetBackend

structure Principal where
  subject : String
  issuer : String
  username : String
  email : String
  firstName : Option String := none
  lastName : Option String := none
  scopes : Finset String := ∅
  realmRoles : Finset String := ∅
  clientRoles : List (String × Finset String) := []
  rawClaims : JsonObject := []

end PetBackend
