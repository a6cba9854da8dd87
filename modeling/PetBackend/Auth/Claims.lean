import PetBackend.Auth.Verifier
import PetBackend.Library.Outcome

/-!
# Where a principal's attributes come from

`_build_principal` read back from success.
-/

namespace PetBackend.Auth
open Outcome

theorem requireStrClaim_ok {claims : JsonObject} {name value : String} :
    requireStrClaim claims name = .ok value ↔ claims.get name = .str value ∧ value ≠ "" := by
  unfold requireStrClaim
  split
  · rename_i found read
    by_cases empty : found = ""
    · simp only [empty, if_true, reduceCtorEq, false_iff]
      rintro ⟨same, nonempty⟩
      rw [read, empty] at same
      exact nonempty (Json.str.inj same).symm
    · simp only [empty, if_false, Except.ok.injEq, read, Json.str.injEq]
      constructor
      · rintro rfl
        exact ⟨rfl, empty⟩
      · exact And.left
  · rename_i other
    simp only [reduceCtorEq, false_iff]
    rintro ⟨same, _⟩
    exact other value same

theorem optionalStrClaim_ok {claims : JsonObject} {name : String} {value : Option String}
    (read : optionalStrClaim claims name = .ok value) (text : String) :
    claims.get name = .str text ↔ value = some text := by
  unfold optionalStrClaim at read
  split at read
  · rename_i null
    cases read
    simp [null]
  · rename_i held
    cases read
    simp [held]
  · cases read

theorem mem_strings {items : List Json} {value : String} : value ∈ strings items ↔ .str value ∈ items := by
  simp only [strings, List.mem_filterMap]
  constructor
  · rintro ⟨item, member, read⟩
    cases item <;> cases read
    exact member
  · intro member
    exact ⟨.str value, member, rfl⟩

structure Named (claims : JsonObject) (principal : Principal) : Prop where
  subject : claims.get "sub" = .str principal.subject ∧ principal.subject ≠ ""
  issuer : claims.get "iss" = .str principal.issuer ∧ principal.issuer ≠ ""
  username : claims.get "preferred_username" = .str principal.username ∧ principal.username ≠ ""
  email : claims.get "email" = .str principal.email ∧ principal.email ≠ ""

structure Claimed (claims : JsonObject) (principal : Principal) : Prop extends Named claims principal where
  firstName : ∀ text, claims.get "given_name" = .str text ↔ principal.firstName = some text
  lastName : ∀ text, claims.get "family_name" = .str text ↔ principal.lastName = some text
  scopes : principal.scopes = extractScopes claims
  realmRoles : principal.realmRoles = extractRealmRoles claims
  clientRoles : principal.clientRoles = extractClientRoles claims

theorem buildPrincipal_ok {claims : JsonObject} {principal : Principal}
    (built : buildPrincipal claims = .ok principal) : Claimed claims principal := by
  unfold buildPrincipal at built
  obtain ⟨subject, subjectRead, built⟩ := bind_ok.mp built
  obtain ⟨issuer, issuerRead, built⟩ := bind_ok.mp built
  obtain ⟨username, usernameRead, built⟩ := bind_ok.mp built
  obtain ⟨email, emailRead, built⟩ := bind_ok.mp built
  obtain ⟨firstName, givenRead, built⟩ := bind_ok.mp built
  obtain ⟨lastName, familyRead, built⟩ := bind_ok.mp built
  obtain rfl := pure_ok.mp built
  exact ⟨⟨requireStrClaim_ok.mp subjectRead, requireStrClaim_ok.mp issuerRead,
    requireStrClaim_ok.mp usernameRead, requireStrClaim_ok.mp emailRead⟩,
    optionalStrClaim_ok givenRead, optionalStrClaim_ok familyRead, rfl, rfl, rfl⟩

end PetBackend.Auth
