import PetBackend.Api.InvalidRequests
import PetBackend.App.Usecases
import PetBackend.Domain.OrgNames

/-!
# Creating an organization

`api/routers/organizations.py`. The name is validated in the body of the request and again in the command.
-/

namespace PetBackend.Api
open Library Persistence

section
variable (framework : Framework) (u : UnicodeData)

/-- `create_organization`, up to the command that the executor runs. -/
def createOrganization (principal : Principal) (uuidGen : Nat → UUID) (body : PyJson) :
    Except (List RawError) (Handler u PublicId) := do
  let name ← createOrgDtoIn framework u body
  return createOrganizationCmd { name := name, principal := principal } uuidGen

end

variable {framework : Framework} {u : UnicodeData}

/-- The command on a name that is not validated again. -/
def createNamed (name : Name u) (principal : Principal) (uuidGen : Nat → UUID) : Handler u PublicId := do
  let found : Option User ← uow (.getByAuthIdentity principal.issuer principal.subject)
  match found with
  | none => throw (.app (notFound "User not found"))
  | some user =>
    uow (.orgsCreate { publicId := ⟨uuidGen 0⟩, name := name })
    uow (.membershipsCreate {
      publicId := ⟨uuidGen 1⟩
      orgPublicId := ⟨uuidGen 0⟩
      userPublicId := user.publicId
      role := .owner })
    return ⟨uuidGen 0⟩

/-- Hypothesis on the validation of a body: the value of the field is what its validator returned. -/
def Framework.ReturnsValidated (framework : Framework) : Prop :=
  ∀ field validator body value, framework.validateBody field validator body = .ok value →
    ∃ raw, validator raw = .ok value

theorem createOrganizationCmd_named {value : String} {name : Name u} (created : Name.create u value = .ok name)
    (principal : Principal) (uuidGen : Nat → UUID) :
    createOrganizationCmd { name := value, principal := principal } uuidGen = createNamed name principal uuidGen := by
  have raised : nameOrRaise value = (pure name : Handler u (Name u)) := by
    unfold nameOrRaise
    rw [created]
  unfold createOrganizationCmd createNamed
  refine congrArg (uow (.getByAuthIdentity principal.issuer principal.subject) >>= ·) (funext fun found => ?_)
  cases found with
  | none => rfl
  | some user =>
    dsimp only
    rw [raised]
    exact pure_bind name _

theorem createOrgDtoIn_ok (returns : framework.ReturnsValidated) {body : PyJson} {name : String}
    (admitted : createOrgDtoIn framework u body = .ok name) : ∃ raw, validateOrgName u raw = .ok name :=
  returns _ _ _ _ admitted

/-- A validated name is a fixed point: of the validation, of the command that validates it again, and of
`Name.create`. -/
theorem validated_once (laws : u.SpaceLaws) (returns : framework.ReturnsValidated) :
    (∀ v w, validateOrgName u v = .ok w → FixedName u w) ∧
    (∀ body value, createOrgDtoIn framework u body = .ok value → ∃ name : Name u,
      name.value = value ∧ Name.create u value = .ok name ∧ ∀ principal uuidGen,
        createOrganization framework u principal uuidGen body = .ok (createNamed name principal uuidGen)) ∧
    ∀ name : Name u, Name.create u name.value = .ok name := by
  refine ⟨fun v w accepted => validateOrgName_fixed laws accepted, ?_, Name.create_value laws⟩
  intro body value admitted
  obtain ⟨raw, accepted⟩ := createOrgDtoIn_ok returns admitted
  have created := Name.create_ok (validateOrgName_fixed laws accepted).validated
  refine ⟨_, rfl, created, fun principal uuidGen => ?_⟩
  unfold createOrganization
  rw [admitted]
  exact congrArg Except.ok (createOrganizationCmd_named created principal uuidGen)

/-! ### A sample request -/

theorem bodyErrors_ok {field : String} {validator : String → Except ValidationError String} {body : PyJson}
    {value : String} (admitted : bodyErrors field validator body = .ok value) : ∃ raw, validator raw = .ok value := by
  unfold bodyErrors at admitted
  split at admitted
  · cases admitted
  · split at admitted
    · cases admitted
    · unfold valueErrors at admitted
      split at admitted
      · split at admitted
        · cases admitted
        · rename_i decoded _
          cases accepted : validator decoded with
          | error raised =>
            rw [accepted] at admitted
            cases admitted
          | ok returned =>
            rw [accepted] at admitted
            cases admitted
            exact ⟨decoded, accepted⟩
      · cases admitted
  · cases admitted

theorem fastapi_returns : fastapi.ReturnsValidated := by
  intro field validator body value admitted
  have mapped : (bodyErrors field validator body).mapError (·.map ErrorDetail.toDict) = .ok value := admitted
  cases outcome : bodyErrors field validator body with
  | error details =>
    rw [outcome, Outcome.mapError_error] at mapped
    cases mapped
  | ok accepted =>
    rw [outcome, Outcome.mapError_ok] at mapped
    cases mapped
    exact bodyErrors_ok outcome

/-- The quads are canonically the spaces of their width. -/
def quad (c : Char) : Char := if c = '\u2000' then '\u2002' else if c = '\u2001' then '\u2003' else c

/-- The normalization of lower-case ASCII letters and spaces. -/
def spacedUnicode : UnicodeData := ⟨fun text => String.ofList (text.toList.map quad), id⟩

theorem quad_quad (c : Char) : quad (quad c) = quad c := by
  unfold quad
  split
  · decide
  · split
    · decide
    · rfl

theorem quad_space (c : Char) : PyString.isSpace (quad c) = PyString.isSpace c := by
  unfold quad
  split
  · rename_i same
    rw [same]
    decide
  · split
    · rename_i same
      rw [same]
      decide
    · rfl

theorem spacedUnicode_laws : spacedUnicode.SpaceLaws where
  idempotent text := by
    simp only [spacedUnicode, String.toList_ofList, List.map_map]
    exact congrArg String.ofList (List.map_congr_left fun c _ => quad_quad c)
  spaces text := by
    simp only [spacedUnicode, String.toList_ofList]
    exact rewritten_map quad_space _

theorem validated_once_sample : ∃ name : Name spacedUnicode, name.value = "ab\u2003cd" ∧
    FixedName spacedUnicode "ab\u2003cd" ∧ ∀ principal uuidGen,
      createOrganization fastapi spacedUnicode principal uuidGen (named (.str (ofString "\u2000ab\u2001cd "))) =
        .ok (createNamed name principal uuidGen) := by
  have admitted : createOrgDtoIn fastapi spacedUnicode (named (.str (ofString "\u2000ab\u2001cd "))) =
      .ok "ab\u2003cd" := by rfl
  have accepted : validateOrgName spacedUnicode "\u2000ab\u2001cd " = .ok "ab\u2003cd" := by rfl
  obtain ⟨fixed, once, _⟩ := validated_once spacedUnicode_laws fastapi_returns
  obtain ⟨name, held, _, handled⟩ := once _ _ admitted
  exact ⟨name, held, fixed _ _ accepted, handled⟩

end PetBackend.Api
