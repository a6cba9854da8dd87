import PetBackend.Auth.Verifier
import Mathlib.Data.Finset.Sort
import Mathlib.Data.String.Basic

/-!
# Authorization

The gates of `api/auth.py`, and the extraction of `infra/auth/keycloak_verifier.py` once more with
every type test of the source made at run time.
-/

namespace PetBackend.Auth

/-! ### The gates -/

/-- The dependency that the three `required_*` functions return, by what it asks for. -/
def gate (asked : String) (required : List String) (granted : Finset String) (principal : Principal) :
    Except AuthorizationError Principal :=
  let missing := (required.toFinset \ granted).sort (· ≤ ·)
  if missing = [] then .ok principal
  else
    let names := " ".intercalate missing
    .error (.insufficientPermissions s!"Missing required {asked}(s) {names}")

def requiredScopes (scopes : List String) (principal : Principal) : Except AuthorizationError Principal :=
  gate "scope" scopes principal.scopes principal

def requiredRealmRoles (roles : List String) (principal : Principal) :
    Except AuthorizationError Principal :=
  gate "realm role" roles principal.realmRoles principal

def requiredClientRoles (clientId : String) (roles : List String) (principal : Principal) :
    Except AuthorizationError Principal :=
  gate "client role" roles ((principal.clientRoles.lookup clientId).getD ∅) principal

theorem gate_ok {asked : String} {required : List String} {granted : Finset String} {principal : Principal} :
    gate asked required granted principal = .ok principal ↔ ∀ name ∈ required, name ∈ granted := by
  have missing : (required.toFinset \ granted).sort (· ≤ ·) = [] ↔ ∀ name ∈ required, name ∈ granted := by
    rw [← List.toFinset_eq_empty_iff, Finset.sort_toFinset, Finset.sdiff_eq_empty_iff_subset]
    exact ⟨fun within name member => within (List.mem_toFinset.mpr member),
      fun within name member => within name (List.mem_toFinset.mp member)⟩
  rw [← missing]
  simp only [gate]
  split
  · rename_i none
    exact ⟨fun _ => none, fun _ => rfl⟩
  · rename_i some
    exact ⟨nofun, fun none => (some none).elim⟩

theorem gate_refused {asked : String} {required : List String} {granted : Finset String}
    {principal : Principal} {name : String} (member : name ∈ required) (ungranted : name ∉ granted) :
    ∃ description, gate asked required granted principal = .error (.insufficientPermissions description) := by
  cases outcome : gate asked required granted principal with
  | error raised =>
    obtain ⟨description⟩ := raised
    exact ⟨description, rfl⟩
  | ok admitted =>
    have same : admitted = principal := by
      simp only [gate] at outcome
      split at outcome <;> cases outcome
      rfl
    subst same
    exact (ungranted (gate_ok.mp outcome name member)).elim

/-! ### The extraction, with its type tests -/

namespace Dynamic

def isStr : Json → Bool
  | .str _ => true
  | _ => false

def isList : Json → Bool
  | .list _ => true
  | _ => false

def isDict : Json → Bool
  | .dict _ => true
  | _ => false

/-- `value.get(name)`. -/
def get (value : Json) (name : String) : Except PyExc Json :=
  match value with
  | .dict members => .ok (JsonObject.get members name)
  | _ => .error (.other "AttributeError")

/-- `value.items()`. -/
def items : Json → Except PyExc (List (String × Json))
  | .dict members => .ok members
  | _ => .error (.other "AttributeError")

/-- `value.split()`. -/
def split : Json → Except PyExc (List Json)
  | .str value => .ok ((PyString.split value).map .str)
  | _ => .error (.other "AttributeError")

/-- `iter(value)`, to its end. -/
def iterate : Json → Except PyExc (List Json)
  | .list items => .ok items
  | .str value => .ok (value.toList.map fun c => .str (String.singleton c))
  | .dict members => .ok (members.map fun member => .str member.1)
  | _ => .error .typeError

def hash (element : Json) : Except PyExc HashKey :=
  match element.hashKey? with
  | some key => .ok key
  | none => .error .typeError

def frozenset (elements : List Json) : Except PyExc (Finset HashKey) := do
  return (← elements.mapM hash).toFinset

def extractScopes (claims : Json) : Except PyExc (Finset HashKey) := do
  let raw ← get claims "scope"
  if isStr raw && raw.truthy then
    frozenset (← split raw)
  else
    let scp ← get claims "scp"
    if isList scp then
      frozenset ((← iterate scp).filter isStr)
    else return ∅

def extractRealmRoles (claims : Json) : Except PyExc (Finset HashKey) := do
  let realmAccess ← get claims "realm_access"
  if !isDict realmAccess then return ∅
  else
    let roles ← get realmAccess "roles"
    if !isList roles then return ∅
    else frozenset ((← iterate roles).filter isStr)

/-- The keys of `items()` are distinct, so each assignment to `out` is a new entry. -/
def extractClientRoles (claims : Json) : Except PyExc (List (String × Finset HashKey)) := do
  let resourceAccess ← get claims "resource_access"
  if !isDict resourceAccess then return []
  else
    (← items resourceAccess).foldlM (fun out (client, body) => do
      if !isDict body then return out
      else
        let roles ← get body "roles"
        if isList roles then
          return out ++ [(client, ← frozenset ((← iterate roles).filter isStr))]
        else return out) []

end Dynamic

end PetBackend.Auth
