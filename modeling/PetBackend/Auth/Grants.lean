import PetBackend.Auth.Claims
import PetBackend.Auth.Gates
import PetBackend.Library.Entries
import PetBackend.Library.Pieces

/-!
# What the claims grant

Each gate admits the names that the claims hold in the place for it, and no others.
-/

namespace PetBackend.Auth
open Library

/-- A maximal stretch of text without whitespace. -/
def Token (text name : String) : Prop := name ≠ "" ∧ Piece PyString.isSpace text.toList name.toList

theorem mem_split {text name : String} : name ∈ PyString.split text ↔ Token text name := by
  unfold PyString.split Token
  rw [← mem_splitOnP, List.mem_map]
  constructor
  · rintro ⟨word, member, rfl⟩
    obtain ⟨among, nonempty⟩ := List.mem_filter.mp member
    refine ⟨fun empty => ?_, by rwa [String.toList_ofList]⟩
    have blank : word = [] := by simpa using congrArg String.toList empty
    subst blank
    cases nonempty
  · rintro ⟨nonempty, among⟩
    refine ⟨name.toList, List.mem_filter.mpr ⟨among, ?_⟩, String.ofList_toList⟩
    simpa using nonempty

/-- Where a gate looks for the names that it requires. -/
inductive Place where
  | scopes
  | realmRoles
  | clientRoles (clientId : String)

def Place.gate : Place → List String → Principal → Except AuthorizationError Principal
  | .scopes => requiredScopes
  | .realmRoles => requiredRealmRoles
  | .clientRoles clientId => requiredClientRoles clientId

inductive Grants (claims : JsonObject) : Place → String → Prop where
  | scope {raw name : String} (held : claims.get "scope" = .str raw) (nonempty : raw ≠ "")
      (token : Token raw name) : Grants claims .scopes name
  | scp {items : List Json} {name : String} (unset : ∀ raw, claims.get "scope" = .str raw → raw = "")
      (held : claims.get "scp" = .list items) (element : .str name ∈ items) : Grants claims .scopes name
  | realmRole {access : JsonObject} {roles : List Json} {name : String}
      (held : claims.get "realm_access" = .dict access) (listed : access.get "roles" = .list roles)
      (element : .str name ∈ roles) : Grants claims .realmRoles name
  | clientRole {access body : JsonObject} {roles : List Json} {clientId name : String}
      (held : claims.get "resource_access" = .dict access) (under : access.get clientId = .dict body)
      (listed : body.get "roles" = .list roles) (element : .str name ∈ roles) :
      Grants claims (.clientRoles clientId) name


variable {claims : JsonObject} {principal : Principal} {name : String}

/-- What `scp` grants, where it is asked. -/
def scpScopes (claims : JsonObject) : Finset String :=
  match claims.get "scp" with
  | .list items => (strings items).toFinset
  | _ => ∅

theorem mem_scpScopes : name ∈ scpScopes claims ↔ ∃ items, claims.get "scp" = .list items ∧ .str name ∈ items := by
  unfold scpScopes
  cases held : claims.get "scp" <;> simp [mem_strings]

theorem extractScopes_unset (unset : ∀ raw, claims.get "scope" = .str raw → raw = "") :
    extractScopes claims = scpScopes claims := by
  unfold extractScopes
  cases held : claims.get "scope" with
  | str raw => exact if_pos (unset raw held)
  | _ => rfl

theorem extractScopes_set {raw : String} (held : claims.get "scope" = .str raw) (nonempty : raw ≠ "") :
    extractScopes claims = (PyString.split raw).toFinset := by
  unfold extractScopes
  rw [held]
  exact if_neg nonempty

theorem mem_extractScopes : name ∈ extractScopes claims ↔ Grants claims .scopes name := by
  by_cases unset : ∀ raw, claims.get "scope" = .str raw → raw = ""
  · rw [extractScopes_unset unset, mem_scpScopes]
    constructor
    · rintro ⟨items, held, element⟩
      exact .scp unset held element
    · intro grants
      cases grants with
      | scope held nonempty token => exact (nonempty (unset _ held)).elim
      | scp _ held element => exact ⟨_, held, element⟩
  · push Not at unset
    obtain ⟨raw, held, nonempty⟩ := unset
    rw [extractScopes_set held nonempty, List.mem_toFinset, mem_split]
    constructor
    · exact fun token => .scope held nonempty token
    · intro grants
      cases grants with
      | scope other nonempty token =>
        cases held.symm.trans other
        exact token
      | scp unset other element => exact (nonempty (unset raw held)).elim

theorem mem_rolesOf {body : JsonObject} : name ∈ (rolesOf body).getD ∅ ↔
    ∃ roles, body.get "roles" = .list roles ∧ .str name ∈ roles := by
  unfold rolesOf
  cases held : body.get "roles" <;> simp [mem_strings]

theorem mem_extractRealmRoles : name ∈ extractRealmRoles claims ↔ Grants claims .realmRoles name := by
  unfold extractRealmRoles
  cases held : claims.get "realm_access" with
  | dict access =>
    refine mem_rolesOf.trans ⟨?_, fun grants => ?_⟩
    · rintro ⟨roles, listed, element⟩
      exact .realmRole held listed element
    · cases grants with
      | realmRole other listed element =>
        cases held.symm.trans other
        exact ⟨_, listed, element⟩
  | _ =>
    refine ⟨fun member => (Finset.notMem_empty _ member).elim, fun grants => ?_⟩
    cases grants with
    | realmRole other listed element => cases held.symm.trans other

/-- The roles of one client's body, whatever its type. -/
def clientRolesOf : Json → Option (Finset String)
  | .dict body => rolesOf body
  | _ => none

/-- Python dicts hold a key once. -/
def DistinctClients (claims : JsonObject) : Prop :=
  ∀ access, claims.get "resource_access" = .dict access → (access.map Prod.fst).Nodup

theorem lookup_extractClientRoles {access : JsonObject} (held : claims.get "resource_access" = .dict access)
    (distinct : (access.map Prod.fst).Nodup) (clientId : String) :
    (extractClientRoles claims).lookup clientId = (access.lookup clientId).bind clientRolesOf := by
  unfold extractClientRoles
  rw [held, ← lookup_filterMap clientRolesOf distinct]
  refine congrArg (List.lookup clientId) (List.filterMap_congr fun entry _ => ?_)
  obtain ⟨client, body⟩ := entry
  cases body <;> rfl

theorem mem_extractClientRoles (distinct : DistinctClients claims) (clientId : String) :
    name ∈ ((extractClientRoles claims).lookup clientId).getD ∅ ↔ Grants claims (.clientRoles clientId) name := by
  cases held : claims.get "resource_access" with
  | dict access =>
    rw [lookup_extractClientRoles held (distinct access held)]
    have under : (access.lookup clientId).bind clientRolesOf = clientRolesOf (JsonObject.get access clientId) := by
      unfold JsonObject.get
      cases access.lookup clientId <;> rfl
    rw [under]
    cases body : JsonObject.get access clientId with
    | dict members =>
      refine mem_rolesOf.trans ⟨?_, fun grants => ?_⟩
      · rintro ⟨roles, listed, element⟩
        exact .clientRole held body listed element
      · cases grants with
        | clientRole other under listed element =>
          cases held.symm.trans other
          cases body.symm.trans under
          exact ⟨_, listed, element⟩
    | _ =>
      refine ⟨fun member => (Finset.notMem_empty _ member).elim, fun grants => ?_⟩
      cases grants with
      | clientRole other under listed element =>
        cases held.symm.trans other
        cases body.symm.trans under
  | _ =>
    have none : extractClientRoles claims = [] := by
      unfold extractClientRoles
      rw [held]
    rw [none]
    refine ⟨fun member => (Finset.notMem_empty _ member).elim, fun grants => ?_⟩
    cases grants with
    | clientRole other under listed element => cases held.symm.trans other

/-! ### Nothing is raised -/

/-- The extraction with its type tests returns what the extraction without them does. -/
structure Extracted (claims : JsonObject) : Prop where
  scopes : Dynamic.extractScopes (.dict claims) = .ok ((extractScopes claims).image HashKey.str)
  realmRoles : Dynamic.extractRealmRoles (.dict claims) = .ok ((extractRealmRoles claims).image HashKey.str)
  clientRoles : Dynamic.extractClientRoles (.dict claims) =
    .ok ((extractClientRoles claims).map fun entry => (entry.1, entry.2.image HashKey.str))

theorem frozenset_str (names : List String) :
    Dynamic.frozenset (names.map .str) = .ok (names.toFinset.image HashKey.str) := by
  have hashed : (names.map Json.str).mapM Dynamic.hash = .ok (names.map HashKey.str) := by
    induction names with
    | nil => rfl
    | cons name rest ih =>
      rw [List.map_cons, List.mapM_cons, ih]
      rfl
  unfold Dynamic.frozenset
  rw [hashed]
  refine congrArg Except.ok (Finset.ext fun key => ?_)
  simp

theorem filter_isStr (items : List Json) : items.filter Dynamic.isStr = (strings items).map .str := by
  induction items with
  | nil => rfl
  | cons item rest ih =>
    cases item with
    | str name =>
      rw [List.filter_cons_of_pos rfl, ih]
      rfl
    | _ =>
      rw [List.filter_cons_of_neg Bool.false_ne_true, ih]
      rfl

theorem frozenset_filter (items : List Json) :
    Dynamic.frozenset (items.filter Dynamic.isStr) = .ok ((strings items).toFinset.image HashKey.str) := by
  rw [filter_isStr, frozenset_str]

theorem dynamic_scp (claims : JsonObject) : (if Dynamic.isList (claims.get "scp") then
      Dynamic.iterate (claims.get "scp") >>= fun items => Dynamic.frozenset (items.filter Dynamic.isStr)
    else pure ∅) = .ok ((scpScopes claims).image HashKey.str) := by
  unfold scpScopes
  cases claims.get "scp" with
  | list items => exact frozenset_filter items
  | _ => rfl

theorem dynamic_scopes (claims : JsonObject) :
    Dynamic.extractScopes (.dict claims) = .ok ((extractScopes claims).image HashKey.str) := by
  show (if Dynamic.isStr (claims.get "scope") && (claims.get "scope").truthy then
      Dynamic.split (claims.get "scope") >>= Dynamic.frozenset
    else if Dynamic.isList (claims.get "scp") then
      Dynamic.iterate (claims.get "scp") >>= fun items => Dynamic.frozenset (items.filter Dynamic.isStr)
    else pure ∅) = _
  rw [dynamic_scp]
  by_cases unset : ∀ raw, claims.get "scope" = .str raw → raw = ""
  · rw [extractScopes_unset unset]
    cases held : claims.get "scope" with
    | str raw =>
      rw [unset raw held]
      rfl
    | _ => rfl
  · push Not at unset
    obtain ⟨raw, held, nonempty⟩ := unset
    have truthy : (Dynamic.isStr (claims.get "scope") && (claims.get "scope").truthy) = true := by
      rw [held]
      simpa [Dynamic.isStr] using nonempty
    rw [extractScopes_set held nonempty, if_pos truthy, held]
    exact frozenset_str _

theorem dynamic_realmRoles (claims : JsonObject) :
    Dynamic.extractRealmRoles (.dict claims) = .ok ((extractRealmRoles claims).image HashKey.str) := by
  show (if !Dynamic.isDict (claims.get "realm_access") then pure ∅
    else Dynamic.get (claims.get "realm_access") "roles" >>= fun roles =>
      if !Dynamic.isList roles then pure ∅
      else Dynamic.iterate roles >>= fun items => Dynamic.frozenset (items.filter Dynamic.isStr)) = _
  unfold extractRealmRoles
  cases claims.get "realm_access" with
  | dict access =>
    show (if !Dynamic.isList (JsonObject.get access "roles") then pure ∅
      else Dynamic.iterate (JsonObject.get access "roles") >>= fun items =>
        Dynamic.frozenset (items.filter Dynamic.isStr)) = .ok (((rolesOf access).getD ∅).image HashKey.str)
    unfold rolesOf
    cases JsonObject.get access "roles" with
    | list items => exact frozenset_filter items
    | _ => rfl
  | _ => rfl

/-- One turn of the loop over the clients. -/
def addClient (out : List (String × Finset HashKey)) (entry : String × Json) :
    Except PyExc (List (String × Finset HashKey)) :=
  if !Dynamic.isDict entry.2 then return out
  else do
    let roles ← Dynamic.get entry.2 "roles"
    if Dynamic.isList roles then
      return out ++ [(entry.1, ← Dynamic.frozenset ((← Dynamic.iterate roles).filter Dynamic.isStr))]
    else return out

theorem addClient_eq (out : List (String × Finset HashKey)) (entry : String × Json) :
    addClient out entry = .ok (out ++
      ((clientRolesOf entry.2).map fun roles => (entry.1, roles.image HashKey.str)).toList) := by
  obtain ⟨client, body⟩ := entry
  cases body with
  | dict body =>
    show (if Dynamic.isList (JsonObject.get body "roles") then do
        return out ++ [(client, ← Dynamic.frozenset
          ((← Dynamic.iterate (JsonObject.get body "roles")).filter Dynamic.isStr))]
      else return out) =
        .ok (out ++ ((rolesOf body).map fun roles => (client, roles.image HashKey.str)).toList)
    unfold rolesOf
    cases JsonObject.get body "roles" with
    | list items =>
      show (do return out ++ [(client, ← Dynamic.frozenset (items.filter Dynamic.isStr))]) = _
      rw [frozenset_filter]
      rfl
    | _ => exact congrArg Except.ok (List.append_nil out).symm
  | _ => exact congrArg Except.ok (List.append_nil out).symm

theorem dynamic_clientRoles (claims : JsonObject) : Dynamic.extractClientRoles (.dict claims) =
    .ok ((extractClientRoles claims).map fun entry => (entry.1, entry.2.image HashKey.str)) := by
  have loop : ∀ (access : JsonObject) (out : List (String × Finset HashKey)),
      access.foldlM addClient out = .ok (out ++ access.filterMap fun entry =>
        (clientRolesOf entry.2).map fun roles => (entry.1, roles.image HashKey.str)) := by
    intro access
    induction access with
    | nil => exact fun out => congrArg Except.ok (List.append_nil out).symm
    | cons entry rest ih =>
      intro out
      rw [List.foldlM_cons, addClient_eq, List.filterMap_cons]
      refine (ih _).trans (congrArg Except.ok ?_)
      cases clientRolesOf entry.2 <;> simp
  show (if !Dynamic.isDict (claims.get "resource_access") then pure []
    else Dynamic.items (claims.get "resource_access") >>= fun access => access.foldlM addClient []) = _
  unfold extractClientRoles
  cases claims.get "resource_access" with
  | dict access =>
    refine (loop access []).trans (congrArg Except.ok ?_)
    rw [List.nil_append, List.map_filterMap]
    refine List.filterMap_congr fun entry _ => ?_
    obtain ⟨client, body⟩ := entry
    cases body with
    | dict body =>
      show (rolesOf body).map _ = ((rolesOf body).map _).map _
      rw [Option.map_map]
      rfl
    | _ => rfl
  | _ => rfl

/-! ### The gates -/

/-- Each gate compares the required names with a set of names that the claims grant in its place. -/
theorem gate_of_place (distinct : DistinctClients claims) (built : buildPrincipal claims = .ok principal)
    (place : Place) : ∃ asked granted, (∀ name, name ∈ granted ↔ Grants claims place name) ∧
      ∀ required, place.gate required principal = gate asked required granted principal := by
  have claimed := buildPrincipal_ok built
  cases place with
  | scopes =>
    refine ⟨"scope", principal.scopes, fun name => ?_, fun required => rfl⟩
    rw [claimed.scopes]
    exact mem_extractScopes
  | realmRoles =>
    refine ⟨"realm role", principal.realmRoles, fun name => ?_, fun required => rfl⟩
    rw [claimed.realmRoles]
    exact mem_extractRealmRoles
  | clientRoles clientId =>
    refine ⟨"client role", (principal.clientRoles.lookup clientId).getD ∅, fun name => ?_, fun required => rfl⟩
    rw [claimed.clientRoles]
    exact mem_extractClientRoles distinct clientId

/-- The extraction raises nothing, and a gate admits exactly the principals whose claims grant every
required name in its place. -/
theorem gates_exact (distinct : DistinctClients claims) : Extracted claims ∧
    ∀ principal, buildPrincipal claims = .ok principal → ∀ place required,
      (place.gate required principal = .ok principal ↔ ∀ name ∈ required, Grants claims place name) ∧
      ∀ name ∈ required, ¬ Grants claims place name →
        ∃ description, place.gate required principal = .error (.insufficientPermissions description) := by
  refine ⟨⟨dynamic_scopes claims, dynamic_realmRoles claims, dynamic_clientRoles claims⟩, ?_⟩
  intro principal built place required
  obtain ⟨asked, granted, same, gated⟩ := gate_of_place distinct built place
  rw [gated]
  refine ⟨?_, fun name member ungranted => gate_refused member (mt (same name).mp ungranted)⟩
  rw [gate_ok]
  exact forall₂_congr fun name _ => same name

/-! ### One role, in two places -/

def editorClaims : JsonObject := [
  ("sub", .str "alice"), ("iss", .str "https://id"), ("preferred_username", .str "alice"),
  ("email", .str "alice@id"), ("scope", .str "openid profile"),
  ("realm_access", .dict [("roles", .list [.str "orgs:read", .int 1])]),
  ("resource_access", .dict [("account", .str "orgs:write"),
    ("pet-backend", .dict [("roles", .list [.str "orgs:write"])])])]

theorem editorClaims_distinct : DistinctClients editorClaims := by
  intro access held
  cases held
  simp

theorem gates_exact_sample : ∃ principal, buildPrincipal editorClaims = .ok principal ∧
    requiredClientRoles "pet-backend" ["orgs:write"] principal = .ok principal ∧
    ∃ description, requiredRealmRoles ["orgs:write"] principal =
      .error (.insufficientPermissions description) := by
  refine ⟨_, rfl, ?_, ?_⟩
  · refine ((gates_exact editorClaims_distinct).2 _ rfl (.clientRoles "pet-backend") ["orgs:write"]).1.mpr ?_
    intro name member
    cases List.mem_singleton.mp member
    exact .clientRole rfl rfl rfl (List.mem_singleton.mpr rfl)
  · refine ((gates_exact editorClaims_distinct).2 _ rfl .realmRoles ["orgs:write"]).2 "orgs:write"
      (List.mem_singleton.mpr rfl) ?_
    intro grants
    cases grants with
    | realmRole held listed element =>
      cases held
      cases listed
      simp at element

end PetBackend.Auth
