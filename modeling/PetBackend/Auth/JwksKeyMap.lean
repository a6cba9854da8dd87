import PetBackend.Auth.JwksCache
import PetBackend.Auth.JwksParsing

/-!
# The key map is the set of usable signing keys

Neither the order of a key set nor its unusable keys make a difference to what is parsed.
-/

namespace PetBackend.Auth
open Library

variable {K : Type}

def TextKids (keys : List (PyJWK K)) : Prop := ∀ key ∈ keys, key.keyId = .null ∨ ∃ kid, key.keyId = .str kid

/-- A usable key with the kid, which is not empty. -/
def Signs (p : JWKSProvider) (kid : String) (key : PyJWK K) : Prop :=
  kid ≠ "" ∧ key.keyId = .str kid ∧ isUsableSigningKey p key = .ok true

/-- Some key signs, and no two keys of the list sign under one kid. -/
structure Accepted (p : JWKSProvider) (keys : List (PyJWK K)) : Prop where
  some : ∃ key ∈ keys, ∃ kid, Signs p kid key
  distinct : keys.Pairwise fun a b => ∀ kid, Signs p kid a → ¬ Signs p kid b

/-- The outcome is the map from kids to their keys, or the provider's own error. -/
structure Exact (p : JWKSProvider) (keys : List (PyJWK K)) (outcome : Except PyExc (KeyMap K)) : Prop where
  succeeds : (∃ entries, outcome = .ok entries) ↔ Accepted p keys
  maps : ∀ entries, outcome = .ok entries → (entries.map Prod.fst).Nodup ∧
    ∀ k key, (k, key) ∈ entries ↔ ∃ kid, k = .str kid ∧ key ∈ keys ∧ Signs p kid key
  fails : ¬ Accepted p keys → ∃ message, outcome = .error (.jwksProviderUnavailable message)

/-- The allow-lists can be applied to the keys with a kid: no value that they hash is a list or an
object. -/
def Legible (p : JWKSProvider) (keys : List (PyJWK K)) : Prop :=
  ∀ key ∈ keys, key.keyId.truthy = true → ¬ Unusable p key

/-- One list becomes the other by reordering, and by adding or removing keys that do not sign. -/
inductive SameKeys (p : JWKSProvider) : List (PyJWK K) → List (PyJWK K) → Prop where
  | perm {keys keys' : List (PyJWK K)} (reordered : keys.Perm keys') : SameKeys p keys keys'
  | add {before after : List (PyJWK K)} {key : PyJWK K}
      (idle : isUsableSigningKey p key ≠ .ok true ∨ key.keyId.truthy = false) :
      SameKeys p (before ++ after) (before ++ key :: after)
  | symm {keys keys' : List (PyJWK K)} (same : SameKeys p keys keys') : SameKeys p keys' keys
  | trans {keys keys' keys'' : List (PyJWK K)} (first : SameKeys p keys keys')
      (second : SameKeys p keys' keys'') : SameKeys p keys keys''

/-- Equal maps, or one error. -/
def SameOutcome : Except PyExc (KeyMap K) → Except PyExc (KeyMap K) → Prop
  | .ok entries, .ok entries' => ∀ kid, entries.lookup kid = entries'.lookup kid
  | .error raised, .error raised' => raised = raised'
  | _, _ => False

variable {p : JWKSProvider} {keys keys' : List (PyJWK K)} {key : PyJWK K}

theorem SameKeys.prepend (keys : List (PyJWK K))
    (idle : isUsableSigningKey p key ≠ .ok true ∨ key.keyId.truthy = false) :
    SameKeys p keys (key :: keys) := by
  rw [← List.nil_append keys, ← List.nil_append (key :: ([] ++ keys))]
  exact SameKeys.add idle

theorem SameKeys.append (keys : List (PyJWK K))
    (idle : isUsableSigningKey p key ≠ .ok true ∨ key.keyId.truthy = false) :
    SameKeys p keys (keys ++ [key]) := by
  have added : SameKeys p (keys ++ []) (keys ++ [key]) := SameKeys.add idle
  rw [List.append_nil] at added
  exact added

theorem faulty_iff (kids : TextKids keys) (member : key ∈ keys) :
    Faulty p key ↔ key.keyId.truthy = true ∧ Unusable p key := by
  have hashable : key.keyId.hashKey? ≠ none := by
    rcases kids key member with null | ⟨kid, held⟩
    · rw [null]
      exact nofun
    · rw [held]
      exact nofun
  unfold Faulty
  simp [hashable]

theorem legible_intact (kids : TextKids keys) : Legible p keys ↔ ∀ key ∈ keys, ¬ Faulty p key := by
  refine forall₂_congr fun key member => ?_
  rw [faulty_iff kids member, not_and]

theorem loadedKid_text (kids : TextKids keys) (member : key ∈ keys) {k : HashKey} :
    loadedKid p key = some k ↔ ∃ kid, k = .str kid ∧ Signs p kid key := by
  rw [loadedKid_some, ← (usable_spec key).1]
  constructor
  · rintro ⟨truthy, usable, hashed⟩
    rcases kids key member with null | ⟨kid, held⟩
    · rw [null] at truthy
      cases truthy
    · rw [held] at truthy hashed
      cases hashed
      exact ⟨kid, rfl, Json.truthy_str.mp truthy, held, usable⟩
  · rintro ⟨kid, rfl, nonempty, held, usable⟩
    rw [held]
    exact ⟨Json.truthy_str.mpr nonempty, usable, rfl⟩

theorem mem_loaded (kids : TextKids keys) {k : HashKey} :
    (k, key) ∈ loaded p keys ↔ ∃ kid, k = .str kid ∧ key ∈ keys ∧ Signs p kid key := by
  rw [loaded_mem]
  constructor
  · rintro ⟨member, loads⟩
    obtain ⟨kid, same, signs⟩ := (loadedKid_text kids member).mp loads
    exact ⟨kid, same, member, signs⟩
  · rintro ⟨kid, same, member, signs⟩
    exact ⟨member, (loadedKid_text kids member).mpr ⟨kid, same, signs⟩⟩

theorem loaded_kids (keys : List (PyJWK K)) :
    (loaded p keys).map Prod.fst = keys.filterMap (loadedKid p) := by
  unfold loaded
  rw [List.map_filterMap]
  refine List.filterMap_congr fun key _ => ?_
  rw [Option.map_map]
  exact congrFun Option.map_id _

theorem distinct_iff (kids : TextKids keys) : ((loaded p keys).map Prod.fst).Nodup ↔
    keys.Pairwise fun a b => ∀ kid, Signs p kid a → ¬ Signs p kid b := by
  rw [loaded_kids, List.Nodup, List.pairwise_filterMap]
  refine List.Pairwise.iff_of_mem ?_
  intro a b first second
  constructor
  · intro apart kid signs signs'
    exact apart _ ((loadedKid_text kids first).mpr ⟨kid, rfl, signs⟩) _
      ((loadedKid_text kids second).mpr ⟨kid, rfl, signs'⟩) rfl
  · intro apart k loads k' loads' same
    obtain ⟨kid, rfl, signs⟩ := (loadedKid_text kids first).mp loads
    obtain ⟨kid', rfl, signs'⟩ := (loadedKid_text kids second).mp loads'
    cases same
    exact apart kid signs signs'

theorem accepted_iff (kids : TextKids keys) :
    Accepted p keys ↔ ((loaded p keys).map Prod.fst).Nodup ∧ loaded p keys ≠ [] := by
  rw [distinct_iff kids]
  constructor
  · rintro ⟨⟨key, member, kid, signs⟩, distinct⟩
    exact ⟨distinct, List.ne_nil_of_mem ((mem_loaded kids).mpr ⟨kid, rfl, member, signs⟩)⟩
  · rintro ⟨distinct, nonempty⟩
    obtain ⟨⟨k, key⟩, held⟩ := List.exists_mem_of_ne_nil _ nonempty
    obtain ⟨kid, _, member, signs⟩ := (mem_loaded kids).mp held
    exact ⟨⟨key, member, kid, signs⟩, distinct⟩

theorem orderly_iff (kids : TextKids keys) : Orderly p keys ↔ Legible p keys := by
  rw [legible_intact kids]
  refine ⟨fun orderly => orderly.intact, fun intact => ⟨intact, ?_⟩⟩
  have text : ∀ k, 2 ≤ ((loaded p keys).map Prod.fst).count k → ∃ kid, k = .str kid := by
    intro k twice
    have member : k ∈ (loaded p keys).map Prod.fst := List.count_pos_iff.mp (Nat.lt_of_lt_of_le Nat.two_pos twice)
    obtain ⟨⟨_, key⟩, held, rfl⟩ := List.mem_map.mp member
    obtain ⟨kid, same, _⟩ := (mem_loaded kids).mp held
    exact ⟨kid, same⟩
  intro a b first second _
  obtain ⟨kid, rfl⟩ := text a first
  obtain ⟨kid', rfl⟩ := text b second
  rfl

/-! ### One key set -/

theorem parseKeys_exact (kids : TextKids keys) (legible : Legible p keys) : Exact p keys (parseKeys p keys) := by
  have succeeds : ∀ entries, parseKeys p keys = .ok entries ↔ Accepted p keys ∧ entries = loaded p keys := by
    intro entries
    rw [parseKeys_ok, accepted_iff kids]
    have intact := (legible_intact kids).mp legible
    tauto
  refine ⟨?_, ?_, ?_⟩
  · constructor
    · rintro ⟨entries, parsed⟩
      exact ((succeeds entries).mp parsed).1
    · intro accepted
      exact ⟨_, (succeeds _).mpr ⟨accepted, rfl⟩⟩
  · intro entries parsed
    obtain ⟨accepted, rfl⟩ := (succeeds entries).mp parsed
    exact ⟨((accepted_iff kids).mp accepted).1, fun k key => mem_loaded kids⟩
  · intro refused
    cases outcome : parseKeys p keys with
    | ok entries => exact (refused ((succeeds entries).mp outcome).1).elim
    | error raised =>
      rcases parseKeys_error outcome with ⟨_, disorderly⟩ | ⟨⟨message, rfl⟩, _⟩
      · exact (disorderly ((orderly_iff kids).mpr legible)).elim
      · exact ⟨message, rfl⟩

theorem parseKeys_illegible (kids : TextKids keys) (illegible : ¬ Legible p keys) :
    parseKeys p keys = .error .typeError := by
  rw [legible_intact kids] at illegible
  obtain ⟨key, member, faulty⟩ : ∃ key ∈ keys, Faulty p key := by simpa using illegible
  exact parseKeys_faulty member faulty

theorem not_exact_typeError (keys : List (PyJWK K)) : ¬ Exact p keys (.error .typeError) := by
  intro exactly
  have refused : ¬ Accepted p keys := by
    intro accepted
    obtain ⟨entries, impossible⟩ := exactly.succeeds.mpr accepted
    cases impossible
  obtain ⟨message, impossible⟩ := exactly.fails refused
  cases impossible

theorem exact_iff (kids : TextKids keys) : Exact p keys (parseKeys p keys) ↔ Legible p keys := by
  refine ⟨fun exactly => ?_, parseKeys_exact kids⟩
  by_contra illegible
  rw [parseKeys_illegible kids illegible] at exactly
  exact not_exact_typeError keys exactly

/-! ### Two key sets -/

theorem loadedKid_idle (idle : isUsableSigningKey p key ≠ .ok true ∨ key.keyId.truthy = false) :
    loadedKid p key = none := by
  refine Option.eq_none_iff_forall_ne_some.mpr fun k loads => ?_
  obtain ⟨truthy, usable, _⟩ := loadedKid_some.mp loads
  rcases idle with unusable | falsy
  · exact unusable ((usable_spec key).1.mpr usable)
  · rw [falsy] at truthy
    cases truthy

theorem SameKeys.loaded (same : SameKeys p keys keys') : (loaded p keys).Perm (loaded p keys') := by
  induction same with
  | perm reordered => exact reordered.filterMap _
  | @add before after key idle =>
    have skipped : Auth.loaded p (before ++ key :: after) = Auth.loaded p (before ++ after) := by
      unfold Auth.loaded
      rw [List.filterMap_append, List.filterMap_append, List.filterMap_cons, loadedKid_idle idle]
      rfl
    rw [skipped]
  | symm _ ih => exact ih.symm
  | trans _ _ first second => exact first.trans second

/-- What is left of the loop after legible keys. -/
theorem parseKeys_legible (kids : TextKids keys) (legible : Legible p keys) : parseKeys p keys =
    if ¬ ((loaded p keys).map Prod.fst).Nodup then
      .error (.jwksProviderUnavailable "JWKS contains duplicate kid values")
    else if loaded p keys = [] then .error (.jwksProviderUnavailable "JWKS contains no usable signing keys")
    else .ok (loaded p keys) := by
  have orderly := (orderly_iff kids).mpr legible
  by_cases distinct : ((loaded p keys).map Prod.fst).Nodup
  · rw [if_neg (not_not.mpr distinct)]
    by_cases empty : loaded p keys = []
    · rw [if_pos empty, parseKeys_intact orderly.intact, empty]
      rfl
    · rw [if_neg empty]
      exact parseKeys_ok.mpr ⟨orderly.intact, distinct, empty, rfl⟩
  · have sorted := (orderly_sortable orderly.intact).mp orderly
    rw [if_pos distinct, parseKeys_intact orderly.intact]
    simp [parseResult, loads_repeated distinct, sorted]

theorem same_legible (kids : TextKids keys) (kids' : TextKids keys') (same : SameKeys p keys keys')
    (legible : Legible p keys) (legible' : Legible p keys') :
    SameOutcome (parseKeys p keys) (parseKeys p keys') := by
  have perm := same.loaded
  rw [parseKeys_legible kids legible, parseKeys_legible kids' legible']
  have alike : ((loaded p keys').map Prod.fst).Nodup ↔ ((loaded p keys).map Prod.fst).Nodup :=
    (perm.map Prod.fst).nodup_iff.symm
  have alikeEmpty : loaded p keys' = [] ↔ loaded p keys = [] := by
    rw [← List.length_eq_zero_iff, ← List.length_eq_zero_iff, perm.length_eq]
  by_cases distinct : ((loaded p keys).map Prod.fst).Nodup
  · rw [if_neg (not_not.mpr distinct), if_neg (not_not.mpr (alike.mpr distinct))]
    by_cases empty : loaded p keys = []
    · rw [if_pos empty, if_pos (alikeEmpty.mpr empty)]
      rfl
    · rw [if_neg empty, if_neg (mt alikeEmpty.mp empty)]
      exact lookup_perm distinct perm
  · rw [if_pos distinct, if_pos (mt alike.mp distinct)]
    rfl

/-- A map or an error of the provider is not the `TypeError`. -/
theorem legible_differs (kids : TextKids keys) (legible : Legible p keys) :
    ¬ SameOutcome (parseKeys p keys) (.error .typeError) := by
  have exactly := parseKeys_exact kids legible
  intro same
  cases outcome : parseKeys p keys with
  | ok entries =>
    rw [outcome] at same
    exact same
  | error raised =>
    rw [outcome] at same exactly
    cases same
    exact not_exact_typeError keys exactly

theorem SameOutcome.symm {outcome outcome' : Except PyExc (KeyMap K)} (same : SameOutcome outcome outcome') :
    SameOutcome outcome' outcome := by
  cases outcome <;> cases outcome'
  · exact Eq.symm same
  · exact same.elim
  · exact same.elim
  · exact fun kid => (same kid).symm

theorem same_iff (kids : TextKids keys) (kids' : TextKids keys') (same : SameKeys p keys keys') :
    SameOutcome (parseKeys p keys) (parseKeys p keys') ↔ (Legible p keys ↔ Legible p keys') := by
  by_cases legible : Legible p keys <;> by_cases legible' : Legible p keys'
  · exact iff_of_true (same_legible kids kids' same legible legible') (iff_of_true legible legible')
  · rw [parseKeys_illegible kids' legible']
    exact iff_of_false (legible_differs kids legible) fun alike => legible' (alike.mp legible)
  · rw [parseKeys_illegible kids legible]
    exact iff_of_false (fun alike => legible_differs kids' legible' alike.symm)
      fun alike => legible (alike.mpr legible')
  · rw [parseKeys_illegible kids legible, parseKeys_illegible kids' legible']
    exact iff_of_true rfl (iff_of_false legible legible')

/-! ### The payload -/

section
variable {fromDict : JsonObject → Except PyExc (List (PyJWK K))} {members : JsonObject}

theorem parseJwks_parsed (parsed : fromDict members = .ok keys) :
    parseJwks p fromDict (.dict members) = parseKeys p keys := by
  simp only [parseJwks, parsed]

end

/-! ### Sample key sets -/

def usedMembers (kid use : Json) : JsonObject :=
  [("kid", kid), ("kty", .str "RSA"), ("use", use), ("alg", .str "RS256")]

def usedKey (kid use : Json) : PyJWK JsonObject :=
  ⟨kid, .str "RSA", use, some (.str "RS256"), usedMembers kid use⟩

/-- The members of a key set of such keys. -/
def usedJwks (keys : List (Json × Json)) : JsonObject :=
  [("keys", .list (keys.map fun key => .dict (usedMembers key.1 key.2)))]

def usedKeys (keys : List (Json × Json)) : List (PyJWK JsonObject) := keys.map fun key => usedKey key.1 key.2

theorem used_parsed (keys : List (Json × Json)) : sampleFromDict (usedJwks keys) = .ok (usedKeys keys) := by
  have items : (keys.map fun key => Json.dict (usedMembers key.1 key.2)).filterMap sampleJwk = usedKeys keys := by
    rw [List.filterMap_map]
    exact congrFun List.filterMap_eq_map' _
  show Except.ok _ = _
  rw [items]

/-- String kids and uses. -/
def sampleUses (keys : List (String × String)) : List (Json × Json) :=
  keys.map fun key => (.str key.1, .str key.2)

theorem sampleUses_mem {keys : List (String × String)} {key : PyJWK JsonObject}
    (member : key ∈ usedKeys (sampleUses keys)) : ∃ kid use, key = usedKey (.str kid) (.str use) := by
  obtain ⟨_, held, rfl⟩ := List.mem_map.mp member
  obtain ⟨⟨kid, use⟩, _, rfl⟩ := List.mem_map.mp held
  exact ⟨kid, use, rfl⟩

theorem sampleUses_text (keys : List (String × String)) : TextKids (usedKeys (sampleUses keys)) := by
  intro key member
  obtain ⟨kid, use, rfl⟩ := sampleUses_mem member
  exact Or.inr ⟨kid, rfl⟩

theorem sampleUses_legible (keys : List (String × String)) :
    Legible sampleProvider (usedKeys (sampleUses keys)) := by
  intro key member _ unusable
  obtain ⟨kid, use, rfl⟩ := sampleUses_mem member
  rcases unusable with ⟨_, kty⟩ | ⟨_, ⟨_, _, use⟩ | ⟨_, name, named, _, algorithm⟩⟩
  · cases kty
  · cases use
  · cases named
    cases algorithm

end PetBackend.Auth
