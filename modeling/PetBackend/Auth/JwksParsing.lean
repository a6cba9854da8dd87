import PetBackend.Auth.Jwks
import PetBackend.Library.Entries
import PetBackend.Library.Outcome
import Mathlib.Data.List.Induction

/-!
# What the parsing loop makes of a key set

`_parse_jwks` raises a `TypeError` on the first key it cannot hash its way through. On the others
the map is the list of loaded keys, unless a kid is loaded twice or nothing is.
-/

namespace PetBackend.Auth
open Outcome

variable {K : Type} {p : JWKSProvider}

theorem memberOf_cases (value : Json) (names : List String) :
    (value.hashKey? = none ∧ memberOf value names = .error .typeError) ∨
      ∃ key, value.hashKey? = some key ∧
        memberOf value names = .ok (names.any (fun name => key == .str name)) := by
  cases hashed : value.hashKey? with
  | none => exact Or.inl ⟨rfl, by simp [memberOf, hashed]⟩
  | some key => exact Or.inr ⟨key, rfl, by simp [memberOf, hashed]⟩

theorem hashKey_str_iff {value : Json} {name : String} :
    value.hashKey? = some (.str name) ↔ value = .str name := by
  cases value with
  | float value => cases value <;> simp [Json.hashKey?]
  | _ => simp [Json.hashKey?]

theorem memberOf_true {value : Json} {names : List String} :
    memberOf value names = .ok true ↔ ∃ name ∈ names, value = .str name := by
  rcases memberOf_cases value names with ⟨unhashable, raised⟩ | ⟨key, hashed, read⟩
  · rw [raised]
    constructor
    · intro impossible
      cases impossible
    · rintro ⟨name, _, rfl⟩
      cases unhashable
  · rw [read]
    simp only [Except.ok.injEq, List.any_eq_true, beq_iff_eq]
    constructor
    · rintro ⟨name, member, rfl⟩
      exact ⟨name, member, hashKey_str_iff.mp hashed⟩
    · rintro ⟨name, member, rfl⟩
      exact ⟨name, member, (Option.some.inj hashed).symm⟩

/-- The value passes an allow-list, or there is none. -/
def Admits (names : List String) (value : Json) : Prop :=
  names = [] ∨ ∃ name ∈ names, value = .str name

def Breaks (names : List String) (value : Json) : Prop :=
  names ≠ [] ∧ value.hashKey? = none

theorem excluded_false {value : Json} {names : List String} :
    excluded value names = .ok false ↔ Admits names value := by
  unfold excluded Admits
  rw [← memberOf_true]
  cases names with
  | nil => simp
  | cons name rest =>
    cases read : memberOf value (name :: rest) <;> simp [Except.map]

theorem excluded_error {value : Json} {names : List String} {raised : PyExc} :
    excluded value names = .error raised ↔ Breaks names value ∧ raised = .typeError := by
  unfold excluded Breaks
  cases names with
  | nil => simp
  | cons name rest =>
    rcases memberOf_cases value (name :: rest) with ⟨unhashable, read⟩ | ⟨key, hashed, read⟩
    · simp [read, unhashable, Except.map, eq_comm]
    · simp [read, hashed, Except.map]

theorem isNone_iff {value : Json} : value.isNone = true ↔ value = .null := by
  cases value <;> simp [Json.isNone]

theorem excluded_cases (value : Json) (names : List String) :
    (excluded value names = .error .typeError ∧ Breaks names value ∧ ¬ Admits names value) ∨
      (excluded value names = .ok true ∧ ¬ Breaks names value ∧ ¬ Admits names value) ∨
      (excluded value names = .ok false ∧ ¬ Breaks names value ∧ Admits names value) := by
  rw [← excluded_false]
  have broken : ∀ raised, excluded value names = .error raised ↔
      Breaks names value ∧ raised = .typeError := fun _ => excluded_error
  cases read : excluded value names with
  | error raised =>
    obtain ⟨breaks, rfl⟩ := (broken raised).mp read
    exact Or.inl ⟨rfl, breaks, by simp⟩
  | ok refused =>
    have intact : ¬ Breaks names value := fun breaks => by simpa [read] using (broken _).mpr ⟨breaks, rfl⟩
    cases refused with
    | true => exact Or.inr (Or.inl ⟨rfl, intact, by simp⟩)
    | false => exact Or.inr (Or.inr ⟨rfl, intact, rfl⟩)

structure Usable (p : JWKSProvider) (key : PyJWK K) : Prop where
  keyType : Admits p.allowedKeyTypes key.keyType
  publicKeyUse : key.publicKeyUse = .null ∨ Admits p.allowedPublicKeyUses key.publicKeyUse
  algorithm : p.allowedAlgorithms = [] ∨
    ∃ name, key.algorithmName = some name ∧ Admits p.allowedAlgorithms name

def Unusable (p : JWKSProvider) (key : PyJWK K) : Prop :=
  Breaks p.allowedKeyTypes key.keyType ∨
    Admits p.allowedKeyTypes key.keyType ∧
      (key.publicKeyUse ≠ .null ∧ Breaks p.allowedPublicKeyUses key.publicKeyUse ∨
        (key.publicKeyUse = .null ∨ Admits p.allowedPublicKeyUses key.publicKeyUse) ∧
          ∃ name, key.algorithmName = some name ∧ Breaks p.allowedAlgorithms name)

theorem algorithm_spec (key : PyJWK K) (check : Except PyExc Bool)
    (same : check = if p.allowedAlgorithms.isEmpty then .ok true else
      match key.algorithmName with
      | none => .ok false
      | some name => do return !(← excluded name p.allowedAlgorithms)) :
    (check = .ok true ↔ p.allowedAlgorithms = [] ∨
        ∃ name, key.algorithmName = some name ∧ Admits p.allowedAlgorithms name) ∧
      ∀ raised, check = .error raised ↔
        (∃ name, key.algorithmName = some name ∧ Breaks p.allowedAlgorithms name) ∧
          raised = .typeError := by
  subst same
  by_cases empty : p.allowedAlgorithms = []
  · simp [empty, Breaks]
  · cases named : key.algorithmName with
    | none => simp [empty]
    | some name =>
      rcases excluded_cases name p.allowedAlgorithms with
        ⟨read, breaks, admits⟩ | ⟨read, breaks, admits⟩ | ⟨read, breaks, admits⟩ <;>
      simp [empty, read, breaks, admits, bind, Except.bind, pure, Except.pure, @eq_comm _ PyExc.typeError]

theorem usable_spec (key : PyJWK K) :
    (isUsableSigningKey p key = .ok true ↔ Usable p key) ∧
      ∀ raised, isUsableSigningKey p key = .error raised ↔ Unusable p key ∧ raised = .typeError := by
  have fields : Usable p key ↔ _ := ⟨fun h => And.intro h.1 (And.intro h.2 h.3), fun h => ⟨h.1, h.2.1, h.2.2⟩⟩
  rw [fields]
  obtain ⟨accepts, raises⟩ := algorithm_spec (p := p) key _ rfl
  unfold isUsableSigningKey Unusable
  rcases excluded_cases key.keyType p.allowedKeyTypes with
      ⟨kty, breaks, admits⟩ | ⟨kty, breaks, admits⟩ | ⟨kty, breaks, admits⟩
  · simp [kty, breaks, admits, bind, Except.bind, eq_comm]
  · simp [kty, breaks, admits, bind, Except.bind, pure, Except.pure]
  · by_cases null : key.publicKeyUse = .null
    · simp [kty, breaks, admits, null, bind, Except.bind, pure, Except.pure, Json.isNone] at accepts raises ⊢
      exact ⟨accepts, raises⟩
    · have present : key.publicKeyUse.isNone = false := by simpa [← isNone_iff] using null
      rcases excluded_cases key.publicKeyUse p.allowedPublicKeyUses with
        ⟨use, breaks', admits'⟩ | ⟨use, breaks', admits'⟩ | ⟨use, breaks', admits'⟩
      · simp [kty, use, breaks, admits, breaks', admits', null, present, bind, Except.bind, eq_comm]
      · simp [kty, use, breaks, admits, breaks', admits', null, present, bind, Except.bind, pure, Except.pure]
      · simp [kty, use, breaks, admits, breaks', admits', null, present, bind, Except.bind, pure, Except.pure] at accepts raises ⊢
        exact ⟨accepts, raises⟩

def Faulty (p : JWKSProvider) (key : PyJWK K) : Prop :=
  key.keyId.truthy = true ∧ (Unusable p key ∨ Usable p key ∧ key.keyId.hashKey? = none)

def loadedKid (p : JWKSProvider) (key : PyJWK K) : Option HashKey :=
  match key.keyId.truthy, isUsableSigningKey p key with
  | true, .ok true => key.keyId.hashKey?
  | _, _ => none

/-- What the loop enters, in order and with repetitions. -/
def loaded (p : JWKSProvider) (keys : List (PyJWK K)) : KeyMap K :=
  keys.filterMap (fun key => (loadedKid p key).map (·, key))

theorem loadedKid_some {key : PyJWK K} {kid : HashKey} : loadedKid p key = some kid ↔
    key.keyId.truthy = true ∧ Usable p key ∧ key.keyId.hashKey? = some kid := by
  rw [← (usable_spec key).1]
  unfold loadedKid
  split
  · simp_all
  · constructor
    · intro impossible
      cases impossible
    · rintro ⟨truthy, usable, _⟩
      simp_all

def Parsed.load (acc : Parsed K) (entry : HashKey × PyJWK K) : Parsed K :=
  if (acc.keysByKid.lookup entry.1).isSome then
    { acc with duplicateKids := acc.duplicateKids.insert entry.1 }
  else { acc with keysByKid := acc.keysByKid ++ [entry] }

theorem parseKey_faulty {key : PyJWK K} (faulty : Faulty p key) (acc : Parsed K) :
    parseKey p acc key = .error .typeError := by
  obtain ⟨truthy, unusable | ⟨usable, unhashable⟩⟩ := faulty
  · have raised := ((usable_spec key).2 .typeError).mpr ⟨unusable, rfl⟩
    simp [parseKey, truthy, raised, bind, Except.bind]
  · have accepted := (usable_spec key).1.mpr usable
    simp [parseKey, truthy, accepted, unhashable, bind, Except.bind, throw, throwThe,
      MonadExceptOf.throw]

theorem parseKey_intact {key : PyJWK K} (intact : ¬ Faulty p key) (acc : Parsed K) :
    parseKey p acc key =
      .ok (match (loadedKid p key).map (·, key) with | none => acc | some entry => acc.load entry) := by
  cases truthy : key.keyId.truthy with
  | false => simp [parseKey, loadedKid, truthy, pure, Except.pure]
  | true =>
    cases usable : isUsableSigningKey p key with
    | error raised =>
      have unusable := (((usable_spec key).2 raised).mp usable).1
      exact (intact ⟨truthy, Or.inl unusable⟩).elim
    | ok accepted =>
      cases accepted with
      | false => simp [parseKey, loadedKid, truthy, usable, bind, Except.bind, pure, Except.pure]
      | true =>
        cases hashed : key.keyId.hashKey? with
        | none => exact (intact ⟨truthy, Or.inr ⟨(usable_spec key).1.mp usable, hashed⟩⟩).elim
        | some kid =>
          simp [parseKey, loadedKid, truthy, usable, hashed, Parsed.load, bind, Except.bind, pure,
            Except.pure]
          split <;> rfl

theorem parseKey_only {acc : Parsed K} {key : PyJWK K} {raised : PyExc}
    (h : parseKey p acc key = .error raised) : raised = .typeError := by
  by_cases faulty : Faulty p key
  · rw [parseKey_faulty faulty] at h
    cases h
    rfl
  · rw [parseKey_intact faulty] at h
    cases h

theorem foldlM_intact {keys : List (PyJWK K)} (intact : ∀ key ∈ keys, ¬ Faulty p key) :
    keys.foldlM (parseKey p) {} = .ok ((loaded p keys).foldl Parsed.load {}) := by
  rw [foldlM_ok (fun acc key member => parseKey_intact (intact key member) acc), loaded,
    List.foldl_filterMap]
  congr 2
  funext acc key
  cases (loadedKid p key).map (·, key) <;> rfl

theorem lookup_append_single (entries : KeyMap K) (entry : HashKey × PyJWK K) (kid : HashKey) :
    (entries ++ [entry]).lookup kid =
      (entries.lookup kid).or (if kid = entry.1 then some entry.2 else none) := by
  rw [List.lookup_append]
  congr 1
  rcases entry with ⟨first, value⟩
  by_cases same : kid = first
  · simp [same]
  · simp [List.lookup_cons, beq_false_of_ne same, same]

theorem loads_spec (entries : KeyMap K) :
    let result := entries.foldl Parsed.load {}
    (∀ kid, (result.keysByKid.lookup kid).isSome ↔ kid ∈ entries.map Prod.fst) ∧
      (∀ kid, kid ∈ result.duplicateKids ↔ 2 ≤ (entries.map Prod.fst).count kid) ∧
      result.duplicateKids.Nodup ∧
      ((entries.map Prod.fst).Nodup → result.keysByKid = entries) := by
  induction entries using List.reverseRecOn with
  | nil => simp
  | append_singleton entries entry ih =>
    obtain ⟨keys, repeated, nodup, distinct⟩ := ih
    simp only [List.foldl_append, List.foldl_cons, List.foldl_nil, List.map_append, List.map_cons,
      List.map_nil, List.count_append, List.mem_append, List.mem_singleton]
    by_cases known : entry.1 ∈ entries.map Prod.fst
    · have found := (keys entry.1).mpr known
      have once : 1 ≤ (entries.map Prod.fst).count entry.1 := List.count_pos_iff.mpr known
      simp only [Parsed.load, found, if_true]
      refine ⟨?_, ?_, nodup.insert, ?_⟩
      · intro kid
        rw [keys]
        constructor
        · exact Or.inl
        · rintro (member | rfl)
          · exact member
          · exact known
      · intro kid
        rw [List.mem_insert_iff, repeated]
        by_cases same : kid = entry.1
        · subst same
          simp only [List.count_singleton_self, true_or, true_iff]
          omega
        · have other : [entry.1].count kid = 0 := by simp [Ne.symm same]
          simp [same, other]
      · intro all
        simp only [List.nodup_append] at all
        exact (all.2.2 _ known _ (by simp) rfl).elim
    · have absent : ((entries.foldl Parsed.load {}).keysByKid.lookup entry.1).isSome = false := by
        rw [← Bool.not_eq_true, keys]
        exact known
      have never : (entries.map Prod.fst).count entry.1 = 0 := List.count_eq_zero.mpr known
      simp only [Parsed.load, absent, Bool.false_eq_true, if_false]
      refine ⟨?_, ?_, nodup, ?_⟩
      · intro kid
        rw [lookup_append_single, ← keys]
        by_cases same : kid = entry.1 <;> simp [same]
      · intro kid
        rw [repeated]
        by_cases same : kid = entry.1
        · subst same
          simp [never]
        · have other : [entry.1].count kid = 0 := by simp [Ne.symm same]
          simp [other]
      · intro all
        rw [distinct (List.nodup_append.mp all).1]

theorem comparable_self {a b : HashKey} (h : HashKey.comparable a b = true) :
    HashKey.comparable a a = true := by
  cases a <;> cases b <;> first | rfl | cases h

theorem sortable_iff {kids : List HashKey} (nodup : kids.Nodup) : HashKey.sortable kids = true ↔
    ∀ a ∈ kids, ∀ b ∈ kids, a ≠ b → HashKey.comparable a b = true := by
  simp only [HashKey.sortable, Bool.or_eq_true, decide_eq_true_eq, List.all_eq_true]
  constructor
  · rintro (short | all) a first b second different
    · match kids, short with
      | [only], _ =>
        rw [List.mem_singleton.mp first, List.mem_singleton.mp second] at different
        exact (different rfl).elim
    · exact all a first b second
  · intro all
    by_cases short : kids.length ≤ 1
    · exact Or.inl short
    · refine Or.inr fun a first b second => ?_
      by_cases same : a = b
      · subst same
        obtain ⟨other, member, different⟩ : ∃ other ∈ kids, other ≠ a := by
          by_contra none
          have only : ∀ other ∈ kids, other = a := by simpa using none
          rcases kids with _ | ⟨x, _ | ⟨y, rest⟩⟩
          · simp at short
          · simp at short
          · have equal := (only x (by simp)).trans (only y (by simp)).symm
            simp [equal] at nodup
        exact comparable_self (all a first other member (Ne.symm different))
      · exact all a first b second same

/-- The loop gets through the keys, and so does the sorting of the repeated kids. -/
structure Orderly (p : JWKSProvider) (keys : List (PyJWK K)) : Prop where
  intact : ∀ key ∈ keys, ¬ Faulty p key
  comparable : ∀ a b, 2 ≤ ((loaded p keys).map Prod.fst).count a →
    2 ≤ ((loaded p keys).map Prod.fst).count b → a ≠ b → HashKey.comparable a b = true

theorem loads_repeated {entries : KeyMap K} (repeats : ¬ (entries.map Prod.fst).Nodup) :
    (entries.foldl Parsed.load {}).duplicateKids ≠ [] := by
  obtain ⟨_, repeated, _, _⟩ := loads_spec entries
  obtain ⟨kid, twice⟩ : ∃ kid, 2 ≤ (entries.map Prod.fst).count kid := by
    simpa [List.nodup_iff_count_le_one, Nat.lt_iff_add_one_le] using repeats
  exact List.ne_nil_of_mem ((repeated kid).mpr twice)

theorem orderly_sortable {keys : List (PyJWK K)} (intact : ∀ key ∈ keys, ¬ Faulty p key) : Orderly p keys ↔
    HashKey.sortable ((loaded p keys).foldl Parsed.load {}).duplicateKids = true := by
  obtain ⟨_, repeated, nodup, _⟩ := loads_spec (loaded p keys)
  rw [sortable_iff nodup]
  simp only [repeated]
  exact ⟨fun h a first b second => h.comparable a b first second,
    fun h => ⟨intact, fun a b first second => h a first b second⟩⟩

theorem parseKeys_faulty {keys : List (PyJWK K)} {key : PyJWK K} (member : key ∈ keys)
    (faulty : Faulty p key) : parseKeys p keys = .error .typeError := by
  rw [parseKeys, foldlM_error member (parseKey_faulty faulty) (fun _ _ _ => parseKey_only)]
  rfl

theorem parseKeys_intact {keys : List (PyJWK K)} (intact : ∀ key ∈ keys, ¬ Faulty p key) :
    parseKeys p keys = parseResult ((loaded p keys).foldl Parsed.load {}) := by
  rw [parseKeys, foldlM_intact intact]
  rfl

theorem parseKeys_ok {keys : List (PyJWK K)} {entries : KeyMap K} :
    parseKeys p keys = .ok entries ↔ (∀ key ∈ keys, ¬ Faulty p key) ∧
      ((loaded p keys).map Prod.fst).Nodup ∧ loaded p keys ≠ [] ∧ entries = loaded p keys := by
  by_cases intact : ∀ key ∈ keys, ¬ Faulty p key
  · rw [parseKeys_intact intact]
    obtain ⟨_, repeated, _, distinct⟩ := loads_spec (loaded p keys)
    by_cases nodup : ((loaded p keys).map Prod.fst).Nodup
    · have none : ((loaded p keys).foldl Parsed.load {}).duplicateKids = [] := by
        rw [List.eq_nil_iff_forall_not_mem]
        intro kid member
        have twice := (repeated kid).mp member
        have once := List.nodup_iff_count_le_one.mp nodup kid
        omega
      by_cases empty : loaded p keys = []
      · simp [parseResult, empty]
      · rw [parseResult, none, distinct nodup]
        simp only [List.isEmpty_nil, Bool.not_true, Bool.false_eq_true, if_false, List.isEmpty_iff,
          empty, Except.ok.injEq]
        exact ⟨fun same => ⟨intact, nodup, empty, same.symm⟩, fun all => all.2.2.2.symm⟩
    · have some := loads_repeated nodup
      simp [parseResult, some, nodup]
      split <;> simp
  · obtain ⟨key, member, faulty⟩ : ∃ key ∈ keys, Faulty p key := by simpa using intact
    rw [parseKeys_faulty member faulty]
    simp only [reduceCtorEq, false_iff]
    rintro ⟨intact, _⟩
    exact intact key member faulty

theorem parseKeys_error {keys : List (PyJWK K)} {raised : PyExc}
    (h : parseKeys p keys = .error raised) :
    (raised = .typeError ∧ ¬ Orderly p keys) ∨
      ((∃ message, raised = .jwksProviderUnavailable message) ∧ Orderly p keys) := by
  by_cases intact : ∀ key ∈ keys, ¬ Faulty p key
  · rw [parseKeys_intact intact] at h
    rw [orderly_sortable intact]
    unfold parseResult at h
    split at h
    · split at h <;> cases h
      · exact Or.inr ⟨⟨_, rfl⟩, ‹_›⟩
      · exact Or.inl ⟨rfl, ‹_›⟩
    · rename_i none
      split at h <;> cases h
      refine Or.inr ⟨⟨_, rfl⟩, ?_⟩
      have empty : ((loaded p keys).foldl Parsed.load {}).duplicateKids = [] := by simpa using none
      rw [empty]
      rfl
  · obtain ⟨key, member, faulty⟩ : ∃ key ∈ keys, Faulty p key := by simpa using intact
    rw [parseKeys_faulty member faulty] at h
    cases h
    exact Or.inl ⟨rfl, fun orderly => orderly.intact key member faulty⟩

theorem loaded_mem {keys : List (PyJWK K)} {kid : HashKey} {key : PyJWK K} :
    (kid, key) ∈ loaded p keys ↔ key ∈ keys ∧ loadedKid p key = some kid := by
  unfold loaded
  rw [List.mem_filterMap]
  constructor
  · rintro ⟨other, member, read⟩
    obtain ⟨found, loads, pair⟩ := Option.map_eq_some_iff.mp read
    cases pair
    exact ⟨member, loads⟩
  · rintro ⟨member, loads⟩
    exact ⟨key, member, by simp [loads]⟩

/-- An accepted payload comes from a key set, all of whose entries are usable under their kid. -/
theorem parseJwks_ok {fromDict : JsonObject → Except PyExc (List (PyJWK K))} {payload : Json}
    {entries : KeyMap K} (h : parseJwks p fromDict payload = .ok entries) :
    ∃ members keys, payload = .dict members ∧ fromDict members = .ok keys ∧
      parseKeys p keys = .ok entries := by
  unfold parseJwks at h
  split at h
  · split at h
    · exact ⟨_, _, rfl, ‹_›, h⟩
    · split at h <;> cases h
  · cases h

theorem parseKeys_usable {keys : List (PyJWK K)} {entries : KeyMap K} {kid : String} {key : PyJWK K}
    (h : parseKeys p keys = .ok entries) (found : entries.lookup (.str kid) = some key) :
    key ∈ keys ∧ Usable p key ∧ key.keyId = .str kid := by
  obtain ⟨_, _, _, rfl⟩ := parseKeys_ok.mp h
  obtain ⟨member, loads⟩ := loaded_mem.mp (Library.mem_of_lookup found)
  obtain ⟨_, usable, hashed⟩ := loadedKid_some.mp loads
  exact ⟨member, usable, hashKey_str_iff.mp hashed⟩

end PetBackend.Auth
