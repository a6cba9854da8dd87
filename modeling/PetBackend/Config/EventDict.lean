import Mathlib.Data.List.Basic

/-!
# Event dicts

The values a log call carries: nested dicts, lists and tuples over scalar leaves. A dict is the
list of its entries in insertion order.
-/

namespace PetBackend.Config

inductive Key where
  | str (name : String)
  /-- A key that is not a string, by its repr. -/
  | other (repr : String)
  deriving DecidableEq

inductive Value where
  | none
  | bool (value : Bool)
  | str (value : String)
  /-- Any other scalar or object, by its repr. -/
  | leaf (repr : String)
  | list (items : List Value)
  | tuple (items : List Value)
  | dict (entries : List (Key × Value))

abbrev EventDict := List (Key × Value)

/-- Every container holds smaller values. -/
theorem Value.induct {motive : Value → Prop} (none : motive .none) (bool : ∀ b, motive (.bool b))
    (str : ∀ s, motive (.str s)) (leaf : ∀ s, motive (.leaf s))
    (list : ∀ items, (∀ v ∈ items, motive v) → motive (.list items))
    (tuple : ∀ items, (∀ v ∈ items, motive v) → motive (.tuple items))
    (dict : ∀ entries, (∀ k v, (k, v) ∈ entries → motive v) → motive (.dict entries)) :
    ∀ value, motive value
  | .none => none
  | .bool b => bool b
  | .str s => str s
  | .leaf s => leaf s
  | .list items => list items fun v _ => Value.induct none bool str leaf list tuple dict v
  | .tuple items => tuple items fun v _ => Value.induct none bool str leaf list tuple dict v
  | .dict entries => dict entries fun k v member =>
    have inside := List.sizeOf_lt_of_mem member
    have smaller : sizeOf v < sizeOf (k, v) := by
      simp only [Prod.mk.sizeOf_spec]
      omega
    Value.induct none bool str leaf list tuple dict v

def Value.truthy : Value → Bool
  | .none => false
  | .bool value => value
  | .str value => value != ""
  | .leaf _ => true
  | .list items | .tuple items => !items.isEmpty
  | .dict entries => !entries.isEmpty

inductive HasEntry : Value → Key → Value → Prop where
  | here {entries key value} (member : (key, value) ∈ entries) : HasEntry (.dict entries) key value
  | inDict {entries key value key' value'} (member : (key, value) ∈ entries)
      (deeper : HasEntry value key' value') : HasEntry (.dict entries) key' value'
  | inList {items value key' value'} (member : value ∈ items) (deeper : HasEntry value key' value') :
      HasEntry (.list items) key' value'
  | inTuple {items value key' value'} (member : value ∈ items) (deeper : HasEntry value key' value') :
      HasEntry (.tuple items) key' value'

namespace EventDict

def get? (key : String) : EventDict → Option Value
  | [] => none
  | (k, v) :: rest => if k = .str key then some v else get? key rest

def setItem (key : String) (value : Value) : EventDict → EventDict
  | [] => [(.str key, value)]
  | (k, v) :: rest => if k = .str key then (k, value) :: rest else (k, v) :: setItem key value rest

def setdefault (entry : Key × Value) : EventDict → EventDict
  | [] => [entry]
  | (k, v) :: rest => if k = entry.1 then (k, v) :: rest else (k, v) :: setdefault entry rest

def setdefaults (fields d : EventDict) : EventDict := fields.foldl (fun d entry => setdefault entry d) d

/-- `event_dict.pop(key, None)`, what is left. -/
def del (key : String) : EventDict → EventDict
  | [] => []
  | (k, v) :: rest => if k = .str key then rest else (k, v) :: del key rest

section
variable {d : EventDict} {key other : String} {value : Value}

theorem get?_setItem (different : key ≠ other) (d : EventDict) :
    get? other (setItem key value d) = get? other d := by
  induction d with
  | nil => simp [setItem, get?, different]
  | cons entry rest ih =>
    obtain ⟨k, v⟩ := entry
    by_cases here : k = .str key
    · subst here
      simp [setItem, get?, different]
    · simp [setItem, get?, here, ih]

theorem get?_setItem_self (d : EventDict) : get? key (setItem key value d) = some value := by
  induction d with
  | nil => simp [setItem, get?]
  | cons entry rest ih =>
    obtain ⟨k, v⟩ := entry
    by_cases here : k = .str key
    · simp [setItem, get?, here]
    · simp [setItem, get?, here, ih]

theorem get?_del (different : key ≠ other) (d : EventDict) : get? other (del key d) = get? other d := by
  induction d with
  | nil => rfl
  | cons entry rest ih =>
    obtain ⟨k, v⟩ := entry
    by_cases here : k = .str key
    · subst here
      simp [del, get?, different]
    · simp [del, get?, here, ih]

theorem del_setItem_self (d : EventDict) : del key (setItem key value d) = del key d := by
  induction d with
  | nil => simp [setItem, del]
  | cons entry rest ih =>
    obtain ⟨k, v⟩ := entry
    by_cases here : k = .str key
    · simp [setItem, del, here]
    · simp [setItem, del, here, ih]

theorem del_setItem (different : key ≠ other) (d : EventDict) :
    del other (setItem key value d) = setItem key value (del other d) := by
  induction d with
  | nil => simp [setItem, del, different]
  | cons entry rest ih =>
    obtain ⟨k, v⟩ := entry
    by_cases here : k = .str key
    · subst here
      simp [setItem, del, different]
    · by_cases there : k = .str other
      · simp [setItem, del, there, Ne.symm different]
      · simp [setItem, del, here, there, ih]

theorem get?_setdefault (k : Key) (v : Value) (d : EventDict) :
    get? key (setdefault (k, v) d) = (get? key d).or (if k = .str key then some v else none) := by
  induction d with
  | nil => simp [setdefault, get?]
  | cons entry rest ih =>
    obtain ⟨k', v'⟩ := entry
    by_cases here : k' = k
    · subst here
      by_cases found : k' = .str key <;> simp [setdefault, get?, found]
    · by_cases found : k' = .str key
      · subst found
        simp [setdefault, get?, here]
      · simp [setdefault, get?, here, found, ih]

theorem get?_setdefaults (fields d : EventDict) :
    get? key (setdefaults fields d) = (get? key d).or (get? key fields) := by
  induction fields generalizing d with
  | nil => simp [setdefaults, get?]
  | cons entry rest ih =>
    obtain ⟨k, v⟩ := entry
    have later := ih (setdefault (k, v) d)
    rw [get?_setdefault, Option.or_assoc] at later
    refine later.trans ?_
    by_cases found : k = .str key <;> simp [get?, found]

theorem mem_setItem_self (d : EventDict) : (.str key, value) ∈ setItem key value d := by
  induction d with
  | nil => exact List.mem_singleton.mpr rfl
  | cons entry rest ih =>
    obtain ⟨k, v⟩ := entry
    by_cases here : k = .str key
    · subst here
      simp [setItem]
    · simp [setItem, here, ih]

theorem mem_setItem {k : Key} {v : Value} (member : (k, v) ∈ setItem key value d) :
    (k = .str key ∧ v = value) ∨ (k, v) ∈ d := by
  induction d with
  | nil =>
    cases List.mem_singleton.mp member
    exact Or.inl ⟨rfl, rfl⟩
  | cons entry rest ih =>
    obtain ⟨k', v'⟩ := entry
    by_cases here : k' = .str key
    · simp only [setItem, here, if_true, List.mem_cons] at member
      rcases member with same | inside
      · cases same
        exact Or.inl ⟨rfl, rfl⟩
      · exact Or.inr (List.mem_cons_of_mem _ inside)
    · simp only [setItem, here, if_false, List.mem_cons] at member
      rcases member with same | inside
      · cases same
        exact Or.inr List.mem_cons_self
      · exact (ih inside).imp_right (List.mem_cons_of_mem _)

theorem mem_del {entry : Key × Value} (member : entry ∈ del key d) : entry ∈ d := by
  induction d with
  | nil => cases member
  | cons first rest ih =>
    obtain ⟨k, v⟩ := first
    by_cases here : k = .str key
    · simp only [del, here, if_true] at member
      exact List.mem_cons_of_mem _ member
    · simp only [del, here, if_false, List.mem_cons] at member
      rcases member with same | inside
      · rw [same]
        exact List.mem_cons_self
      · exact List.mem_cons_of_mem _ (ih inside)

end

end EventDict

end PetBackend.Config
