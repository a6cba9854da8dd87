import PetBackend.Config.Logging

/-!
# What redaction does

A redacted value is clean, and a clean value is not changed by redaction.
-/

namespace PetBackend.Config

section
variable (lower : String → String) (fragments : List String)

def redactUnder (key : Key) (value : Value) : Value :=
  if isSensitive lower fragments key then redacted else redactNested lower fragments value

/-- Every entry under a sensitive key, at any depth, is redacted. -/
def Clean (value : Value) : Prop :=
  ∀ key held, HasEntry value key held → isSensitive lower fragments key = true → held = redacted

theorem redactEntries_eq (entries : List (Key × Value)) : redactEntries lower fragments entries =
    entries.map fun entry => (entry.1, redactUnder lower fragments entry.1 entry.2) := by
  induction entries with
  | nil => rfl
  | cons entry rest ih =>
    obtain ⟨key, value⟩ := entry
    rw [redactEntries, ih]
    rfl

theorem redactItems_eq (items : List Value) :
    redactItems lower fragments items = items.map (redactNested lower fragments) := by
  induction items with
  | nil => rfl
  | cons item rest ih =>
    rw [redactItems, ih]
    rfl

end

variable {lower : String → String} {fragments : List String}

theorem clean_dict {entries : List (Key × Value)} : Clean lower fragments (.dict entries) ↔
    ∀ key value, (key, value) ∈ entries →
      (isSensitive lower fragments key = true → value = redacted) ∧ Clean lower fragments value := by
  constructor
  · intro clean key value member
    exact ⟨clean key value (.here member), fun key' held entry => clean key' held (.inDict member entry)⟩
  · intro each key held entry sensitive
    cases entry with
    | here member => exact (each key held member).1 sensitive
    | inDict member deeper => exact (each _ _ member).2 key held deeper sensitive

theorem clean_list {items : List Value} : Clean lower fragments (.list items) ↔
    ∀ value ∈ items, Clean lower fragments value := by
  constructor
  · intro clean value member key held entry
    exact clean key held (.inList member entry)
  · intro each key held entry sensitive
    cases entry with
    | inList member deeper => exact each _ member key held deeper sensitive

theorem clean_tuple {items : List Value} : Clean lower fragments (.tuple items) ↔
    ∀ value ∈ items, Clean lower fragments value := by
  constructor
  · intro clean value member key held entry
    exact clean key held (.inTuple member entry)
  · intro each key held entry sensitive
    cases entry with
    | inTuple member deeper => exact each _ member key held deeper sensitive

theorem clean_str (text : String) : Clean lower fragments (.str text) := by
  intro key held entry
  cases entry

theorem redactUnder_sensitive {key : Key} {value : Value}
    (sensitive : isSensitive lower fragments key = true) :
    redactUnder lower fragments key value = redacted := if_pos sensitive

theorem redactUnder_plain {key : Key} {value : Value}
    (plain : ¬ isSensitive lower fragments key = true) :
    redactUnder lower fragments key value = redactNested lower fragments value := if_neg plain

theorem mem_redactEntries {entries : List (Key × Value)} {key : Key} {value : Value} :
    (key, value) ∈ redactEntries lower fragments entries ↔
      ∃ held, (key, held) ∈ entries ∧ value = redactUnder lower fragments key held := by
  rw [redactEntries_eq, List.mem_map]
  constructor
  · rintro ⟨⟨key', held⟩, member, same⟩
    cases same
    exact ⟨held, member, rfl⟩
  · rintro ⟨held, member, rfl⟩
    exact ⟨(key, held), member, rfl⟩

theorem redactUnder_clean {key : Key} {value : Value}
    (clean : Clean lower fragments (redactNested lower fragments value)) :
    Clean lower fragments (redactUnder lower fragments key value) := by
  by_cases sensitive : isSensitive lower fragments key = true
  · rw [redactUnder_sensitive sensitive]
    exact clean_str "***"
  · rw [redactUnder_plain sensitive]
    exact clean

theorem redactNested_clean (value : Value) :
    Clean lower fragments (redactNested lower fragments value) := by
  induction value using Value.induct with
  | none | bool _ | str _ | leaf _ =>
    intro key held entry
    cases entry
  | list items ih =>
    rw [redactNested, redactItems_eq, clean_list]
    intro value member
    obtain ⟨item, inside, rfl⟩ := List.mem_map.mp member
    exact ih item inside
  | tuple items ih =>
    rw [redactNested, redactItems_eq, clean_tuple]
    intro value member
    obtain ⟨item, inside, rfl⟩ := List.mem_map.mp member
    exact ih item inside
  | dict entries ih =>
    rw [redactNested, clean_dict]
    intro key value member
    obtain ⟨held, inside, rfl⟩ := mem_redactEntries.mp member
    exact ⟨fun sensitive => redactUnder_sensitive sensitive, redactUnder_clean (ih key held inside)⟩

theorem redactUnder_fixed {key : Key} {value : Value}
    (held : isSensitive lower fragments key = true → value = redacted)
    (fixed : redactNested lower fragments value = value) :
    redactUnder lower fragments key value = value := by
  by_cases sensitive : isSensitive lower fragments key = true
  · rw [redactUnder_sensitive sensitive, held sensitive]
  · rw [redactUnder_plain sensitive, fixed]

theorem redactNested_fixed (value : Value) (clean : Clean lower fragments value) :
    redactNested lower fragments value = value := by
  induction value using Value.induct with
  | none | bool _ | str _ | leaf _ => rfl
  | list items ih =>
    rw [redactNested, redactItems_eq]
    congr 1
    exact (List.map_congr_left fun item inside => ih item inside (clean_list.mp clean item inside)).trans
      (List.map_id items)
  | tuple items ih =>
    rw [redactNested, redactItems_eq]
    congr 1
    exact (List.map_congr_left fun item inside => ih item inside (clean_tuple.mp clean item inside)).trans
      (List.map_id items)
  | dict entries ih =>
    rw [redactNested, redactEntries_eq]
    congr 1
    refine (List.map_congr_left fun entry inside => ?_).trans (List.map_id entries)
    obtain ⟨held, deeper⟩ := clean_dict.mp clean entry.1 entry.2 inside
    exact Prod.ext rfl (redactUnder_fixed held (ih entry.1 entry.2 inside deeper))

theorem redactUnder_idem (key : Key) (value : Value) :
    redactUnder lower fragments key (redactUnder lower fragments key value) =
      redactUnder lower fragments key value :=
  redactUnder_fixed (fun sensitive => redactUnder_sensitive sensitive)
    (redactNested_fixed _ (redactUnder_clean (redactNested_clean value)))

/-- Assigning some keys, one after the other, is one pass over the entries. -/
theorem assign_keys (keys : List Key) (d : EventDict) :
    keys.foldl (fun d key => EventDict.assign d key (redactUnder lower fragments key)) d =
      d.map fun entry => if entry.1 ∈ keys then
        (entry.1, redactUnder lower fragments entry.1 entry.2) else entry := by
  induction keys generalizing d with
  | nil => simp
  | cons key keys ih =>
    rw [List.foldl_cons, ih, EventDict.assign, List.map_map]
    refine List.map_congr_left fun entry _ => ?_
    by_cases here : entry.1 = key <;> by_cases later : entry.1 ∈ keys
    · subst here
      simp [later, redactUnder_idem]
    · subst here
      simp [later]
    · simp [here, later]
    · simp [here, later]

/-- The top level is redacted as the levels below are. -/
theorem redact_eq (d : EventDict) : redact lower fragments d = redactEntries lower fragments d := by
  have same : redact lower fragments d =
      (d.map Prod.fst).foldl (fun d key =>
        EventDict.assign d key (redactUnder lower fragments key)) d := by
    unfold redact
    congr 1
    funext d key
    by_cases sensitive : isSensitive lower fragments key = true
    · rw [if_pos sensitive]
      congr 1
      funext value
      exact (redactUnder_sensitive sensitive).symm
    · rw [if_neg sensitive]
      congr 1
      funext value
      exact (redactUnder_plain sensitive).symm
  rw [same, assign_keys, redactEntries_eq]
  refine List.map_congr_left fun entry inside => ?_
  rw [if_pos (List.mem_map_of_mem inside)]

theorem redact_clean (d : EventDict) : Clean lower fragments (.dict (redact lower fragments d)) := by
  rw [redact_eq, ← redactNested]
  exact redactNested_clean (.dict d)

/-! ### Redaction and the dict operations -/

theorem redactEntries_cons (key : Key) (value : Value) (rest : EventDict) :
    redactEntries lower fragments ((key, value) :: rest) =
      (key, redactUnder lower fragments key value) :: redactEntries lower fragments rest := rfl

theorem redactEntries_get? (key : String) (d : EventDict) :
    EventDict.get? key (redactEntries lower fragments d) =
      (EventDict.get? key d).map (redactUnder lower fragments (.str key)) := by
  induction d with
  | nil => rfl
  | cons entry rest ih =>
    obtain ⟨k, v⟩ := entry
    rw [redactEntries_cons]
    by_cases here : k = .str key
    · subst here
      simp [EventDict.get?]
    · simp [EventDict.get?, here, ih]

theorem redactEntries_setItem (key : String) (value : Value) (d : EventDict) :
    redactEntries lower fragments (EventDict.setItem key value d) =
      EventDict.setItem key (redactUnder lower fragments (.str key) value)
        (redactEntries lower fragments d) := by
  induction d with
  | nil => rfl
  | cons entry rest ih =>
    obtain ⟨k, v⟩ := entry
    rw [redactEntries_cons]
    by_cases here : k = .str key
    · subst here
      simp [EventDict.setItem, redactEntries_cons]
    · simp [EventDict.setItem, here, redactEntries_cons, ih]

theorem redactEntries_del (key : String) (d : EventDict) :
    redactEntries lower fragments (EventDict.del key d) =
      EventDict.del key (redactEntries lower fragments d) := by
  induction d with
  | nil => rfl
  | cons entry rest ih =>
    obtain ⟨k, v⟩ := entry
    rw [redactEntries_cons]
    by_cases here : k = .str key
    · simp [EventDict.del, here]
    · simp [EventDict.del, here, redactEntries_cons, ih]

theorem redactEntries_setdefault (k : Key) (v : Value) (d : EventDict) :
    redactEntries lower fragments (EventDict.setdefault (k, v) d) =
      EventDict.setdefault (k, redactUnder lower fragments k v) (redactEntries lower fragments d) := by
  induction d with
  | nil => rfl
  | cons entry rest ih =>
    obtain ⟨k', v'⟩ := entry
    rw [redactEntries_cons]
    by_cases here : k' = k
    · simp [EventDict.setdefault, here, redactEntries_cons]
    · simp [EventDict.setdefault, here, redactEntries_cons, ih]

theorem redactEntries_setdefaults (fields d : EventDict) :
    redactEntries lower fragments (EventDict.setdefaults fields d) =
      EventDict.setdefaults (redactEntries lower fragments fields) (redactEntries lower fragments d) := by
  induction fields generalizing d with
  | nil => rfl
  | cons entry rest ih =>
    obtain ⟨k, v⟩ := entry
    have later := ih (EventDict.setdefault (k, v) d)
    rw [redactEntries_setdefault] at later
    exact later

theorem redactNested_truthy (value : Value) :
    (redactNested lower fragments value).truthy = value.truthy := by
  cases value with
  | list items | tuple items =>
    rw [redactNested, redactItems_eq]
    simp [Value.truthy]
  | dict entries =>
    rw [redactNested, redactEntries_eq]
    simp [Value.truthy]
  | _ => rfl

end PetBackend.Config
