import PetBackend.Config.Redaction
import PetBackend.Library.Entries

/-!
# What redaction keeps

Along a path without sensitive keys everything but the values under such keys is what it was.
-/

namespace PetBackend.Config

inductive Step where
  | key (key : Key)
  | index (i : Nat)

def Value.child : Value → Step → Option Value
  | .dict entries, .key key => entries.lookup key
  | .list items, .index i | .tuple items, .index i => items[i]?
  | _, _ => Option.none

/-- The value at the end of a path. -/
def Value.at (value : Value) (path : List Step) : Option Value := path.foldlM Value.child value

/-- What there is of a value besides the values that it holds. -/
inductive Shape where
  | scalar (value : Value)
  | list (length : Nat)
  | tuple (length : Nat)
  | dict (keys : List Key)

def Value.shape : Value → Shape
  | .list items => .list items.length
  | .tuple items => .tuple items.length
  | .dict entries => .dict (entries.map Prod.fst)
  | value => .scalar value

section
variable (lower : String → String) (fragments : List String)

def Plain (path : List Step) : Prop := ∀ key, .key key ∈ path → ¬ isSensitive lower fragments key = true

/-- The values are the same but for what they hold under sensitive keys. -/
inductive SameOutside : Value → Value → Prop where
  | scalar {value : Value} (held : value.shape = .scalar value) : SameOutside value value
  | list {items items' : List Value} (length : items.length = items'.length)
      (same : ∀ (i : Nat) v w, items[i]? = some v → items'[i]? = some w → SameOutside v w) :
      SameOutside (.list items) (.list items')
  | tuple {items items' : List Value} (length : items.length = items'.length)
      (same : ∀ (i : Nat) v w, items[i]? = some v → items'[i]? = some w → SameOutside v w) :
      SameOutside (.tuple items) (.tuple items')
  | dict {entries entries' : List (Key × Value)} (keys : entries.map Prod.fst = entries'.map Prod.fst)
      (same : ∀ (i : Nat) key v w, entries[i]? = some (key, v) → entries'[i]? = some (key, w) →
        ¬ isSensitive lower fragments key = true → SameOutside v w) :
      SameOutside (.dict entries) (.dict entries')

end

variable {lower : String → String} {fragments : List String}

theorem at_cons (value : Value) (step : Step) (rest : List Step) :
    value.at (step :: rest) = (value.child step).bind (·.at rest) := List.foldlM_cons

theorem at_singleton (value : Value) (step : Step) : value.at [step] = value.child step := by
  rw [at_cons]
  exact Option.bind_fun_some _

theorem at_append (value : Value) (path rest : List Step) :
    value.at (path ++ rest) = (value.at path).bind (·.at rest) := by
  unfold Value.at
  exact List.foldlM_append

theorem shape_redactNested (value : Value) : (redactNested lower fragments value).shape = value.shape := by
  cases value with
  | list items | tuple items =>
    rw [redactNested, redactItems_eq]
    simp [Value.shape]
  | dict entries =>
    rw [redactNested, redactEntries_eq]
    simp [Value.shape]
  | _ => rfl

theorem lookup_redactEntries (key : Key) (entries : List (Key × Value)) :
    (redactEntries lower fragments entries).lookup key =
      (entries.lookup key).map (redactUnder lower fragments key) := by
  rw [redactEntries_eq]
  exact Library.lookup_map _ _ _

theorem child_sensitive {key : Key} (sensitive : isSensitive lower fragments key = true) (value : Value) :
    (redactNested lower fragments value).child (.key key) = (value.child (.key key)).map fun _ => redacted := by
  cases value with
  | dict entries =>
    refine (lookup_redactEntries key entries).trans ?_
    exact congrArg (Option.map · _) (funext fun _ => redactUnder_sensitive sensitive)
  | _ => rfl

theorem child_plain {step : Step} (plain : Plain lower fragments [step]) (value : Value) :
    (redactNested lower fragments value).child step = (value.child step).map (redactNested lower fragments) := by
  cases value with
  | dict entries =>
    cases step with
    | key key =>
      refine (lookup_redactEntries key entries).trans ?_
      have unredacted := plain key (List.mem_singleton.mpr rfl)
      exact congrArg (Option.map · _) (funext fun _ => redactUnder_plain unredacted)
    | index i => rfl
  | list items | tuple items =>
    rw [redactNested, redactItems_eq]
    cases step with
    | key key => rfl
    | index i => exact List.getElem?_map
  | _ => rfl

/-- Redaction goes on along a path without sensitive keys. -/
theorem at_plain {path : List Step} (plain : Plain lower fragments path) (value : Value) :
    (redactNested lower fragments value).at path = (value.at path).map (redactNested lower fragments) := by
  induction path generalizing value with
  | nil => rfl
  | cons step rest ih =>
    have first : Plain lower fragments [step] := fun key member =>
      plain key (List.mem_cons.mpr (.inl (List.mem_singleton.mp member)))
    have later : Plain lower fragments rest := fun key member => plain key (List.mem_cons_of_mem _ member)
    rw [at_cons, at_cons, child_plain first]
    cases value.child step with
    | none => rfl
    | some held => exact ih later held

/-! ### What two values with one redaction share -/

theorem SameOutside.redacts_same {a b : Value} (same : SameOutside lower fragments a b) :
    redactNested lower fragments a = redactNested lower fragments b := by
  induction same with
  | scalar _ => rfl
  | @list items items' length _ ih | @tuple items items' length _ ih =>
    rw [redactNested, redactNested, redactItems_eq, redactItems_eq]
    congr 1
    refine List.ext_getElem (by simpa using length) fun i bound bound' => ?_
    rw [List.length_map] at bound bound'
    rw [List.getElem_map, List.getElem_map]
    exact ih i _ _ (List.getElem?_eq_getElem bound) (List.getElem?_eq_getElem bound')
  | @dict entries entries' keys _ ih =>
    rw [redactNested, redactNested, redactEntries_eq, redactEntries_eq]
    congr 1
    have length : entries.length = entries'.length := by simpa using congrArg List.length keys
    refine List.ext_getElem (by simpa using length) fun i bound bound' => ?_
    rw [List.length_map] at bound bound'
    rw [List.getElem_map, List.getElem_map]
    have key : entries[i].1 = entries'[i].1 := by
      have at_i := congrArg (fun keys => keys[i]?) keys
      simpa [bound, bound'] using at_i
    refine Prod.ext key ?_
    show redactUnder lower fragments entries[i].1 entries[i].2 = redactUnder lower fragments entries'[i].1 entries'[i].2
    rw [← key]
    by_cases sensitive : isSensitive lower fragments entries[i].1 = true
    · rw [redactUnder_sensitive sensitive, redactUnder_sensitive sensitive]
    · rw [redactUnder_plain sensitive, redactUnder_plain sensitive]
      refine ih i entries[i].1 _ _ (List.getElem?_eq_getElem bound) ?_ sensitive
      rw [List.getElem?_eq_getElem bound', key]

theorem items_same {α β : Type} {f : α → β} {items items' : List α} (mapped : items.map f = items'.map f) :
    items.length = items'.length ∧
      ∀ (i : Nat) v w, items[i]? = some v → items'[i]? = some w → f v = f w := by
  refine ⟨by simpa using congrArg List.length mapped, fun i v w here there => ?_⟩
  simpa [here, there] using congrArg (fun items => items[i]?) mapped

theorem SameOutside.of_redacts_same (a b : Value)
    (same : redactNested lower fragments a = redactNested lower fragments b) :
    SameOutside lower fragments a b := by
  induction a using Value.induct generalizing b with
  | none | bool _ | str _ | leaf _ =>
    cases b <;> cases same
    all_goals exact .scalar rfl
  | list items ih =>
    cases b with
    | list items' =>
      rw [redactNested, redactNested, redactItems_eq, redactItems_eq] at same
      obtain ⟨length, each⟩ := items_same (Value.list.inj same)
      exact .list length fun i v w here there =>
        ih v (List.mem_of_getElem? here) w (each i v w here there)
    | _ => cases same
  | tuple items ih =>
    cases b with
    | tuple items' =>
      rw [redactNested, redactNested, redactItems_eq, redactItems_eq] at same
      obtain ⟨length, each⟩ := items_same (Value.tuple.inj same)
      exact .tuple length fun i v w here there =>
        ih v (List.mem_of_getElem? here) w (each i v w here there)
    | _ => cases same
  | dict entries ih =>
    cases b with
    | dict entries' =>
      have shapes := congrArg Value.shape same
      rw [shape_redactNested, shape_redactNested] at shapes
      rw [redactNested, redactNested, redactEntries_eq, redactEntries_eq] at same
      obtain ⟨-, each⟩ := items_same (Value.dict.inj same)
      refine .dict (Shape.dict.inj shapes) fun i key v w here there plain => ?_
      refine ih key v (List.mem_of_getElem? here) w ?_
      have held := congrArg Prod.snd (each i _ _ here there)
      rwa [redactUnder_plain plain, redactUnder_plain plain] at held
    | _ => cases same

/-! ### Exactness -/

/-- The output is the input but for the outermost values under sensitive keys. -/
structure Exact (lower : String → String) (fragments : List String) (d out : EventDict) : Prop where
  kept : ∀ path, Plain lower fragments path →
    ((Value.dict out).at path).map Value.shape = ((Value.dict d).at path).map Value.shape
  replaced : ∀ path key, Plain lower fragments path → isSensitive lower fragments key = true →
    (Value.dict out).at (path ++ [.key key]) = ((Value.dict d).at (path ++ [.key key])).map fun _ => redacted
  nothingBeneath : ∀ path key step rest, Plain lower fragments path →
    isSensitive lower fragments key = true →
    (Value.dict out).at (path ++ .key key :: step :: rest) = none

theorem redact_exact (d : EventDict) : Exact lower fragments d (redact lower fragments d) := by
  have whole : Value.dict (redact lower fragments d) = redactNested lower fragments (.dict d) := by
    rw [redact_eq, redactNested]
  refine ⟨fun path plain => ?_, fun path key plain sensitive => ?_, fun path key step rest plain sensitive => ?_⟩
  · rw [whole, at_plain plain, Option.map_map]
    exact congrArg (Option.map · _) (funext fun value => shape_redactNested value)
  · rw [at_append, at_append, whole, at_plain plain]
    cases (Value.dict d).at path with
    | none => rfl
    | some held => exact (at_singleton _ _).trans ((child_sensitive sensitive held).trans
        (congrArg (Option.map _) (at_singleton held (.key key)).symm))
  · rw [at_append, whole, at_plain plain]
    cases (Value.dict d).at path with
    | none => rfl
    | some held =>
      show (redactNested lower fragments held).at (.key key :: step :: rest) = none
      rw [at_cons, child_sensitive sensitive]
      -- the text that stands there has no children
      cases held.child (.key key) with
      | none => rfl
      | some _ => rfl

/-- The processor replaces the outermost values under sensitive keys and nothing else, so that it
makes one output of two event dicts exactly if they differ beneath sensitive keys only. -/
theorem redaction_exact (runtime : Runtime) (d : EventDict) :
    ∃ out, makeRedactProcessor runtime fragments d = some out ∧ Exact runtime.lower fragments d out ∧
      (∀ other, makeRedactProcessor runtime fragments other = some out ↔
        SameOutside runtime.lower fragments (.dict d) (.dict other)) ∧
      makeRedactProcessor runtime fragments out = some out := by
  refine ⟨_, rfl, redact_exact d, fun other => ?_, ?_⟩
  · unfold makeRedactProcessor
    rw [Option.some.injEq, redact_eq, redact_eq]
    constructor
    · intro same
      refine .of_redacts_same _ _ ?_
      rw [redactNested, redactNested, same]
    · intro same
      have redacted := same.redacts_same
      rw [redactNested, redactNested] at redacted
      exact (Value.dict.inj redacted).symm
  · have clean : Clean runtime.lower fragments (.dict (redact runtime.lower fragments d)) := redact_clean d
    have fixed := redactNested_fixed _ clean
    rw [redactNested] at fixed
    exact congrArg some ((redact_eq _).trans (Value.dict.inj fixed))

end PetBackend.Config
