import Mathlib.Data.List.Infix
import Mathlib.Data.List.Nodup
import PetBackend.Library.RelyGuarantee

/-!
# Linearization

Tasks on a shared store against an object that is asked one thing at a time. If each task takes effect at one of its
calls and answers from then on what the object answered there, then the tasks that have taken effect are, in this
order, a run of the object.
-/

namespace PetBackend.Library

section
variable {A ρ : Type}

/-- Requests that the object answered one after the other, with its answers. -/
inductive Serial (effect : Nat → A → ρ → A → Prop) (start : A) : List (Nat × ρ) → A → Prop where
  | nil : Serial effect start [] start
  | snoc {history : List (Nat × ρ)} {a b : A} {i : Nat} {result : ρ} (before : Serial effect start history a)
      (takes : effect i a result b) : Serial effect start (history ++ [(i, result)]) b

variable {effect other : Nat → A → ρ → A → Prop} {start a : A} {history : List (Nat × ρ)}

/-- What each request keeps, any number of them keep. -/
theorem Serial.keeps {inv : A → Prop} (keeps : ∀ i a result b, inv a → effect i a result b → inv b)
    (serial : Serial effect start history a) (starts : inv start) : inv a := by
  induction serial with
  | nil => exact starts
  | snoc _ takes ih => exact keeps _ _ _ _ ih takes

theorem Serial.mono (weaken : ∀ i a result b, (i, result) ∈ history → effect i a result b → other i a result b)
    (serial : Serial effect start history a) : Serial other start history a := by
  induction serial with
  | nil => exact .nil
  | snoc _ takes ih =>
    refine .snoc (ih fun i a result b member => weaken i a result b (List.mem_append_left _ member)) ?_
    exact weaken _ _ _ _ (List.mem_append_right _ List.mem_cons_self) takes

end

section
variable {Op : Type} {Ret : Op → Type} {S α A ρ : Type}

/-- How tasks take effect: first each is `undecided`, and from one of its calls on `decided` on a result. -/
structure Linearizes (step : Nat → (op : Op) → S → Ret op → S → Prop) (initial : Running Op Ret S α) (view : S → A)
    (effect : Nat → A → ρ → A → Prop) (undecided : Nat → Program Op Ret α → S → Prop)
    (decided : Nat → ρ → Program Op Ret α → Prop) : Prop where
  starts : ∀ i, undecided i (initial.tasks i) initial.store
  acts : ∀ {state : Running Op Ret S α} {i : Nat} {op : Op} {next : Ret op → Program Op Ret α} {answer : Ret op}
    {after : S}, Running.Reachable step initial state → state.tasks i = .call op next →
    step i op state.store answer after → undecided i (.call op next) state.store →
    view after = view state.store ∧ undecided i (next answer) after ∨
      ∃ result, effect i (view state.store) result (view after) ∧ decided i result (next answer)
  rests : ∀ {store after : S} {i : Nat} {op : Op} {next : Ret op → Program Op Ret α} {answer : Ret op} {result : ρ},
    step i op store answer after → decided i result (.call op next) →
    view after = view store ∧ decided i result (next answer)
  others : ∀ {state : Running Op Ret S α} {i j : Nat} {op : Op} {next : Ret op → Program Op Ret α} {answer : Ret op}
    {after : S} {program : Program Op Ret α}, Running.Reachable step initial state → state.tasks i = .call op next →
    step i op state.store answer after → j ≠ i → undecided j program state.store → undecided j program after

/-- The tasks that have taken effect, in this order. -/
structure Explains (initial : Running Op Ret S α) (view : S → A) (effect : Nat → A → ρ → A → Prop)
    (undecided : Nat → Program Op Ret α → S → Prop) (decided : Nat → ρ → Program Op Ret α → Prop)
    (state : Running Op Ret S α) (history : List (Nat × ρ)) : Prop where
  serial : Serial effect (view initial.store) history (view state.store)
  once : (history.map Prod.fst).Nodup
  decided : ∀ i result, (i, result) ∈ history → decided i result (state.tasks i)
  undecided : ∀ i, i ∉ history.map Prod.fst → undecided i (state.tasks i) state.store

variable {step : Nat → (op : Op) → S → Ret op → S → Prop} {initial state later : Running Op Ret S α} {view : S → A}
  {effect : Nat → A → ρ → A → Prop} {undecided : Nat → Program Op Ret α → S → Prop}
  {decided : Nat → ρ → Program Op Ret α → Prop} {history : List (Nat × ρ)}
  (linearizes : Linearizes step initial view effect undecided decided)

include linearizes

theorem explains_initial : Explains initial view effect undecided decided initial [] where
  serial := .nil
  once := List.nodup_nil
  decided _ _ := nofun
  undecided i _ := linearizes.starts i

/-- A call of a task that leaves what the object is seen to be. -/
theorem explains_quiet (reached : Running.Reachable step initial state)
    (explains : Explains initial view effect undecided decided state history) {i : Nat} {op : Op}
    {next : Ret op → Program Op Ret α} {answer : Ret op} {after : S} (pending : state.tasks i = .call op next)
    (called : step i op state.store answer after) (same : view after = view state.store)
    (took : ∀ result, (i, result) ∈ history → decided i result (next answer))
    (waits : i ∉ history.map Prod.fst → undecided i (next answer) after) :
    Explains initial view effect undecided decided
      ⟨after, fun j => if j = i then next answer else state.tasks j⟩ history where
  serial := same ▸ explains.serial
  once := explains.once
  decided j result member := by
    by_cases here : j = i
    · subst here
      simpa only [if_true] using took result member
    · simpa only [here, if_false] using explains.decided j result member
  undecided j absent := by
    by_cases here : j = i
    · subst here
      simpa only [if_true] using waits absent
    · simpa only [here, if_false] using linearizes.others reached pending called here (explains.undecided j absent)

theorem explains_step (reached : Running.Reachable step initial state)
    (explains : Explains initial view effect undecided decided state history) (moved : Running.Step step state later) :
    ∃ more, Explains initial view effect undecided decided later (history ++ more) := by
  obtain @⟨i, op, next, answer, after, pending, called⟩ := moved
  by_cases listed : i ∈ history.map Prod.fst
  · obtain ⟨⟨i, result⟩, member, rfl⟩ := List.mem_map.mp listed
    have here (other : ρ) (also : (i, other) ∈ history) : decided i other (.call op next) :=
      pending ▸ explains.decided i other also
    refine ⟨[], ?_⟩
    rw [List.append_nil]
    exact explains_quiet linearizes reached explains pending called (linearizes.rests called (here result member)).1
      (fun other also => (linearizes.rests called (here other also)).2) fun absent => (absent listed).elim
  · have here : undecided i (.call op next) state.store := pending ▸ explains.undecided i listed
    rcases linearizes.acts reached pending called here with ⟨same, waits⟩ | ⟨result, takes, decides⟩
    · refine ⟨[], ?_⟩
      rw [List.append_nil]
      exact explains_quiet linearizes reached explains pending called same
        (fun result member => (listed (List.mem_map_of_mem member)).elim) fun _ => waits
    · refine ⟨[(i, result)], ?_⟩
      constructor
      · exact .snoc explains.serial takes
      · rw [List.map_append]
        refine List.nodup_append.mpr ⟨explains.once, List.nodup_singleton i, ?_⟩
        rintro j earlier _ new rfl
        obtain rfl : j = i := List.mem_singleton.mp new
        exact listed earlier
      · intro j other member
        rcases List.mem_append.mp member with earlier | new
        · have apart : j ≠ i := by
            rintro rfl
            exact listed (List.mem_map_of_mem earlier)
          simpa only [apart, if_false] using explains.decided j other earlier
        · cases List.mem_singleton.mp new
          simpa only [if_true] using decides
      · intro j absent
        rw [List.map_append, List.mem_append, not_or] at absent
        have apart : j ≠ i := by
          rintro rfl
          exact absent.2 List.mem_cons_self
        simpa only [apart, if_false] using linearizes.others reached pending called apart (explains.undecided j absent.1)

theorem explains_later (reached : Running.Reachable step initial state)
    (explains : Explains initial view effect undecided decided state history)
    (further : Running.Reachable step state later) :
    ∃ more, Explains initial view effect undecided decided later (history ++ more) := by
  induction further with
  | initial => exact ⟨[], (List.append_nil history).symm ▸ explains⟩
  | step before moved ih =>
    obtain ⟨more, explained⟩ := ih
    obtain ⟨last, explained⟩ := explains_step linearizes (reached.trans before) explained moved
    exact ⟨more ++ last, (List.append_assoc history more last) ▸ explained⟩

/-- Along a run the order only grows. -/
theorem exists_histories {states : Nat → Running Op Ret S α} (starts : states 0 = initial)
    (moves : ∀ n, Running.Reachable step (states n) (states (n + 1))) :
    ∃ histories : Nat → List (Nat × ρ),
      (∀ n, Explains initial view effect undecided decided (states n) (histories n)) ∧
      ∀ m n, m ≤ n → histories m <+: histories n := by
  have reached (n : Nat) : Running.Reachable step initial (states n) := by
    induction n with
    | zero => exact starts ▸ .initial
    | succ n ih => exact ih.trans (moves n)
  have first : Explains initial view effect undecided decided (states 0) [] := starts.symm ▸ explains_initial linearizes
  have next (n : Nat) (history : List (Nat × ρ)) : ∃ longer, history <+: longer ∧
      (Explains initial view effect undecided decided (states n) history →
        Explains initial view effect undecided decided (states (n + 1)) longer) := by
    by_cases explains : Explains initial view effect undecided decided (states n) history
    · obtain ⟨more, explained⟩ := explains_later linearizes (reached n) explains (moves n)
      exact ⟨history ++ more, List.prefix_append .., fun _ => explained⟩
    · exact ⟨history, List.prefix_rfl, fun explained => (explains explained).elim⟩
  choose longer grows explained using next
  refine ⟨Nat.rec [] longer, fun n => ?_, fun m n before => ?_⟩
  · induction n with
    | zero => exact first
    | succ n ih => exact explained n _ ih
  · induction before with
    | refl => exact List.prefix_rfl
    | @step n _ ih => exact ih.trans (grows n _)

end

end PetBackend.Library
