import PetBackend.Library.Program

/-!
# Rely and guarantee

Programs that share a store and run one call at a time in any order. Each is proved alone, against
what the others may do to the store between its calls.
-/

namespace PetBackend.Library

/-- What a call may do, what every state satisfies, what the others may do between two calls, and
what a call must be to the others. -/
structure Setting (Op : Type) (Ret : Op → Type) (S : Type) where
  step : (op : Op) → S → Ret op → S → Prop
  inv : S → Prop
  rely : S → S → Prop
  guarantee : S → S → Prop
  rely_refl : ∀ s, rely s s
  rely_trans : ∀ {a b c}, rely a b → rely b c → rely a c

namespace Setting

variable {Op : Type} {Ret : Op → Type} {S α β : Type} (E : Setting Op Ret S)

/-- From `s`, whatever the others do, every call keeps the invariant and the guarantee, and the
program ends in `post`. -/
def Safe (post : α → S → Prop) : Program Op Ret α → S → Prop
  | .done value, s => ∀ t, E.rely s t → E.inv t → post value t
  | .call op next, s => ∀ t, E.rely s t → E.inv t → ∀ answer after, E.step op t answer after →
      E.guarantee t after ∧ E.inv after ∧ Safe post (next answer) after

variable {E} {post : α → S → Prop} {program : Program Op Ret α} {s t : S}

theorem safe_rely (moved : E.rely s t) (safe : E.Safe post program s) : E.Safe post program t := by
  cases program with
  | done value =>
    intro t' later
    exact safe t' (E.rely_trans moved later)
  | call op next =>
    intro t' later
    exact safe t' (E.rely_trans moved later)

theorem safe_mono {weaker : α → S → Prop} (weaken : ∀ value t, E.inv t → post value t → weaker value t)
    (safe : E.Safe post program s) : E.Safe weaker program s := by
  induction program generalizing s with
  | done value =>
    intro t moved valid
    exact weaken value t valid (safe t moved valid)
  | call op next ih =>
    intro t moved valid answer after called
    obtain ⟨kept, stays, rest⟩ := safe t moved valid answer after called
    exact ⟨kept, stays, ih answer rest⟩

/-- What holds at the end goes on holding whatever the others do next. -/
theorem safe_closed (safe : E.Safe post program s) :
    E.Safe (fun value t => ∀ t', E.rely t t' → E.inv t' → post value t') program s := by
  induction program generalizing s with
  | done value =>
    intro t moved _ t' later
    exact safe t' (E.rely_trans moved later)
  | call op next ih =>
    intro t moved valid answer after called
    obtain ⟨kept, stays, rest⟩ := safe t moved valid answer after called
    exact ⟨kept, stays, ih answer rest⟩

theorem safe_bind {middle : α → S → Prop} {final : β → S → Prop} {rest : α → Program Op Ret β}
    (safe : E.Safe middle program s)
    (follows : ∀ value t, E.inv t → middle value t → E.Safe final (rest value) t) (valid : E.inv s) :
    E.Safe final (program >>= rest) s := by
  induction program generalizing s with
  | done value => exact follows value s valid (safe s (E.rely_refl s) valid)
  | call op next ih =>
    intro t moved valid answer after called
    obtain ⟨kept, stays, later⟩ := safe t moved valid answer after called
    exact ⟨kept, stays, ih answer later stays⟩

theorem safe_map {final : β → S → Prop} {f : α → β}
    (safe : E.Safe (fun value t => final (f value) t) program s) (valid : E.inv s) :
    E.Safe final (f <$> program) s := by
  show E.Safe final (program >>= fun value => .done (f value)) s
  exact safe_bind (safe_closed safe) (fun _ _ _ lasts => lasts) valid

end Setting

/-! ### Any number of programs -/

section
variable {Op : Type} {Ret : Op → Type} {S α : Type}

structure Running (Op : Type) (Ret : Op → Type) (S α : Type) where
  store : S
  tasks : Nat → Program Op Ret α

inductive Running.Step (step : Nat → (op : Op) → S → Ret op → S → Prop) :
    Running Op Ret S α → Running Op Ret S α → Prop where
  | call {state : Running Op Ret S α} {i : Nat} {op : Op} {next : Ret op → Program Op Ret α}
      {answer : Ret op} {after : S} (pending : state.tasks i = .call op next)
      (called : step i op state.store answer after) :
      Step step state ⟨after, fun j => if j = i then next answer else state.tasks j⟩

inductive Running.Reachable (step : Nat → (op : Op) → S → Ret op → S → Prop)
    (initial : Running Op Ret S α) : Running Op Ret S α → Prop where
  | initial : Reachable step initial initial
  | step {state later : Running Op Ret S α} (reached : Reachable step initial state)
      (moved : Running.Step step state later) : Reachable step initial later

theorem Running.Reachable.trans {step : Nat → (op : Op) → S → Ret op → S → Prop}
    {initial middle final : Running Op Ret S α} (first : Reachable step initial middle)
    (second : Reachable step middle final) : Reachable step initial final := by
  induction second with
  | initial => exact first
  | step _ moved ih => exact .step ih moved

/-- Some calls of one program while nobody else has a turn. -/
inductive Program.Runs (step : (op : Op) → S → Ret op → S → Prop) :
    Program Op Ret α → S → Program Op Ret α → S → Prop where
  | refl {program : Program Op Ret α} {s : S} : Runs step program s program s
  | call {op : Op} {next : Ret op → Program Op Ret α} {answer : Ret op} {s t u : S} {program : Program Op Ret α}
      (called : step op s answer t) (rest : Runs step (next answer) t program u) : Runs step (.call op next) s program u

theorem Running.Reachable.alone {step : Nat → (op : Op) → S → Ret op → S → Prop} {initial : Running Op Ret S α}
    {i : Nat} {program later : Program Op Ret α} {s t : S} (runs : Program.Runs (step i) program s later t)
    {tasks : Nat → Program Op Ret α} (reached : Reachable step initial ⟨s, tasks⟩) (here : tasks i = program) :
    ∃ tasks', Reachable step initial ⟨t, tasks'⟩ ∧ tasks' i = later ∧ ∀ j, j ≠ i → tasks' j = tasks j := by
  induction runs generalizing tasks with
  | refl => exact ⟨tasks, reached, here, fun _ _ => rfl⟩
  | call called _ ih =>
    obtain ⟨tasks', reached', here', others⟩ := ih (.step reached (.call here called)) (if_pos rfl)
    exact ⟨tasks', reached', here', fun j other => (others j other).trans (if_neg other)⟩

variable {E : Nat → Setting Op Ret S} {inv : S → Prop}
  {step : Nat → (op : Op) → S → Ret op → S → Prop}

/-- The programs fit together: one store, one invariant, and what each guarantees the others rely
on. -/
structure Compatible (step : Nat → (op : Op) → S → Ret op → S → Prop) (inv : S → Prop)
    (E : Nat → Setting Op Ret S) : Prop where
  step : ∀ i, (E i).step = step i
  inv : ∀ i, (E i).inv = inv
  relies : ∀ i j s t, i ≠ j → (E i).guarantee s t → (E j).rely s t

structure Sound (E : Nat → Setting Op Ret S) (inv : S → Prop) (post : Nat → α → S → Prop)
    (state : Running Op Ret S α) : Prop where
  inv : inv state.store
  safe : ∀ i, (E i).Safe (post i) (state.tasks i) state.store

theorem step_sound (fits : Compatible step inv E) {post : Nat → α → S → Prop}
    {state later : Running Op Ret S α} (sound : Sound E inv post state)
    (moved : Running.Step step state later) : Sound E inv post later := by
  obtain @⟨i, op, next, answer, after, pending, called⟩ := moved
  have safe := sound.safe i
  have valid : (E i).inv state.store := by
    rw [fits.inv]
    exact sound.inv
  have happened : (E i).step op state.store answer after := by
    rw [fits.step]
    exact called
  rw [pending] at safe
  obtain ⟨kept, stays, rest⟩ := safe _ ((E i).rely_refl _) valid answer after happened
  rw [fits.inv] at stays
  refine ⟨stays, fun j => ?_⟩
  by_cases same : j = i
  · subst same
    simpa only [if_true] using rest
  · simp only [same, if_false]
    exact Setting.safe_rely (fits.relies i j _ _ (Ne.symm same) kept) (sound.safe j)

/-- A call from a sound state is what its task guarantees the others. -/
theorem Sound.guaranteed (fits : Compatible step inv E) {post : Nat → α → S → Prop} {state : Running Op Ret S α}
    (sound : Sound E inv post state) {i : Nat} {op : Op} {next : Ret op → Program Op Ret α} {answer : Ret op}
    {after : S} (pending : state.tasks i = .call op next) (called : step i op state.store answer after) :
    (E i).guarantee state.store after := by
  have safe := sound.safe i
  have valid : (E i).inv state.store := (fits.inv i).symm ▸ sound.inv
  have happened : (E i).step op state.store answer after := (fits.step i).symm ▸ called
  rw [pending] at safe
  exact (safe _ ((E i).rely_refl _) valid answer after happened).1

theorem reachable_sound (fits : Compatible step inv E) {post : Nat → α → S → Prop}
    {initial state : Running Op Ret S α} (sound : Sound E inv post initial)
    (reached : Running.Reachable step initial state) : Sound E inv post state := by
  induction reached with
  | initial => exact sound
  | step _ moved ih => exact step_sound fits ih moved

/-- A preorder on the store that every guarantee respects holds along every run. -/
theorem reachable_monotone (fits : Compatible step inv E) {post : Nat → α → S → Prop}
    {grows : S → S → Prop} (refl : ∀ s, grows s s)
    (trans : ∀ {a b c}, grows a b → grows b c → grows a c)
    (respects : ∀ i s t, (E i).guarantee s t → grows s t) {initial state : Running Op Ret S α}
    (sound : Sound E inv post initial) (reached : Running.Reachable step initial state) :
    grows initial.store state.store := by
  induction reached with
  | initial => exact refl _
  | step reached moved ih =>
    have before := reachable_sound fits sound reached
    obtain @⟨i, op, next, answer, after, pending, called⟩ := moved
    have safe := before.safe i
    have valid : (E i).inv _ := (fits.inv i).symm ▸ before.inv
    have happened : (E i).step op _ answer after := (fits.step i).symm ▸ called
    rw [pending] at safe
    obtain ⟨kept, _, _⟩ := safe _ ((E i).rely_refl _) valid answer after happened
    exact trans ih (respects i _ _ kept)

theorem Sound.ended {post : Nat → α → S → Prop} {state : Running Op Ret S α}
    (fits : Compatible step inv E) (sound : Sound E inv post state) {i : Nat} {value : α}
    (ended : state.tasks i = .done value) : post i value state.store := by
  have safe := sound.safe i
  rw [ended] at safe
  refine safe _ ((E i).rely_refl _) ?_
  rw [fits.inv]
  exact sound.inv

end

end PetBackend.Library
