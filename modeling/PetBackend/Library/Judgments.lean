import Mathlib.Logic.Function.Basic
import Mathlib.Order.Basic
import PetBackend.Library.RelyGuarantee

/-!
# Judgments

Postconditions for the computations of a monad, whatever they are about, and what they use up of a budget. Code that
is written for any monad is judged once for all of them.
-/

namespace PetBackend.Library

structure Judgment (m : Type → Type) [Monad m] (G : Type) where
  /-- With this much left, the computation ends in what is said of its value and of what is left then. -/
  Yields : {α : Type} → G → m α → (α → G → Prop) → Prop
  pure : ∀ {α : Type} {g : G} {post : α → G → Prop} {value : α}, post value g → Yields g (pure value) post
  bind : ∀ {α β : Type} {g : G} {middle : α → G → Prop} {post : β → G → Prop} {first : m α} {rest : α → m β},
    Yields g first middle → (∀ value g', middle value g' → Yields g' (rest value) post) → Yields g (first >>= rest) post
  mono : ∀ {α : Type} {g : G} {post weaker : α → G → Prop} {call : m α},
    (∀ value g', post value g' → weaker value g') → Yields g call post → Yields g call weaker

/-- The same on a state that has `fits` to do with the budget. -/
def Judgment.stateful {m : Type → Type} [Monad m] {G H σ : Type} (J : Judgment m G) (fits : H → σ → G → Prop) :
    Judgment (StateT σ m) H where
  Yields h call post := ∀ state g, fits h state g →
    J.Yields g (call.run state) fun ended g' => ∃ h', fits h' ended.2 g' ∧ post ended.1 h'
  pure holds _ _ fit := J.pure ⟨_, fit, holds⟩
  bind first rest state g fit := by
    refine J.bind (first state g fit) ?_
    rintro ended g' ⟨h', fit', there⟩
    exact rest ended.1 h' there ended.2 g' fit'
  mono weaken yields state g fit := by
    refine J.mono ?_ (yields state g fit)
    rintro ended g' ⟨h', fit', there⟩
    exact ⟨h', fit', weaken ended.1 h' there⟩

/-- Nothing is used up. -/
def Judgment.Retains {m : Type → Type} [Monad m] {G α : Type} [Preorder G] (J : Judgment m G) (call : m α)
    (post : α → Prop) : Prop := ∀ g, J.Yields g call fun value g' => g ≤ g' ∧ post value

section
variable {m : Type → Type} [Monad m] {G α β : Type} [Preorder G] {J : Judgment m G}

theorem retains_pure {post : α → Prop} {value : α} (holds : post value) : J.Retains (pure value) post :=
  fun g => J.pure ⟨le_refl g, holds⟩

theorem retains_bind {middle : α → Prop} {post : β → Prop} {first : m α} {rest : α → m β} (retains : J.Retains first middle)
    (then_ : ∀ value, middle value → J.Retains (rest value) post) : J.Retains (first >>= rest) post := by
  intro g
  refine J.bind (retains g) ?_
  rintro value g' ⟨more, holds⟩
  refine J.mono ?_ (then_ value holds g')
  rintro value' g'' ⟨further, holds'⟩
  exact ⟨le_trans more further, holds'⟩

theorem retains_mono {post weaker : α → Prop} {call : m α} (weaken : ∀ value, post value → weaker value)
    (retains : J.Retains call post) : J.Retains call weaker :=
  fun g => J.mono (fun value _ there => ⟨there.1, weaken value there.2⟩) (retains g)

end

namespace Program

variable {Op : Type} {Ret : Op → Type} {G α β : Type}

/-- Which calls may be made while so much is left, what is left after each, and how it may be answered. -/
structure Meter (Op : Type) (Ret : Op → Type) (G : Type) where
  allowed : G → Op → Prop
  left : G → Op → G
  credible : (op : Op) → Ret op → Prop

/-- Every call is within the budget, and as long as the answers are credible the program ends in `post`. -/
def Yields (meter : Meter Op Ret G) (g : G) (program : Program Op Ret α) (post : α → G → Prop) : Prop :=
  match program with
  | done value => post value g
  | call op next => meter.allowed g op ∧
    ∀ answer, meter.credible op answer → Yields meter (meter.left g op) (next answer) post

theorem yields_mono {meter : Meter Op Ret G} {g : G} {post weaker : α → G → Prop} {program : Program Op Ret α}
    (weaken : ∀ value g', post value g' → weaker value g') (yields : program.Yields meter g post) :
    program.Yields meter g weaker := by
  induction program generalizing g with
  | done value => exact weaken value g yields
  | call op next ih => exact ⟨yields.1, fun answer likely => ih answer (yields.2 answer likely)⟩

theorem yields_bind {meter : Meter Op Ret G} {g : G} {middle : α → G → Prop} {post : β → G → Prop}
    {program : Program Op Ret α} {rest : α → Program Op Ret β} (first : program.Yields meter g middle)
    (then_ : ∀ value g', middle value g' → (rest value).Yields meter g' post) :
    (program >>= rest).Yields meter g post := by
  induction program generalizing g with
  | done value => exact then_ value g first
  | call op next ih => exact ⟨first.1, fun answer likely => ih answer (first.2 answer likely)⟩

theorem yields_lift {meter : Meter Op Ret G} {g : G} {post : α → G → Prop} {op : Op} {rest : Ret op → Program Op Ret α}
    (allowed : meter.allowed g op)
    (then_ : ∀ answer, meter.credible op answer → (rest answer).Yields meter (meter.left g op) post) :
    (lift op >>= rest).Yields meter g post := ⟨allowed, then_⟩

def judgment (meter : Meter Op Ret G) : Judgment (Program Op Ret) G where
  Yields g program post := program.Yields meter g post
  pure holds := holds
  bind first rest := yields_bind first rest
  mono weaken yields := yields_mono weaken yields

end Program

section
variable {Op : Type} {Ret : Op → Type} {G S α : Type} {step : Nat → (op : Op) → S → Ret op → S → Prop}
  {meter : Nat → Program.Meter Op Ret G} {post : Nat → α → G → Prop} {initial state : Running Op Ret S α}

/-- Programs that keep to their budgets keep an invariant that calls within the budgets keep, as long as answers are
credible under it. Those that are not `mine` are free. -/
theorem reachable_yields (inv : Running Op Ret S α → (Nat → G) → Prop) (mine : Nat → Prop) (budget : Nat → G)
    (answers : ∀ (s : Running Op Ret S α) (g : Nat → G) (i : Nat) (op : Op) (next : Ret op → Program Op Ret α)
      (answer : Ret op) (after : S), inv s g → s.tasks i = .call op next → (mine i → (meter i).allowed (g i) op) →
      step i op s.store answer after →
      Running.Reachable step ⟨after, fun j => if j = i then next answer else s.tasks j⟩ state →
      (mine i → (meter i).credible op answer) ∧
        inv ⟨after, fun j => if j = i then next answer else s.tasks j⟩ (Function.update g i ((meter i).left (g i) op)))
    (valid : inv initial budget) (yields : ∀ i, mine i → (initial.tasks i).Yields (meter i) (budget i) (post i))
    (reached : Running.Reachable step initial state) :
    ∃ g, inv state g ∧ ∀ i, mine i → (state.tasks i).Yields (meter i) (g i) (post i) := by
  -- the answers are credible in view of where the run ends, so the end stays fixed in the induction
  suffices runs : ∀ middle, Running.Reachable step initial middle → Running.Reachable step middle state →
      ∃ g, inv middle g ∧ ∀ i, mine i → (middle.tasks i).Yields (meter i) (g i) (post i) from runs state reached .initial
  intro middle reached
  induction reached with
  | initial => exact fun _ => ⟨budget, valid, yields⟩
  | step _ moved ih =>
    intro remains
    obtain ⟨g, valid, yields⟩ := ih ((Running.Reachable.step .initial moved).trans remains)
    obtain @⟨i, op, next, answer, after, pending, called⟩ := moved
    have here (own : mine i) : (Program.call op next).Yields (meter i) (g i) (post i) := pending ▸ yields i own
    obtain ⟨likely, stays⟩ := answers _ g i op next answer after valid pending (fun own => (here own).1) called remains
    refine ⟨_, stays, fun j own => ?_⟩
    by_cases same : j = i
    · subst same
      rw [Function.update_self]
      simpa only [if_true] using (here own).2 answer (likely own)
    · rw [Function.update_of_ne same]
      simpa only [same, if_false] using yields j own

end

end PetBackend.Library
