/-!
# Programs over an interface

A computation that calls the operations of an interface one at a time and may go on as it likes
from each answer.
-/

namespace PetBackend.Library

inductive Program (Op : Type) (Ret : Op → Type) (α : Type) where
  | done (value : α)
  | call (op : Op) (next : Ret op → Program Op Ret α)

namespace Program

variable {Op : Type} {Ret : Op → Type} {α β γ : Type}

def bind : Program Op Ret α → (α → Program Op Ret β) → Program Op Ret β
  | done value, rest => rest value
  | call op next, rest => call op (fun answer => (next answer).bind rest)

instance : Monad (Program Op Ret) where
  pure := done
  bind := bind

def lift (op : Op) : Program Op Ret (Ret op) := call op done

@[simp] theorem call_bind (op : Op) (next : Ret op → Program Op Ret α)
    (rest : α → Program Op Ret β) :
    call op next >>= rest = call op (fun answer => next answer >>= rest) := rfl

theorem bind_done (program : Program Op Ret α) : program >>= done = program := by
  induction program with
  | done value => rfl
  | call op next ih =>
    rw [call_bind]
    congr 1
    funext answer
    exact ih answer

theorem bind_assoc (program : Program Op Ret α) (first : α → Program Op Ret β)
    (second : β → Program Op Ret γ) :
    program >>= first >>= second = program >>= fun value => first value >>= second := by
  induction program with
  | done value => rfl
  | call op next ih =>
    simp only [call_bind]
    congr 1
    funext answer
    exact ih answer

instance : LawfulMonad (Program Op Ret) := LawfulMonad.mk'
  _ (fun program => bind_done program) (fun _ _ => rfl) bind_assoc

/-! ### Traces -/

/-- The calls of a run to the end, with their answers, and what it ends in. -/
inductive Traces : Program Op Ret α → List (Sigma Ret) → α → Prop where
  | done (value : α) : Traces (done value) [] value
  | call {op : Op} {next : Ret op → Program Op Ret α} (answer : Ret op) {trace : List (Sigma Ret)} {value : α}
      (rest : Traces (next answer) trace value) : Traces (call op next) (⟨op, answer⟩ :: trace) value

theorem traces_pure {value result : α} {trace : List (Sigma Ret)}
    (traces : (pure value : Program Op Ret α).Traces trace result) : trace = [] ∧ result = value := by
  cases traces
  exact ⟨rfl, rfl⟩

theorem traces_lift {op : Op} {rest : Ret op → Program Op Ret α} {trace : List (Sigma Ret)} {result : α}
    (traces : (lift op >>= rest).Traces trace result) :
    ∃ answer later, trace = ⟨op, answer⟩ :: later ∧ (rest answer).Traces later result := by
  cases traces with
  | call answer rest => exact ⟨answer, _, rfl, rest⟩

theorem traces_bind {program : Program Op Ret α} {rest : α → Program Op Ret β} {trace : List (Sigma Ret)} {result : β}
    (traces : (program >>= rest).Traces trace result) :
    ∃ value before later, trace = before ++ later ∧ program.Traces before value ∧ (rest value).Traces later result := by
  induction program generalizing trace with
  | done value => exact ⟨value, [], trace, rfl, .done value, traces⟩
  | call op next ih =>
    cases traces with
    | call answer traces =>
      obtain ⟨value, before, later, rfl, first, second⟩ := ih answer traces
      exact ⟨value, _, later, rfl, .call answer first, second⟩

end Program

end PetBackend.Library
