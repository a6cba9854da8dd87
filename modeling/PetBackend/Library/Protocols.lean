import PetBackend.Library.RelyGuarantee

/-!
# Protocols

What a program may call next, given the answers so far, and runs of several programs recorded call
by call.
-/

namespace PetBackend.Library

structure Protocol (Op : Type) (Ret : Op → Type) where
  State : Type
  allowed : State → Op → Prop
  next : State → (op : Op) → Ret op → State

namespace Program

variable {Op : Type} {Ret : Op → Type} {α β : Type}

/-- Every call of the program, whatever the answers, is among those allowed. -/
def Only (allowed : Op → Prop) : Program Op Ret α → Prop
  | done _ => True
  | call op next => allowed op ∧ ∀ answer, Only allowed (next answer)

def Obeys (P : Protocol Op Ret) : P.State → Program Op Ret α → Prop
  | _, done _ => True
  | p, call op next => P.allowed p op ∧ ∀ answer, Obeys P (P.next p op answer) (next answer)

/-- The operation is allowed and makes no difference to what is allowed next. -/
def Neutral (P : Protocol Op Ret) (p : P.State) (op : Op) : Prop :=
  P.allowed p op ∧ ∀ answer, P.next p op answer = p

variable {allowed : Op → Prop} {program : Program Op Ret α} {rest : α → Program Op Ret β}

theorem only_bind (first : program.Only allowed) (second : ∀ value, (rest value).Only allowed) :
    (program >>= rest).Only allowed := by
  induction program with
  | done value => exact second value
  | call op next ih => exact ⟨first.1, fun answer => ih answer (first.2 answer)⟩

variable {P : Protocol Op Ret} {p : P.State}

theorem obeys_only (neutral : ∀ op, allowed op → Neutral P p op) (only : program.Only allowed) :
    program.Obeys P p := by
  induction program with
  | done value => trivial
  | call op next ih =>
    obtain ⟨permitted, same⟩ := neutral op only.1
    refine ⟨permitted, fun answer => ?_⟩
    rw [same]
    exact ih answer (only.2 answer)

/-- What comes after may rely on nothing that the first program was answered. -/
theorem obeys_bind (first : program.Obeys P p) (second : ∀ value q, (rest value).Obeys P q) :
    (program >>= rest).Obeys P p := by
  induction program generalizing p with
  | done value => exact second value p
  | call op next ih => exact ⟨first.1, fun answer => ih answer (first.2 answer)⟩

theorem only_bind_obeys (neutral : ∀ op, allowed op → Neutral P p op) (first : program.Only allowed)
    (second : ∀ value, (rest value).Obeys P p) : (program >>= rest).Obeys P p := by
  induction program with
  | done value => exact second value
  | call op next ih =>
    obtain ⟨permitted, same⟩ := neutral op first.1
    refine ⟨permitted, fun answer => ?_⟩
    rw [same]
    exact ih answer (first.2 answer)

end Program

section
variable {Op : Type} {Ret : Op → Type} {S α : Type}

/-- A call that was made, and the store that it was made on. -/
structure Called (Op : Type) (Ret : Op → Type) (S : Type) where
  before : S
  task : Nat
  op : Op
  answer : Ret op

/-- The calls of a run, newest first. -/
inductive Running.Run (step : Nat → (op : Op) → S → Ret op → S → Prop) (initial : Running Op Ret S α) :
    List (Called Op Ret S) → Running Op Ret S α → Prop where
  | start : Run step initial [] initial
  | call {events : List (Called Op Ret S)} {state : Running Op Ret S α} {i : Nat} {op : Op}
      {next : Ret op → Program Op Ret α} {answer : Ret op} {after : S}
      (ran : Run step initial events state) (pending : state.tasks i = .call op next)
      (called : step i op state.store answer after) :
      Run step initial (⟨state.store, i, op, answer⟩ :: events)
        ⟨after, fun j => if j = i then next answer else state.tasks j⟩

variable {step : Nat → (op : Op) → S → Ret op → S → Prop} {initial middle state : Running Op Ret S α}
  {events later : List (Called Op Ret S)}

theorem Running.Run.reachable (ran : Run step initial events state) : Reachable step initial state := by
  induction ran with
  | start => exact .initial
  | call _ pending called ih => exact .step ih (.call pending called)

theorem Running.Reachable.recorded (reached : Reachable step initial state) : ∃ events, Run step initial events state := by
  induction reached with
  | initial => exact ⟨[], .start⟩
  | step _ moved ih =>
    obtain ⟨events, ran⟩ := ih
    obtain ⟨pending, called⟩ := moved
    exact ⟨_, .call ran pending called⟩

theorem Running.Run.append (first : Run step initial events middle) (second : Run step middle later state) :
    Run step initial (later ++ events) state := by
  induction second with
  | start => exact first
  | call _ pending called ih => exact .call ih pending called

/-- Where a task has got to in the protocol. -/
def Protocol.reached (P : Protocol Op Ret) (start : P.State) (i : Nat) :
    List (Called Op Ret S) → P.State
  | [] => start
  | e :: events =>
    if e.task = i then P.next (P.reached start i events) e.op e.answer else P.reached start i events

theorem Running.Run.obeys {P : Protocol Op Ret} {start : P.State}
    (obeys : ∀ i, (initial.tasks i).Obeys P start) (ran : Run step initial events state) (i : Nat) :
    (state.tasks i).Obeys P (P.reached start i events) := by
  induction ran with
  | start => exact obeys i
  | @call events state j op next answer after _ pending called ih =>
    unfold Protocol.reached
    by_cases mine : i = j
    · subst mine
      rw [pending] at ih
      simpa only [if_true] using ih.2 answer
    · simpa only [mine, Ne.symm mine, if_false] using ih

end

end PetBackend.Library
