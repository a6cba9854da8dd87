import PetBackend.Postgres.Requests

/-!
# Where a transaction is decided

A transaction commits once at most, and what it returns is what it has committed: until then it can only fail, and
from then on it can only succeed.
-/

namespace PetBackend.Postgres
open Library Persistence Py

variable {α β γ : Type}

/-- Nothing is committed yet. A commit that succeeds is followed by the close and the return. -/
inductive Uncommitted : Program DbOp DbOp.Ret (Except Exc α) → Prop where
  | raised (raised : Exc) : Uncommitted (.done (.error raised))
  | call {op : DbOp} {next : op.Ret → Program DbOp DbOp.Ret (Except Exc α)} (other : op ≠ .commit)
    (rest : ∀ answer, Uncommitted (next answer)) : Uncommitted (.call op next)
  | commit {next : Except Exc Unit → Program DbOp DbOp.Ret (Except Exc α)} {result : α}
    (committed : next (.ok ()) = .call .close fun _ => .done (.ok result))
    (failed : ∀ raised, Uncommitted (next (.error raised))) : Uncommitted (.call .commit next)

inductive Committed (result : α) : Program DbOp DbOp.Ret (Except Exc α) → Prop where
  | closing : Committed result (.call .close fun _ => .done (.ok result))
  | returned : Committed result (.done (.ok result))

theorem uncommitted_open {program : Program DbOp DbOp.Ret (Except Exc α)} {result : α}
    (uncommitted : Uncommitted program) : ¬ Committed result program := by
  rintro (_ | _)
  · cases uncommitted with
    | call _ rest => cases rest ()
  · cases uncommitted

/-- Everything is expected but a commit. -/
def uncommitting : Expected := { anything (fun _ => True) with commits := False }

theorem uncommitting_likely (op : DbOp) (answer : op.Ret) : (dbMeter uncommitting).credible op answer :=
  @anything_likely (fun _ => True) op answer

theorem uncommitted_yields {program : Program DbOp DbOp.Ret γ} {g : Nat} {post : γ → Nat → Prop}
    {rest : γ → Program DbOp DbOp.Ret (Except Exc α)} (yields : program.Yields (dbMeter uncommitting) g post)
    (then_ : ∀ value g', post value g' → Uncommitted (rest value)) : Uncommitted (program >>= rest) := by
  induction program generalizing g with
  | done value => exact then_ value g yields
  | call op next ih =>
    refine .call ?_ fun answer => ih answer (yields.2 answer (uncommitting_likely op answer))
    rintro rfl
    exact yields.1

/-- Code on a session that commits nothing. -/
theorem uncommitted_session {call : SessionM γ} {h : Nat} {post : γ → Nat → Prop} {σ : SessionState}
    {rest : γ × SessionState → Program DbOp DbOp.Ret (Except Exc α)}
    (yields : (sessionJudgment uncommitting).Yields h call post)
    (then_ : ∀ value σ' h', post value h' → Uncommitted (rest (value, σ'))) : Uncommitted (call.run σ >>= rest) := by
  have fits : Pends uncommitting h σ (σ.new.length + h) := ⟨fun _ _ => trivial, le_refl _⟩
  refine uncommitted_yields (yields σ _ fits) ?_
  rintro ⟨value, σ'⟩ g ⟨h', -, holds⟩
  exact then_ value σ' h' holds

/-! ### The executor -/

section
variable {u : UnicodeData} {autoflush : Bool} {σ : SessionState}

/-- What `run` does with the outcome of its body. -/
def closed (autoflush : Bool) (outcome : Except Exc α) (uow : UnitOfWork) : SessionM (Except Exc α) := do
  match outcome with
  | .ok result =>
    let (closed, _) ← aexit (asyncSession autoflush) none uow
    return closed.map (fun _ => result)
  | .error raised =>
    let (closed, _) ← aexit (asyncSession autoflush) (some raised) uow
    match closed with
    | .ok () => return .error raised
    | .error replacing => return .error replacing

theorem run_closed (handler : HandlerProgram u α) : run (asyncSession autoflush) handler = (do
    match ← aenter (asyncSession autoflush) {} with
    | (.error raised, _) => return .error raised
    | (.ok (), uow) =>
      let (outcome, uow) ← withBody (asyncSession autoflush) handler uow
      closed autoflush outcome uow) := by
  unfold run
  congr 1
  funext ended
  rcases ended with ⟨raised | _, uow⟩ <;> rfl

def outcome (ended : Except Exc α × SessionState) : Program DbOp DbOp.Ret (Except Exc α) := .done ended.1

theorem closed_failed (raised : Exc) (uow : UnitOfWork) :
    Uncommitted ((closed autoflush (.error raised : Except Exc α) uow).run σ >>= outcome) := by
  unfold closed
  simp only [StateT.run_bind, bind_assoc]
  refine uncommitted_session (judged_aexit (asyncSession_conforms uncommitting autoflush) (some raised) uow 0) ?_
  rintro ⟨replacing | _, uow'⟩ σ' h' -
  · exact .raised replacing
  · exact .raised raised

theorem closed_committed {uow : UnitOfWork} {s : SessionId} (active : uow.session = some s) (result : α) :
    (closed autoflush (.ok result) uow).run σ >>= outcome = .call .close fun _ => .done (.ok result) := by
  obtain ⟨session, orgs, users, memberships, rolledBack⟩ := uow
  cases active
  rfl

theorem asyncSession_commit (s : SessionId) : (asyncSession autoflush).commit s = (do
    match ← flushPending with
    | .ok () => dbCall .commit
    | .error raised => return .error raised) := rfl

theorem commitAnswered_failed (raised : Exc) (uow : UnitOfWork)
    {rest : (Except Exc Unit × UnitOfWork) × SessionState → Program DbOp DbOp.Ret (Except Exc α)}
    (failed : ∀ raised uow σ, Uncommitted (rest ((.error raised, uow), σ))) :
    Uncommitted ((commitAnswered (asyncSession autoflush) (.error raised) uow).run σ >>= rest) := by
  cases raised with
  | driver e =>
    simp only [commitAnswered, code_run, StateT.run_bind, bind_assoc]
    refine uncommitted_session (judged_rollbackAfterFailure (asyncSession_conforms uncommitting autoflush) uow 0) ?_
    rintro ⟨raised | _, uow'⟩ σ' h -
    · exact failed raised uow' σ'
    · exact failed (.persistence (determineExc e)) uow' σ'
  | _ => exact failed _ uow σ

/-- A commit that is answered is the one that decides. -/
theorem commit_decides (result : α) {uow : UnitOfWork}
    {rest : (Except Exc Unit × UnitOfWork) × SessionState → Program DbOp DbOp.Ret (Except Exc α)}
    (failed : ∀ raised uow σ, Uncommitted (rest ((.error raised, uow), σ)))
    (closes : ∀ uow σ s, uow.session = some s → rest ((.ok (), uow), σ) = .call .close fun _ => .done (.ok result)) :
    Uncommitted ((commit (asyncSession autoflush) uow).run σ >>= rest) := by
  rw [commit_run]
  cases active : uow.session with
  | none => exact failed _ uow σ
  | some s =>
    simp only [asyncSession_commit, StateT.run_bind, bind_assoc]
    refine uncommitted_session (retains_flushPending 0) ?_
    rintro (raised | _) σ' h -
    · exact commitAnswered_failed raised uow failed
    · exact .commit (closes uow σ' s active) fun raised => commitAnswered_failed raised uow failed

theorem run_uncommitted {handler : HandlerProgram u α} (meets : handler.Meets uncommitting 1 fun _ => True) :
    Uncommitted ((run (asyncSession autoflush) handler).run σ >>= outcome) := by
  have conforms := asyncSession_conforms uncommitting autoflush
  rw [run_closed]
  simp only [StateT.run_bind, bind_assoc]
  refine uncommitted_session (judged_aenter conforms {} 1) ?_
  rintro ⟨raised | _, uow⟩ σ h ⟨enough, -⟩
  · exact .raised raised
  · simp only [withBody_run, bind_assoc, StateT.run_bind]
    refine uncommitted_session (adds_runHandler conforms meets uow h enough) ?_
    rintro ⟨raised | result, uow⟩ σ h -
    · exact closed_failed (translated raised) uow
    · simp only [StateT.run_bind, bind_assoc]
      refine commit_decides result ?_ ?_
      · exact fun raised uow σ => closed_failed (translated raised) uow
      · exact fun uow σ s active => closed_committed active result

theorem task_uncommitted (job : Job) : Uncommitted (job.task u autoflush) := by
  have meets : (job.handler u).Meets uncommitting 1 fun _ => True :=
    handler_meets (fun _ _ => trivial) (fun _ _ => trivial) trivial fun _ => trivial
  exact run_uncommitted meets

end

end PetBackend.Postgres
