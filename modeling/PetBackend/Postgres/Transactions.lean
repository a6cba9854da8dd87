import PetBackend.Postgres.Invariant

/-!
# One transaction among others

What the executor makes of a handler: from the handler's own pre- and postcondition to that of the
whole run.
-/

namespace PetBackend.Postgres
open Library Persistence Py

/-- An assertion of run `i` that neither the others nor a discard of its own writes can break. -/
structure Endures (i : Nat) (holds : Database → Prop) : Prop where
  spared : ∀ {d d'}, Spares i d d' → holds d → holds d'
  discarded : ∀ {d}, holds d → holds (d.discard i)

/-- Run `i` has committed nothing. -/
structure Lost (i : Nat) (d : Database) : Prop where
  users : ∀ id row, row ∈ d.users.versions id → row.writtenBy ≠ i
  organizations : ∀ id row, row ∈ d.organizations.versions id → row.writtenBy ≠ i
  memberships : ∀ id row, row ∈ d.memberships.versions id → row.writtenBy ≠ i

structure Idle (i : Nat) (d : Database) : Prop where
  users : ∀ id, d.users.own i id = none
  organizations : ∀ id, d.organizations.own i id = none
  memberships : ∀ id, d.memberships.own i id = none

/-- How a run has to end: with what its value stands for committed, or with nothing. -/
def Settled {α : Type} (i : Nat) (won : α → Database → Prop) : Except Exc α → Database → Prop
  | .ok value, d => won value d
  | .error _, d => Lost i d

/-- How code that lets every failure propagate ends. -/
def Handled {α : Type} (i : Nat) (post : α → SessionState → Database → Prop) :
    Except Exc α → SessionState → Database → Prop
  | .ok value, σ, d => post value σ d
  | .error _, _, d => Lost i d

def Opened (uow : UnitOfWork) : Prop :=
  uow.session = some 0 ∧ uow.orgs = some 0 ∧ uow.users = some 0 ∧ uow.memberships = some 0

theorem lost_endures (i : Nat) : Endures i (Lost i) where
  spared spared lost :=
    ⟨fun id row member mine => lost.users id row (spared.users.mine member mine) mine,
      fun id row member mine => lost.organizations id row (spared.organizations.mine member mine) mine,
      fun id row member mine => lost.memberships id row (spared.memberships.mine member mine) mine⟩
  discarded lost := ⟨lost.users, lost.organizations, lost.memberships⟩

theorem idle_endures (i : Nat) : Endures i (fun d => Idle i d ∧ Lost i d) where
  spared spared before := by
    refine ⟨⟨fun id => ?_, fun id => ?_, fun id => ?_⟩, (lost_endures i).spared spared before.2⟩
    · rw [spared.users.own]
      exact before.1.users id
    · rw [spared.organizations.own]
      exact before.1.organizations id
    · rw [spared.memberships.own]
      exact before.1.memberships id
  discarded before := by
    refine ⟨⟨fun id => ?_, fun id => ?_, fun id => ?_⟩, (lost_endures i).discarded before.2⟩ <;>
      simp [Database.discard]

section
variable {server : Server} {jobs : Nat → Job} {i : Nat} {holds : Database → Prop} {d : Database}
  {σ : SessionState} {autoflush : Bool} {uow : UnitOfWork} {α : Type} {u : UnicodeData}

theorem Endures.lasts (endures : Endures i holds) (now : holds d) :
    Lasts (setting server jobs i) holds d := fun _ moved _ => endures.spared moved now

theorem Endures.failed (endures : Endures i holds) {d' : Database} (now : holds d)
    (failed : Failed i d d') : holds d' := by
  rcases failed with rfl | rfl
  · exact now
  · exact endures.discarded now

theorem failed_lost {d' : Database} (valid : Inv server jobs d) (lost : Lost i d)
    (failed : Failed i d d') :
    (∀ j, i ≠ j → Spares j d d') ∧ Inv server jobs d' ∧ Lasts (setting server jobs i) (Lost i) d' := by
  obtain ⟨others, stays⟩ := kept_failed valid failed
  exact ⟨others, stays, (lost_endures i).lasts ((lost_endures i).failed lost failed)⟩

/-- A statement in the middle of a handler: what holds before it still does when it is sent, and its
failure loses the run. -/
theorem calls_statement {statement : Statement} {post : statement.Result → SessionState → Database → Prop}
    (now : holds d) (spared : ∀ {t}, Spares i d t → holds d → holds t) (lost : ∀ {t}, holds t → Lost i t)
    (succeeds : ∀ t result after, holds t → Inv server jobs t →
      Permits server.nameCanonical i (.execute statement) t (.ok result) after →
      (∀ j, i ≠ j → Spares j t after) ∧ Inv server jobs after ∧
        Lasts (setting server jobs i) (post result σ) after) :
    Calls (setting server jobs i) (dbCall (.execute statement)) (Handled i post) σ d := by
  refine calls_dbCall fun t moved valid answer after called => ?_
  have there : holds t := spared moved now
  have permitted := server.conforms called
  cases answer with
  | error raised => exact failed_lost valid (lost there) (statement_failed permitted)
  | ok result => exact succeeds t result after there valid permitted

/-! ### Cleaning up -/

theorem calls_rollback (endures : Endures i holds) (now : holds d) (valid : Inv server jobs d)
    (s : SessionId) :
    Calls (setting server jobs i) ((asyncSession autoflush).rollback s) (fun _ _ t => holds t) σ d := by
  refine calls_bind valid (calls_set fun d' moved' _ _ => ?_)
  refine calls_dbCall fun t moved valid answer after called => ?_
  have there := endures.spared moved (endures.spared moved' now)
  have failed : Failed i t after := by
    have permitted := server.conforms called
    cases answer with
    | ok => exact Or.inr permitted
    | error raised => exact permitted
  obtain ⟨others, stays⟩ := kept_failed valid failed
  exact ⟨others, stays, endures.lasts (endures.failed there failed)⟩

theorem calls_close (endures : Endures i holds) (now : holds d) (valid : Inv server jobs d)
    (s : SessionId) : Calls (setting server jobs i) ((asyncSession autoflush).close s)
      (fun outcome _ t => outcome = .ok () ∧ holds t) σ d := by
  refine calls_bind valid (calls_set fun d' moved' valid' _ => ?_)
  refine calls_bind valid' (calls_dbCall fun t moved valid answer after called => ?_)
  have there := endures.spared moved (endures.spared moved' now)
  have closed : after = t.discard i := server.conforms called
  subst closed
  obtain ⟨others, stays⟩ := kept_discard (i := i) valid
  refine ⟨others, stays, fun t' later _ _ => calls_pure fun t'' latest _ => ⟨rfl, ?_⟩⟩
  exact endures.spared latest (endures.spared later (endures.discarded there))

theorem ends_rollbackAfterFailure (endures : Endures i holds) (now : holds d)
    (valid : Inv server jobs d) (opened : Opened uow) :
    Ends (setting server jobs i) (rollbackAfterFailure (asyncSession autoflush))
      (fun _ uow _ t => Opened uow ∧ holds t) uow σ d := by
  refine ends_exceptDriver valid (ends_accessor opened.1 valid (ends_bind valid (ends_await valid ?_)))
  refine calls_mono ?_ (calls_rollback endures now valid 0)
  rintro (raised | _) σ t stays there
  · cases raised with
    | driver e => exact fun _ => ends_pure fun t' moved _ => ⟨opened, endures.spared moved there⟩
    | _ => exact ⟨opened, there⟩
  · exact fun _ => ends_write fun t' moved _ => ⟨opened, endures.spared moved there⟩

theorem ends_closingRollback (endures : Endures i holds) (now : holds d) (valid : Inv server jobs d)
    (opened : Opened uow) (s : SessionId) (exc : Option Exc) :
    Ends (setting server jobs i) (closingRollback (asyncSession autoflush) s exc)
      (fun outcome uow _ t => Opened uow ∧ holds t ∧ (exc = none → outcome = .ok ())) uow σ d := by
  refine ends_exceptDriver valid (ends_bind valid (ends_read fun t moved valid' _ => ?_))
  have there := endures.spared moved now
  cases exc with
  | none => exact ends_pure fun t' moved' _ => ⟨opened, endures.spared moved' there, fun _ => rfl⟩
  | some raised =>
    cases uow.rolledBack with
    | true => exact ends_pure fun t' moved' _ => ⟨opened, endures.spared moved' there, by simp⟩
    | false =>
      refine ends_await valid' (calls_mono ?_ (calls_rollback endures there valid' s))
      rintro (raised | _) σ t'' stays last
      · cases raised with
        | driver e => exact fun _ => ends_raise fun t' moved' _ =>
            ⟨opened, endures.spared moved' last, by simp⟩
        | _ => exact ⟨opened, last, by simp⟩
      · exact ⟨opened, last, by simp⟩

theorem ends_aexit (endures : Endures i holds) (now : holds d) (valid : Inv server jobs d)
    (opened : Opened uow) (exc : Option Exc) :
    Ends (setting server jobs i) (aexit (asyncSession autoflush) exc)
      (fun outcome _ _ t => holds t ∧ (exc = none → outcome = .ok ())) uow σ d := by
  refine ends_bind valid (ends_read fun t moved valid' => ?_)
  simp only [opened.1]
  intro _
  refine ends_bind valid' (ends_attempt valid' ?_)
  refine ends_mono ?_ (ends_closingRollback endures (endures.spared moved now) valid' opened 0 exc)
  rintro outcome uow' σ' t' stays ⟨opened', there, quiet⟩ _
  refine ends_accessor opened'.1 stays (ends_bind stays (ends_await stays ?_))
  refine calls_mono ?_ (calls_close endures there stays 0)
  rintro closed σ'' t'' stays' ⟨rfl, last⟩ _
  refine ends_bind stays' (ends_write fun t₃ moved₃ valid₃ _ => ?_)
  exact ends_settle fun t₄ moved₄ _ =>
    ⟨endures.spared moved₄ (endures.spared moved₃ last), quiet⟩

/-! ### Statements -/

theorem calls_execute_idle {s : SessionId} {statement : Statement}
    {post : Except Exc statement.Result → SessionState → Database → Prop}
    (safe : Calls (setting server jobs i) (dbCall (.execute statement)) post {} d) :
    Calls (setting server jobs i) ((asyncSession autoflush).execute s statement) post {} d := by
  have same : ((asyncSession autoflush).execute s statement).run {} =
      (dbCall (.execute statement)).run {} := by
    cases autoflush <;> rfl
  unfold Calls
  rw [same]
  exact safe

/-- What run `i` has to have written to commit it. -/
structure Prepared (jobs : Nat → Job) (i : Nat) (ready won : Database → Prop) : Prop where
  spared : ∀ {d d'}, Spares i d d' → ready d → ready d'
  lost : ∀ {d}, ready d → Lost i d
  committable : ∀ {d}, ready d → Committable jobs i d
  wins : ∀ {d}, ready d → won (d.commit i)

theorem calls_commit {ready won : Database → Prop} (prepared : Prepared jobs i ready won)
    (endures : Endures i won) (now : ready d) : Calls (setting server jobs i) (dbCall .commit)
      (fun outcome _ t => Settled i (fun _ => won) outcome t) σ d := by
  refine calls_dbCall fun t moved valid answer after called => ?_
  have there := prepared.spared moved now
  have permitted := server.conforms called
  cases answer with
  | ok =>
    have committed : after = t.commit i := permitted
    subst committed
    obtain ⟨others, stays⟩ := kept_commit valid (prepared.committable there)
    exact ⟨others, stays, endures.lasts (prepared.wins there)⟩
  | error raised => exact failed_lost valid (prepared.lost there) permitted

/-- A statement of a repository: every failure of it loses the run. -/
theorem ends_repoExecute {statement : Statement} {post : statement.Result → SessionState → Database → Prop}
    (valid : Inv server jobs d) (opened : Opened uow) (safe : Calls (setting server jobs i)
      ((asyncSession autoflush).execute 0 statement) (Handled i post) σ d) :
    Ends (setting server jobs i) (repoExecute (asyncSession autoflush) 0 statement)
      (fun outcome uow σ t => Opened uow ∧ Handled i post outcome σ t) uow σ d := by
  refine ends_exceptDriver valid (ends_await valid (calls_mono ?_ safe))
  rintro (raised | result) σ' t stays there
  · cases raised with
    | driver e => exact fun _ => ends_raise fun t' moved _ => ⟨opened, (lost_endures i).spared moved there⟩
    | _ => exact ⟨opened, there⟩
  · exact ⟨opened, there⟩

theorem ends_raised {raised : Exc} {post : α → SessionState → Database → Prop} (opened : Opened uow)
    (lost : Lost i d) : Ends (setting server jobs i)
      (runHandler (u := u) (asyncSession autoflush) (.done (.error raised)))
      (fun outcome uow σ t => Opened uow ∧ Handled i post outcome σ t) uow σ d :=
  ends_settle fun _ moved _ => ⟨opened, (lost_endures i).spared moved lost⟩

/-! ### The executor -/

theorem calls_aenter (endures : Endures i holds) (now : holds d) :
    Calls (setting server jobs i) (aenter (asyncSession autoflush) {})
      (fun ended σ t => ended.1 = .ok () ∧ Opened ended.2 ∧ σ = {} ∧ holds t) σ d :=
  fun _ moved _ => ⟨rfl, ⟨rfl, rfl, rfl, rfl⟩, rfl, endures.spared moved now⟩

section
variable {won : α → Database → Prop} {ready : α → SessionState → Database → Prop}
  (commits : ∀ value σ d, Inv server jobs d → ready value σ d → Calls (setting server jobs i)
    ((asyncSession autoflush).commit 0) (fun outcome _ t => Settled i (fun _ => won value) outcome t) σ d)
include commits

theorem ends_commit {value : α} (prepared : ready value σ d) (valid : Inv server jobs d)
    (opened : Opened uow) : Ends (setting server jobs i) (commit (asyncSession autoflush))
      (fun outcome uow _ t => Opened uow ∧ Settled i (fun _ => won value) outcome t) uow σ d := by
  refine ends_exceptDriver valid (ends_accessor opened.1 valid (ends_await valid ?_))
  refine calls_mono ?_ (commits value σ d valid prepared)
  rintro (raised | _) σ' t stays settled
  · cases raised with
    | driver e =>
      intro _
      refine ends_bind stays (ends_mono ?_
        (ends_rollbackAfterFailure (lost_endures i) settled stays opened))
      rintro (raised | _) uow' σ'' t' stays' ⟨opened', lost⟩
      · exact ⟨opened', lost⟩
      · exact fun _ => ends_raise fun t'' moved _ => ⟨opened', (lost_endures i).spared moved lost⟩
    | _ => exact ⟨opened, settled⟩
  · exact ⟨opened, settled⟩

variable (endures : ∀ value, Endures i (won value))
include endures

theorem ends_transaction {handler : HandlerProgram u α} (valid : Inv server jobs d)
    (handled : Ends (setting server jobs i) (runHandler (asyncSession autoflush) handler)
      (fun outcome uow σ t => Opened uow ∧ Handled i ready outcome σ t) uow σ d) :
    Ends (setting server jobs i) (transaction (asyncSession autoflush) handler)
      (fun outcome uow _ t => Opened uow ∧ Settled i won outcome t) uow σ d := by
  refine ends_bind valid (ends_mono ?_ handled)
  rintro (raised | value) uow' σ' t stays ⟨opened, there⟩
  · exact ⟨opened, there⟩
  · intro _
    refine ends_bind stays (ends_mono ?_ (ends_commit commits there stays opened))
    rintro (raised | _) uow'' σ'' t' stays' ⟨opened', settled⟩
    · exact ⟨opened', settled⟩
    · exact fun _ => ends_pure fun t'' moved _ => ⟨opened', (endures value).spared moved settled⟩

theorem ends_withBody {handler : HandlerProgram u α} (valid : Inv server jobs d)
    (handled : Ends (setting server jobs i) (runHandler (asyncSession autoflush) handler)
      (fun outcome uow σ t => Opened uow ∧ Handled i ready outcome σ t) uow σ d) :
    Ends (setting server jobs i) (withBody (asyncSession autoflush) handler)
      (fun outcome uow _ t => Opened uow ∧ Settled i won outcome t) uow σ d := by
  refine ends_bind valid (ends_attempt valid ?_)
  refine ends_mono ?_ (ends_transaction commits endures valid handled)
  rintro (raised | value) uow' σ' t stays ⟨opened, settled⟩ _
  · exact ends_raise fun t' moved _ => ⟨opened, (lost_endures i).spared moved settled⟩
  · exact ends_pure fun t' moved _ => ⟨opened, (endures value).spared moved settled⟩

/-- A run ends settled if its handler does its part. -/
theorem calls_run {handler : HandlerProgram u α} (idle : Idle i d) (lost : Lost i d)
    (valid : Inv server jobs d)
    (handled : ∀ uow d, Opened uow → Idle i d → Lost i d → Inv server jobs d →
      Ends (setting server jobs i) (runHandler (asyncSession autoflush) handler)
        (fun outcome uow σ t => Opened uow ∧ Handled i ready outcome σ t) uow {} d) :
    Calls (setting server jobs i) (run (asyncSession autoflush) handler)
      (fun outcome _ t => Settled i won outcome t) σ d := by
  refine calls_bind valid (calls_mono ?_ (calls_aenter (idle_endures i) ⟨idle, lost⟩))
  rintro ⟨started, uow⟩ σ t stays ⟨rfl, opened, rfl, idle, lost⟩ _
  refine calls_bind stays (calls_mono ?_
    (ends_withBody commits endures stays (handled uow t opened idle lost stays)))
  rintro ⟨outcome, uow'⟩ σ' t' stays' ⟨opened', settled⟩ _
  cases outcome with
  | ok value =>
    refine calls_bind stays' (calls_mono ?_ (ends_aexit (endures value) settled stays' opened' none))
    rintro ⟨closed, uow''⟩ σ'' t'' stays'' ⟨there, quiet⟩ _
    rw [show closed = .ok () from quiet rfl]
    exact calls_pure fun t₃ moved _ => (endures value).spared moved there
  | error raised =>
    refine calls_bind stays' (calls_mono ?_
      (ends_aexit (lost_endures i) settled stays' opened' (some raised)))
    rintro ⟨closed, uow''⟩ σ'' t'' stays'' ⟨there, _⟩ _
    cases closed with
    | ok => exact calls_pure fun t₃ moved _ => (lost_endures i).spared moved there
    | error replacing => exact calls_pure fun t₃ moved _ => (lost_endures i).spared moved there

end

end

end PetBackend.Postgres
