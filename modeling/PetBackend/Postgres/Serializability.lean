import PetBackend.Library.Linearization
import PetBackend.Postgres.Books

/-!
# One after the other

The transactions that have committed are, in the order of their commits, a run of the ledger. READ COMMITTED is enough
for that: the constraints and the row locks decide the races, and a public id is never given up.
-/

namespace PetBackend.Postgres
open Library Persistence

/-! ### Calls that commit nothing -/

structure Quiet (d d' : Database) : Prop where
  users : d'.users.versions = d.users.versions
  organizations : d'.organizations.versions = d.organizations.versions
  memberships : d'.memberships.versions = d.memberships.versions

section
variable {i : Nat} {d d' : Database} {op : DbOp}

theorem failed_quiet (failed : Failed i d d') : Quiet d d' := by
  rcases failed with rfl | rfl <;> exact ⟨rfl, rfl, rfl⟩

theorem changes_quiet {answer : op.Ret} (changes : Changes i d op answer d') (other : op ≠ .commit) : Quiet d d' := by
  cases changes with
  | commit => exact (other rfl).elim
  | _ => exact ⟨rfl, rfl, rfl⟩

theorem Quiet.ledger (quiet : Quiet d d') (u : UnicodeData) : d'.ledger u = d.ledger u :=
  ledger_same quiet.users quiet.organizations quiet.memberships

theorem Quiet.lost (quiet : Quiet d d') (lost : Lost i d) : Lost i d' where
  users id row member := lost.users id row (quiet.users ▸ member)
  organizations id o member := lost.organizations id o (quiet.organizations ▸ member)
  memberships mid m member := lost.memberships mid m (quiet.memberships ▸ member)

end

section
variable {server : Server} {u : UnicodeData} {autoflush : Bool} {jobs : Nat → Job} {i : Nat} {d : Database}
  {state : Running DbOp DbOp.Ret Database (Except Exc JobResult)}

/-- The server that does whatever this one is permitted. -/
def Server.widest (server : Server) : Server where
  nameCanonical := server.nameCanonical
  step := Permits server.nameCanonical
  conforms permitted := permitted

theorem widest_reachable (reached : Reachable server u autoflush jobs state) :
    Reachable server.widest u autoflush jobs state := by
  unfold Reachable at reached ⊢
  induction reached with
  | initial => exact .initial
  | step _ moved ih =>
    obtain ⟨pending, called⟩ := moved
    exact .step ih (.call pending (server.conforms called))

theorem won_discard {result : JobResult} (won : Won jobs i result (d.discard i)) : Won jobs i result d := by
  unfold Won at won ⊢
  cases job : jobs i with
  | provisionUser principal uuidGen =>
    rw [job] at won
    cases result <;> exact won
  | createOrganization cmd uuidGen =>
    rw [job] at won
    cases result with
    | user user created => exact won
    | organization publicId =>
      obtain ⟨id, mid, o, m, founds⟩ := won
      exact ⟨id, mid, o, m, ⟨founds.organization, founds.founder, founds.publicId, founds.onlyOrganization,
        founds.membership, founds.author, founds.org, founds.onlyMembership⟩⟩

/-- What is returned after a commit is committed by it: the close that is left could succeed. -/
theorem commit_won (reached : Reachable server u autoflush jobs state)
    {next : Except Exc Unit → Program DbOp DbOp.Ret (Except Exc JobResult)} {result : JobResult}
    (pending : state.tasks i = .call .commit next)
    (closes : next (.ok ()) = .call .close fun _ => .done (.ok result)) : Won jobs i result (state.store.commit i) := by
  have permitted : server.widest.step i .commit state.store (.ok ()) (state.store.commit i) := rfl
  have committed := (widest_reachable reached).step (.call pending permitted)
  have closing : server.widest.step i .close (state.store.commit i) () ((state.store.commit i).discard i) := rfl
  have closed := committed.step (.call ((if_pos rfl).trans closes) closing)
  have ended := ended_settled (i := i) closed (if_pos rfl)
  exact won_discard ended

def Undecided (i : Nat) (program : Program DbOp DbOp.Ret (Except Exc JobResult)) (d : Database) : Prop :=
  Uncommitted program ∧ Lost i d

theorem undecided_acts (reached : Reachable server u autoflush jobs state) {op : DbOp}
    {next : op.Ret → Program DbOp DbOp.Ret (Except Exc JobResult)} {answer : op.Ret} {after : Database}
    (pending : state.tasks i = .call op next) (called : server.step i op state.store answer after)
    (undecided : Undecided i (.call op next) state.store) :
    after.ledger u = state.store.ledger u ∧ Undecided i (next answer) after ∨
      ∃ result, (jobs i).Effect u server.nameCanonical (state.store.ledger u) result (after.ledger u) ∧
        Committed result (next answer) := by
  obtain ⟨uncommitted, lost⟩ := undecided
  have permitted := server.conforms called
  cases uncommitted with
  | call other rest =>
    have quiet := changes_quiet (permits_changes permitted) other
    exact Or.inl ⟨quiet.ledger u, rest answer, quiet.lost lost⟩
  | @commit _ result closes failed =>
    cases answer with
    | error raised =>
      have quiet := failed_quiet permitted
      exact Or.inl ⟨quiet.ledger u, failed raised, quiet.lost lost⟩
    | ok =>
      have committed : after = state.store.commit i := permitted
      subst committed
      have valid := (reachable_jobs_sound (Running.Reachable.step reached (.call pending called))).inv
      refine Or.inr ⟨result, commit_effect (reachable_books reached) valid lost (commit_won reached pending closes), ?_⟩
      rw [closes]
      exact .closing

theorem jobs_linearize : Linearizes server.step (initial u autoflush jobs) (Database.ledger u)
    (fun i ledger => (jobs i).Effect u server.nameCanonical ledger) Undecided fun _ => Committed where
  starts i := ⟨task_uncommitted (jobs i), empty_lost i⟩
  acts reached pending called undecided := undecided_acts reached pending called undecided
  rests called committed := by
    cases committed with
    | closing => exact ⟨(changes_quiet (permits_changes (server.conforms called)) nofun).ledger u, .returned⟩
  others reached pending called other undecided := by
    have spared := (reachable_jobs_sound reached).guaranteed setting_compatible pending called
    exact ⟨undecided.1, (lost_endures _).spared (spared _ (Ne.symm other)) undecided.2⟩

end

end PetBackend.Postgres
