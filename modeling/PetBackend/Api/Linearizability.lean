import PetBackend.Api.Creations
import PetBackend.Postgres.Serializability

/-!
# One at a time

Requests are served at once, on several connections of one database. To their clients it is as if they came one after
the other, each to the ledger that the ones before it had left.
-/

namespace PetBackend.Api
open Library Auth Persistence Postgres Outcome

variable {K : Type}

/-- A run, which is looked at from time to time. -/
structure Service.Run (a : App K) (states : Nat → Service K) : Prop where
  starts : ∃ keys, Booted a keys ∧ states 0 = Service.initial keys
  moves : ∀ n, Relation.ReflTransGen (Service.Step a) (states n) (states (n + 1))

/-- What request `i` was verified to ask for, done to a ledger that nobody else is at. -/
def Serves (a : App K) (s : Service K) (i : Nat) (ledger : Ledger a.unicode) (result : JobResult)
    (later : Ledger a.unicode) : Prop :=
  ∃ principal job, (s.phases i).job? = some job ∧ Grants a i principal job ∧
    job.Effect a.unicode a.server.nameCanonical ledger result later

/-- The requests that have taken effect, in this order and with these results, explain what is committed and what has
been answered. -/
structure Linearized (a : App K) (s : Service K) (history : List (Nat × JobResult)) : Prop where
  serial : Serial (Serves a s) Ledger.empty history (s.store.ledger a.unicode)
  once : (history.map Prod.fst).Nodup
  admitted : ∀ i ∈ history.map Prod.fst, ∃ job, (s.phases i).job? = some job
  answered : ∀ i response, (s.phases i).response? = some response →
    (∃ result, (i, result) ∈ history ∧ response = (routeResponse result).setHeader "X-Request-ID" (a.requestId i)) ∨
      i ∉ history.map Prod.fst ∧ ∃ content, response.body = .problem content
  silent : ∀ i, (s.phases i).Ended → (s.phases i).response? = none → i ∉ history.map Prod.fst
  wellFormed : (s.store.ledger a.unicode).WellFormed a.server.nameCanonical

/-- One order for a whole run, to which requests are only ever appended. What is admitted after a request took effect
comes after it. -/
structure OneByOne (a : App K) (states : Nat → Service K) (histories : Nat → List (Nat × JobResult)) : Prop where
  linearized : ∀ n, Linearized a (states n) (histories n)
  grows : ∀ m n, m ≤ n → histories m <+: histories n
  inOrder : ∀ m n i j, m ≤ n → i ∈ (histories m).map Prod.fst → ((states m).phases j).job? = none →
    j ∈ (histories n).map Prod.fst → [i, j].Sublist ((histories n).map Prod.fst)

section
variable {a : App K} {s : Service K} {states : Nat → Service K} {i : Nat} {jobs : Nat → Job}
  {history : List (Nat × JobResult)}

/-! ### The jobs of a run -/

theorem Service.Run.later (run : Service.Run a states) {m n : Nat} (before : m ≤ n) :
    Relation.ReflTransGen (Service.Step a) (states m) (states n) := by
  induction before with
  | refl => exact .refl
  | @step n _ ih => exact ih.trans (run.moves n)

theorem Service.Run.reachable (run : Service.Run a states) (n : Nat) : Service.Reachable a (states n) := by
  obtain ⟨keys, booted, starts⟩ := run.starts
  have reached : Service.Reachable a (states 0) := starts ▸ .initial booted
  exact later_reachable reached (run.later n.zero_le)

/-- A request that is admitted keeps its job, so one choice of jobs will do for the whole run. -/
theorem Service.Run.exists_jobs (run : Service.Run a states) : ∃ jobs, ∀ n, Agrees jobs (states n) := by
  have job (i : Nat) : ∃ job, ∀ n held, ((states n).phases i).job? = some held → job = held := by
    by_cases known : ∃ n held, ((states n).phases i).job? = some held
    · obtain ⟨n, job, held⟩ := known
      refine ⟨job, fun m other also => ?_⟩
      have agrees := jobs_agree (states (max m n)) idleLogin
      have here := (later_database (run.later (le_max_left m n)) agrees).1 i other also
      exact ((later_database (run.later (le_max_right m n)) agrees).1 i job held).symm.trans here
    · exact ⟨idleLogin, fun n held also => (known ⟨n, held, also⟩).elim⟩
  choose jobs same using job
  exact ⟨jobs, fun n i held also => same i n held also⟩

/-! ### What the order explains -/

/-- The order of the transactions, as the requests have it. -/
def Orders (a : App K) (jobs : Nat → Job) (s : Service K) (history : List (Nat × JobResult)) : Prop :=
  Explains (initial a.unicode a.autoflush jobs) (Database.ledger a.unicode)
    (fun i ledger => (jobs i).Effect a.unicode a.server.nameCanonical ledger) Undecided (fun _ => Committed)
    (s.database a jobs) history

theorem orders_admitted (orders : Orders a jobs s history) {result : JobResult} (listed : (i, result) ∈ history) :
    ∃ job, (s.phases i).job? = some job := by
  cases held : (s.phases i).job? with
  | some job => exact ⟨job, rfl⟩
  | none =>
    have committed : Committed result ((s.phases i).program _) := orders.decided i result listed
    rw [program_waiting held] at committed
    exact (uncommitted_open (task_uncommitted (jobs i)) committed).elim

theorem orders_unadmitted (orders : Orders a jobs s history) (waits : (s.phases i).job? = none) :
    i ∉ history.map Prod.fst := by
  intro listed
  obtain ⟨⟨i, result⟩, member, rfl⟩ := List.mem_map.mp listed
  obtain ⟨job, held⟩ := orders_admitted orders member
  cases waits.symm.trans held

theorem orders_finished (orders : Orders a jobs s history) {job : Job} {outcome : Except Exc JobResult}
    {sent : Option Response} (finished : s.phases i = .finished job outcome sent) :
    (∃ result, outcome = .ok result ∧ (i, result) ∈ history) ∨
      (∃ raised, outcome = .error raised) ∧ i ∉ history.map Prod.fst := by
  have ended := finished_ended (a := a) finished jobs
  by_cases listed : i ∈ history.map Prod.fst
  · obtain ⟨⟨i, result⟩, member, rfl⟩ := List.mem_map.mp listed
    have committed := orders.decided i result member
    rw [ended] at committed
    cases committed
    exact Or.inl ⟨result, rfl, member⟩
  · have uncommitted := (orders.undecided i listed).1
    rw [ended] at uncommitted
    cases uncommitted with
    | raised raised => exact Or.inr ⟨⟨raised, rfl⟩, listed⟩

theorem orders_answered (documented : a.framework.Documented) (inv : s.Inv a) (orders : Orders a jobs s history)
    {response : Response} (answered : (s.phases i).response? = some response) :
    (∃ result, (i, result) ∈ history ∧ response = (routeResponse result).setHeader "X-Request-ID" (a.requestId i)) ∨
      i ∉ history.map Prod.fst ∧ ∃ content, response.body = .problem content := by
  rcases answered_cases answered with ⟨raised, refused⟩ | ⟨job, outcome, finished⟩
  · obtain ⟨-, -, problem⟩ := refused_answer documented inv refused
    exact Or.inr ⟨orders_unadmitted orders (by rw [refused]; rfl), problem⟩
  · have sent := (finished_answer inv finished).symm
    rcases orders_finished orders finished with ⟨result, rfl, listed⟩ | ⟨⟨raised, rfl⟩, unlisted⟩
    · rcases answer_cases documented sent with ⟨_, same, told⟩ | ⟨_, _, failed, -⟩
      · cases same
        exact Or.inl ⟨result, listed, told⟩
      · cases failed
    · rcases answer_cases documented sent with ⟨_, succeeded, -⟩ | ⟨_, content, -, -, -, problem⟩
      · cases succeeded
      · exact Or.inr ⟨unlisted, content, problem⟩

theorem orders_silent (inv : s.Inv a) (orders : Orders a jobs s history) (ended : (s.phases i).Ended)
    (unanswered : (s.phases i).response? = none) : i ∉ history.map Prod.fst := by
  cases phase : s.phases i with
  | finished job outcome sent =>
    rw [phase] at unanswered
    cases unanswered
    rcases orders_finished orders phase with ⟨result, rfl, -⟩ | ⟨-, unlisted⟩
    · have sent := finished_answer inv phase
      rw [App.answer, respond_ok] at sent
      cases sent
    · exact unlisted
  | refused | dropped => exact orders_unadmitted orders (by rw [phase]; rfl)
  | _ =>
    rw [phase] at ended
    exact ended.elim

theorem orders_linearized (documented : a.framework.Documented) (inv : s.Inv a) (agrees : Agrees jobs s)
    (orders : Orders a jobs s history) : Linearized a s history where
  serial := by
    have serial := orders.serial
    refine (empty_ledger a.unicode ▸ serial).mono fun i ledger result later listed effect => ?_
    obtain ⟨job, held⟩ := orders_admitted orders listed
    obtain ⟨kid, outcome, t, -, -, accepted⟩ := held_admitted inv held
    obtain ⟨principal, -, grants⟩ := accept_ok accepted
    exact ⟨principal, job, held, grants, agrees i job held ▸ effect⟩
  once := orders.once
  admitted i listed := by
    obtain ⟨⟨i, result⟩, member, rfl⟩ := List.mem_map.mp listed
    exact orders_admitted orders member
  answered i response answered := orders_answered documented inv orders answered
  silent i ended unanswered := orders_silent inv orders ended unanswered
  wellFormed := by
    refine orders.serial.keeps (fun _ _ _ _ valid effect => effect.wellFormed valid) ?_
    exact empty_ledger a.unicode ▸ Ledger.empty_wellFormed

theorem Linearized.unadmitted (linearized : Linearized a s history) (waits : (s.phases i).job? = none) :
    i ∉ history.map Prod.fst := by
  intro listed
  obtain ⟨job, held⟩ := linearized.admitted i listed
  cases waits.symm.trans held

theorem reachable_start (reached : Service.Reachable a s) : ∃ keys, Booted a keys ∧
    Relation.ReflTransGen (Service.Step a) (Service.initial keys) s := by
  induction reached with
  | initial booted => exact ⟨_, booted, .refl⟩
  | step _ moved ih =>
    obtain ⟨keys, booted, later⟩ := ih
    exact ⟨keys, booted, later.tail moved⟩

theorem Linearized.listed (linearized : Linearized a s history) {response : Response}
    (answered : (s.phases i).response? = some response) (served : ∀ content, response.body ≠ .problem content) :
    i ∈ history.map Prod.fst := by
  rcases linearized.answered i response answered with ⟨result, member, -⟩ | ⟨-, content, problem⟩
  · exact List.mem_map_of_mem member
  · exact (served content problem).elim

end

end PetBackend.Api
