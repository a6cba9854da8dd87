import PetBackend.Postgres.Calls
import PetBackend.Postgres.SessionCalls
import Mathlib.Data.Int.ConditionallyCompleteOrder
import Mathlib.Order.ConditionallyCompleteLattice.Basic

/-!
# Login timestamps

Which clock reading each column of a user row holds, and in which runs the readings go forward.
-/

namespace PetBackend.Postgres
open Library Persistence

abbrev Event : Type := Called DbOp DbOp.Ret Database

structure Stamped (t : DateTime) (values : UserValues) (update : UserUpdate) : Prop where
  created : values.createdAt = t
  updated : values.updatedAt = t ∧ update.updatedAt = t
  lastLogin : values.lastLoginAt = t ∧ update.lastLoginAt = t

def advance (told : Option DateTime) : (op : DbOp) → op.Ret → Option DateTime
  | .now, t => some t
  | _, _ => told

/-- A run reads the clock once, and upserts with the time that it read. -/
def clockProtocol : Protocol DbOp DbOp.Ret where
  State := Option DateTime
  allowed
    | told, .now => told = none
    | told, .execute (.upsertUser values update) => ∃ t, told = some t ∧ Stamped t values update
    | _, _ => True
  next := advance

/-- The time that run `i` has read. -/
def told (i : Nat) (events : List Event) : Option DateTime := clockProtocol.reached none i events

def Read (i : Nat) (t : DateTime) (events : List Event) : Prop :=
  ∃ before, (⟨before, i, .now, t⟩ : Event) ∈ events

/-- Run `j` read the clock before run `i` did. -/
def ReadFirst (j i : Nat) (events : List Event) : Prop :=
  ∃ newer older before t t', events = newer ++ ⟨before, i, .now, t⟩ :: older ∧ Read j t' older

def readings (events : List Event) : List DateTime :=
  events.filterMap fun
    | ⟨_, _, .now, t⟩ => some t
    | _ => none

def ClockNeverBack (events : List Event) : Prop := (readings events).Pairwise fun newer older => older ≤ newer

instance (events : List Event) : Decidable (ClockNeverBack events) :=
  inferInstanceAs (Decidable ((readings events).Pairwise fun newer older => older ≤ newer))

/-- The committed row. -/
def Database.user (d : Database) (id : Nat) : Option UserRow := (d.users.versions id).head?

/-- An upsert that updates a committed row comes from a run that read the clock after the writer of
that row did. -/
def InOrder (older : List Event) : Event → Prop
  | ⟨before, i, .execute (.upsertUser values _), .ok _⟩ =>
    ∀ id row, before.user id = some row → row.hasKey values.authIssuer values.authSubject →
      ReadFirst row.writtenBy i older
  | _ => True

def UpsertsInOrder : List Event → Prop
  | [] => True
  | event :: older => InOrder older event ∧ UpsertsInOrder older

/-! ### What a run reads and writes -/

theorem clock_neutral (op : DbOp) (routine : Routine op) (q : clockProtocol.State) :
    Program.Neutral clockProtocol q op := by
  cases op with
  | now => exact routine.elim
  | execute statement =>
    cases statement with
    | upsertUser values update => exact routine.elim
    | _ => exact ⟨trivial, fun _ => rfl⟩
  | _ => exact ⟨trivial, fun _ => rfl⟩

section
variable {server : Server} {u : UnicodeData} {autoflush : Bool} {jobs : Nat → Job}

theorem stamped_user (principal : Principal) (publicId : PublicId) (now : DateTime) :
    Stamped now (userValues (userFromClaims principal publicId now))
      (userUpdate (userFromClaims principal publicId now)) := ⟨rfl, ⟨rfl, rfl⟩, rfl, rfl⟩

theorem createOrganization_ordinary (cmd : CreateOrganizationCmdIn) (uuidGen : Nat → UUID) :
    ((Job.createOrganization cmd uuidGen).handler u).Only Ordinary := by
  rw [createOrganization_handler]
  refine ⟨trivial, ?_⟩
  rintro (raised | _ | user)
  · trivial
  · trivial
  · cases Name.create u cmd.name with
    | error raised => trivial
    | ok name =>
      refine ⟨trivial, ?_⟩
      rintro (raised | _)
      · trivial
      · refine ⟨trivial, ?_⟩
        rintro (raised | _) <;> trivial

theorem provisionUser_keeps (principal : Principal) (uuidGen : Nat → UUID) (uow : UnitOfWork) :
    Keeps clockProtocol none
      (runHandler (asyncSession autoflush) ((Job.provisionUser principal uuidGen).handler u) uow) := by
  rw [provisionUser_handler]
  intro σ
  refine ⟨rfl, fun now => ?_⟩
  -- from here on the time is known, and only the upsert and routine calls follow
  let may (op : DbOp) : Prop := Program.Neutral clockProtocol (some now) op
  have routine (op : DbOp) (routine : Routine op) : may op := clock_neutral op routine _
  have permitted : may (.execute (.upsertUser (userValues (userFromClaims principal ⟨uuidGen 0⟩ now))
      (userUpdate (userFromClaims principal ⟨uuidGen 0⟩ now)))) :=
    ⟨⟨now, rfl, stamped_user ..⟩, fun _ => rfl⟩
  refine Program.obeys_only (fun op (allowed : may op) => allowed) ?_
  refine code_bind (code_attempt (code_upsert routine permitted)) ?_ uow σ
  rintro (raised | ⟨user, created⟩)
  · exact code_raise _
  · exact code_pure _

theorem task_obeys (job : Job) : (job.task u autoflush).Obeys clockProtocol none := by
  have keeps : Keeps clockProtocol none (run (asyncSession autoflush) (job.handler u)) := by
    refine keeps_run clock_neutral fun uow => ?_
    cases job with
    | createOrganization cmd uuidGen =>
      exact makes_keeps clock_neutral
        (code_runHandler (fun _ routine => routine) (createOrganization_ordinary cmd uuidGen) uow) none
    | provisionUser principal uuidGen => exact provisionUser_keeps principal uuidGen uow
  exact Program.obeys_bind (keeps {}) fun _ _ => trivial

/-! ### Readings -/

variable {events older : List Event} {state : Running DbOp DbOp.Ret Database (Except Exc JobResult)}

theorem run_allowed (ran : Running.Run server.step (initial u autoflush jobs) events state) {i : Nat}
    {op : DbOp} {next : op.Ret → Program DbOp DbOp.Ret (Except Exc JobResult)}
    (pending : state.tasks i = .call op next) : clockProtocol.allowed (told i events) op := by
  have obeys := ran.obeys (P := clockProtocol) (fun j => task_obeys (jobs j)) i
  rw [pending] at obeys
  exact obeys.1

theorem told_cons (event : Event) (i : Nat) : told i (event :: events) =
    if event.task = i then advance (told i events) event.op event.answer else told i events := rfl

theorem told_other (event : Event) {i : Nat} (other : event.task ≠ i) :
    told i (event :: events) = told i events := by
  rw [told_cons, if_neg other]

theorem told_kept (event : Event) {i : Nat} (clock : event.op ≠ .now) :
    told i (event :: events) = told i events := by
  rw [told_cons]
  split
  · obtain ⟨before, task, op, answer⟩ := event
    cases op with
    | now => exact (clock rfl).elim
    | _ => rfl
  · rfl

theorem read_cons {event : Event} {i : Nat} {t : DateTime} (read : Read i t events) :
    Read i t (event :: events) := by
  obtain ⟨before, member⟩ := read
  exact ⟨before, List.mem_cons_of_mem _ member⟩

theorem told_read {i : Nat} {t : DateTime} (knows : told i events = some t) : Read i t events := by
  induction events with
  | nil => cases knows
  | cons event older ih =>
    rw [told_cons] at knows
    split at knows
    · rename_i mine
      obtain ⟨before, task, op, answer⟩ := event
      cases mine
      cases op with
      | now =>
        cases knows
        exact ⟨before, List.mem_cons_self⟩
      | _ => exact read_cons (ih knows)
    · exact read_cons (ih knows)

/-- No run reads the clock twice. -/
theorem told_step (ran : Running.Run server.step (initial u autoflush jobs) events state) {i : Nat}
    {op : DbOp} {next : op.Ret → Program DbOp DbOp.Ret (Except Exc JobResult)} {answer : op.Ret}
    (pending : state.tasks i = .call op next) {j : Nat} {t : DateTime} (knows : told j events = some t) :
    told j (⟨state.store, i, op, answer⟩ :: events) = some t := by
  by_cases clock : op = .now
  · subst clock
    have unread : told i events = none := run_allowed ran pending
    have other : i ≠ j := by
      rintro rfl
      rw [unread] at knows
      cases knows
    rw [told_other ⟨state.store, i, .now, answer⟩ other]
    exact knows
  · rw [told_kept ⟨state.store, i, op, answer⟩ clock]
    exact knows

theorem read_told (ran : Running.Run server.step (initial u autoflush jobs) events state) {i : Nat}
    {t : DateTime} (read : Read i t events) : told i events = some t := by
  induction ran with
  | start =>
    obtain ⟨before, member⟩ := read
    cases member
  | call ran pending called ih =>
    obtain ⟨before, member⟩ := read
    rcases List.mem_cons.mp member with same | earlier
    · cases same
      rw [told_cons, if_pos rfl]
      rfl
    · exact told_step ran pending (ih ⟨before, earlier⟩)

theorem read_reading {i : Nat} {t : DateTime} (read : Read i t events) : t ∈ readings events := by
  obtain ⟨before, member⟩ := read
  exact List.mem_filterMap.mpr ⟨_, member, rfl⟩

theorem readFirst_le (ran : Running.Run server.step (initial u autoflush jobs) events state)
    (clock : ClockNeverBack events) {i j : Nat} {t t' : DateTime} (first : ReadFirst j i events)
    (knows : told i events = some t) (knows' : told j events = some t') : t' ≤ t := by
  obtain ⟨newer, older, before, s, s', rfl, read⟩ := first
  have mine : Read i s (newer ++ ⟨before, i, .now, s⟩ :: older) := ⟨before, by simp⟩
  have theirs : Read j s' (newer ++ ⟨before, i, .now, s⟩ :: older) := by
    obtain ⟨before', member⟩ := read
    exact ⟨before', by simp [member]⟩
  have apart : readings (newer ++ ⟨before, i, .now, s⟩ :: older) = readings newer ++ s :: readings older := by
    unfold readings
    rw [List.filterMap_append]
    rfl
  unfold ClockNeverBack at clock
  rw [apart] at clock
  have ordered := (List.pairwise_cons.mp (List.pairwise_append.mp clock).2.1).1 s' (read_reading read)
  rw [read_told ran mine] at knows
  rw [read_told ran theirs] at knows'
  cases knows
  cases knows'
  exact ordered

/-! ### The readings in the rows -/

structure Timely (events : List Event) (row : UserRow) : Prop where
  updated : told row.writtenBy events = some row.values.updatedAt
  lastLogin : row.values.lastLoginAt = row.values.updatedAt
  created : told row.insertedBy events = some row.values.createdAt

theorem run_timely (ran : Running.Run server.step (initial u autoflush jobs) events state) (id : Nat)
    (row : UserRow) (live : state.store.users.Live id row) : Timely events row := by
  induction ran generalizing id row with
  | start => exact (Table.empty_live id row live).elim
  | @call events state i op next answer after ran pending called ih =>
    have older (row : UserRow) (live : state.store.users.Live id row) :
        Timely (⟨state.store, i, op, answer⟩ :: events) row := by
      have timely := ih id row live
      exact ⟨told_step ran pending timely.updated, timely.lastLogin,
        told_step ran pending timely.created⟩
    cases permits_changes (server.conforms called) with
    | same | organization | membership => exact older row live
    | discard => exact older row (Table.discard_live live)
    | commit => exact older row (Table.commit_live live)
    | @user values update rows _ _ writes =>
      rcases Table.write_live live with ⟨rfl, rfl⟩ | before
      · obtain ⟨t, knows, stamped⟩ := run_allowed ran pending
        have knows' : told i (⟨state.store, i, .execute (.upsertUser values update), .ok rows⟩ :: events) =
            some t := told_step ran pending knows
        cases writes with
        | insert =>
          exact ⟨knows'.trans (congrArg some stamped.updated.1.symm),
            stamped.lastLogin.1.trans stamped.updated.1.symm,
            knows'.trans (congrArg some stamped.created.symm)⟩
        | set seen =>
          exact ⟨knows'.trans (congrArg some stamped.updated.2.symm),
            stamped.lastLogin.2.trans stamped.updated.2.symm, (older _ (Table.view_live seen)).created⟩
      · exact older row before

/-! ### Going forward -/

structure UsersForward (users : Table UserRow) : Prop where
  created : ∀ id row, users.Live id row → row.values.createdAt ≤ row.values.updatedAt
  forward : users.Forward fun row => row.values.updatedAt

/-- The row that an upsert updates is no newer than the time that its run has read. -/
theorem updated_le (ran : Running.Run server.step (initial u autoflush jobs) events state)
    (clock : ClockNeverBack events) {i id : Nat} {values : UserValues} {update : UserUpdate}
    {rows : List (UserORM × Bool)} {row : UserRow} {t : DateTime}
    (inOrder : InOrder events ⟨state.store, i, .execute (.upsertUser values update), .ok rows⟩)
    (knows : told i events = some t) (seen : state.store.users.view i id = some row)
    (key : row.hasKey values.authIssuer values.authSubject) : row.values.updatedAt ≤ t := by
  have timely := run_timely ran id row (Table.view_live seen)
  rcases Option.or_eq_some_iff.mp seen with mine | ⟨_, newest⟩
  · have writer : row.writtenBy = i := (reachable_jobs_sound ran.reachable).inv.users.written mine
    have same := timely.updated
    rw [writer, knows] at same
    cases same
    exact le_refl _
  · exact readFirst_le ran clock (inOrder id row newest key) knows timely.updated

theorem run_forward (ran : Running.Run server.step (initial u autoflush jobs) events state)
    (clock : ClockNeverBack events) (inOrder : UpsertsInOrder events) :
    UsersForward state.store.users := by
  induction ran with
  | start => exact ⟨fun id row live => (Table.empty_live id row live).elim, Table.empty_forward⟩
  | @call events state i op next answer after ran pending called ih =>
    have before : ClockNeverBack events :=
      clock.sublist ((List.sublist_cons_self _ events).filterMap _)
    have forward := ih before inOrder.2
    cases permits_changes (server.conforms called) with
    | same | organization | membership => exact forward
    | discard =>
      exact ⟨fun id row live => forward.created id row (Table.discard_live live),
        Table.discard_forward forward.forward⟩
    | commit =>
      exact ⟨fun id row live => forward.created id row (Table.commit_live live),
        Table.commit_forward (reachable_jobs_sound ran.reachable).inv.users forward.forward⟩
    | @user values update rows id _ writes =>
      obtain ⟨t, knows, stamped⟩ := run_allowed ran pending
      have written (row : UserRow) (created : row.values.createdAt ≤ row.values.updatedAt)
          (later : ∀ older ∈ state.store.users.versions id,
            older.values.updatedAt ≤ row.values.updatedAt) :
          UsersForward (state.store.users.write i id row) := by
        refine ⟨fun key row' live => ?_, Table.write_forward forward.forward later⟩
        rcases Table.write_live live with ⟨_, rfl⟩ | older
        · exact created
        · exact forward.created key row' older
      cases writes with
      | insert inserts =>
        refine written _ (le_of_eq (stamped.created.trans stamped.updated.1.symm)) fun older member => ?_
        rw [inserts.no_versions] at member
        cases member
      | @set row seen key =>
        have newer : row.values.updatedAt ≤ update.updatedAt := by
          rw [stamped.updated.2]
          exact updated_le ran before inOrder.1 knows seen key
        have live := Table.view_live seen
        exact written _ ((forward.created id row live).trans newer) fun older member =>
          (forward.forward.view seen member).trans newer

/-- Each committed row holds the readings of its writer and its inserter. If no upsert is overtaken,
they go forward. -/
theorem login_timestamps {later : List Event}
    {final : Running DbOp DbOp.Ret Database (Except Exc JobResult)}
    (first : Running.Run server.step (initial u autoflush jobs) events state)
    (second : Running.Run server.step state later final) (clock : ClockNeverBack (later ++ events)) :
    (∀ id row, row ∈ final.store.users.versions id →
      Read row.writtenBy row.values.updatedAt (later ++ events) ∧
      row.values.lastLoginAt = row.values.updatedAt ∧
      Read row.insertedBy row.values.createdAt (later ++ events)) ∧
    (UpsertsInOrder (later ++ events) →
      (∀ id row, final.store.user id = some row →
        row.values.createdAt ≤ row.values.updatedAt ∧ row.values.createdAt ≤ row.values.lastLoginAt) ∧
      ∀ id row, state.store.user id = some row → ∃ row', final.store.user id = some row' ∧
        row.values.updatedAt ≤ row'.values.updatedAt ∧ row.values.lastLoginAt ≤ row'.values.lastLoginAt) := by
  have whole := first.append second
  refine ⟨fun id row member => ?_, fun inOrder => ?_⟩
  · have timely := run_timely whole id row (Or.inl member)
    exact ⟨told_read timely.updated, timely.lastLogin, told_read timely.created⟩
  · have forward := run_forward whole clock inOrder
    refine ⟨fun id row committed => ?_, fun id row committed => ?_⟩
    · have live : final.store.users.Live id row := Or.inl (List.mem_of_mem_head? committed)
      rw [(run_timely whole id row live).lastLogin]
      exact ⟨forward.created id row live, forward.created id row live⟩
    · have lasting := (users_grow first.reachable second.reachable id).subset
        (List.mem_of_mem_head? committed)
      cases newest : final.store.user id with
      | none =>
        rw [List.head?_eq_none_iff.mp newest] at lasting
        cases lasting
      | some row' =>
        have newer := forward.forward.newest newest lasting
        have live := run_timely whole id row (Or.inl lasting)
        have live' := run_timely whole id row' (Or.inl (List.mem_of_mem_head? newest))
        refine ⟨row', rfl, newer, ?_⟩
        rw [live.lastLogin, live'.lastLogin]
        exact newer

end

/-! ### Two logins of one user -/

def loginJobs (i : Nat) : Job := .provisionUser samplePrincipal fun _ => BitVec.ofNat 128 i

def login (i : Nat) (t : DateTime) : User := userFromClaims samplePrincipal ⟨BitVec.ofNat 128 i⟩ t

def loginRow (i : Nat) (t : DateTime) : UserRow := ⟨userValues (login i t), i, i, userUpdate (login i t)⟩

def inserting (i : Nat) (t : DateTime) : Database := ⟨Table.empty.write i 0 (loginRow i t), .empty, .empty⟩

def updating (d : Database) (i j : Nat) (t t' : DateTime) : Database :=
  { d with users := d.users.write j 0 ((loginRow i t).set j (userUpdate (login j t'))) }

abbrev LoginRun := Running.Run loosest.step (initial ⟨id, id⟩ true loginJobs)

theorem record {origin : Running DbOp DbOp.Ret Database (Except Exc JobResult)} {events : List Event}
    {tasks : Nat → Program DbOp DbOp.Ret (Except Exc JobResult)} {before : Database} (i : Nat) (op : DbOp)
    (answer : op.Ret) (after : Database) {next : op.Ret → Program DbOp DbOp.Ret (Except Exc JobResult)}
    (ran : Running.Run loosest.step origin events ⟨before, tasks⟩) (pending : tasks i = .call op next)
    (called : Permits id i op before answer after) :
    Running.Run loosest.step origin (⟨before, i, op, answer⟩ :: events)
      ⟨after, fun j => if j = i then next answer else tasks j⟩ := .call ran pending called

theorem restart {origin state : Running DbOp DbOp.Ret Database (Except Exc JobResult)} {events : List Event}
    (_ : Running.Run loosest.step origin events state) : Running.Run loosest.step state [] state := .start

theorem inserting_user {i id : Nat} {t : DateTime} {row : UserRow}
    (committed : ((inserting i t).commit i).user id = some row) : row = loginRow i t := by
  by_cases here : id = 0
  · subst here
    simp [Database.user, Database.commit, inserting, Table.commit, Table.write] at committed
    exact committed.symm
  · simp [Database.user, Database.commit, inserting, Table.commit, Table.write, Table.empty, here] at committed

theorem updating_permitted (i j : Nat) (t t' : DateTime) : Permits id j
    (.execute (.upsertUser (userValues (login j t')) (userUpdate (login j t')))) ((inserting i t).commit i)
    (.ok [(((loginRow i t).set j (userUpdate (login j t'))).orm, false)])
    (updating ((inserting i t).commit i) i j t t') := by
  have alone (k : Nat) : ((inserting i t).commit i).users.own k 0 = none := by
    by_cases mine : k = i
    · simp [Database.commit, Table.commit, mine]
    · simp [Database.commit, Table.commit, inserting, Table.write, Table.empty, mine]
  refine Or.inr ⟨0, loginRow i t, ?_, rfl, rfl, fun k a own => ?_, rfl, rfl⟩
  · unfold Table.view
    rw [alone]
    simp [Database.commit, Table.commit, inserting, Table.write]
  · rw [alone] at own
    cases own

theorem login_timestamps_sample : ∃ events later state final,
    LoginRun events state ∧ Running.Run loosest.step state later final ∧
    state.store.user 0 = some (loginRow 0 1) ∧
    ∃ row, final.store.user 0 = some row ∧ row.writtenBy = 1 ∧
      (loginRow 0 1).values.lastLoginAt ≤ row.values.lastLoginAt := by
  have started : LoginRun [] ⟨.empty, fun i => (loginJobs i).task ⟨id, id⟩ true⟩ := .start
  have clock := record 0 .now (1 : DateTime) .empty started rfl rfl
  have upserted := record 0 (.execute (.upsertUser (userValues (login 0 1)) (userUpdate (login 0 1))))
    (.ok [((loginRow 0 1).orm, true)]) (inserting 0 1) clock rfl
    (Or.inl ⟨0, Table.vacant_inserts Table.empty_live 0 _, rfl, rfl⟩)
  have committed := record 0 .commit (.ok ()) ((inserting 0 1).commit 0) upserted rfl rfl
  have clock' := record 1 .now (2 : DateTime) ((inserting 0 1).commit 0) (restart committed) rfl rfl
  have upserted' := record 1 (.execute (.upsertUser (userValues (login 1 2)) (userUpdate (login 1 2))))
    (.ok [(((loginRow 0 1).set 1 (userUpdate (login 1 2))).orm, false)])
    (updating ((inserting 0 1).commit 0) 0 1 1 2) clock' rfl (updating_permitted 0 1 1 2)
  have committed' := record 1 .commit (.ok ()) ((updating ((inserting 0 1).commit 0) 0 1 1 2).commit 1)
    upserted' rfl rfl
  have whole := login_timestamps committed committed' (by decide)
  have forward := (whole.2 ?_).2 0 (loginRow 0 1) rfl
  · exact ⟨_, _, _, _, committed, committed', rfl, _, rfl, rfl, by decide⟩
  · refine ⟨trivial, ?_⟩
    refine ⟨fun id row committed key => ?_, ?_⟩
    · cases inserting_user committed
      exact ⟨[], _, _, 2, 1, rfl, .empty, .tail _ (.tail _ (.head _))⟩
    · refine ⟨trivial, trivial, fun id row committed => ?_, trivial, trivial⟩
      cases committed

/-- The run that reads the clock first upserts last. -/
theorem login_goes_back : ∃ events later state final,
    LoginRun events state ∧ Running.Run loosest.step state later final ∧
    ClockNeverBack (later ++ events) ∧ ∃ row row', state.store.user 0 = some row ∧
    final.store.user 0 = some row' ∧ row'.values.lastLoginAt < row.values.lastLoginAt ∧
    row'.values.updatedAt < row.values.updatedAt ∧ row'.values.updatedAt < row'.values.createdAt ∧
    row'.values.lastLoginAt < row'.values.createdAt := by
  have started : LoginRun [] ⟨.empty, fun i => (loginJobs i).task ⟨id, id⟩ true⟩ := .start
  have clock := record 0 .now (1 : DateTime) .empty started rfl rfl
  have clock' := record 1 .now (2 : DateTime) .empty clock rfl rfl
  have upserted := record 1 (.execute (.upsertUser (userValues (login 1 2)) (userUpdate (login 1 2))))
    (.ok [((loginRow 1 2).orm, true)]) (inserting 1 2) clock' rfl
    (Or.inl ⟨0, Table.vacant_inserts Table.empty_live 0 _, rfl, rfl⟩)
  have committed := record 1 .commit (.ok ()) ((inserting 1 2).commit 1) upserted rfl rfl
  have upserted' := record 0 (.execute (.upsertUser (userValues (login 0 1)) (userUpdate (login 0 1))))
    (.ok [(((loginRow 1 2).set 0 (userUpdate (login 0 1))).orm, false)])
    (updating ((inserting 1 2).commit 1) 1 0 2 1) (restart committed) rfl (updating_permitted 1 0 2 1)
  have committed' := record 0 .commit (.ok ()) ((updating ((inserting 1 2).commit 1) 1 0 2 1).commit 0)
    upserted' rfl rfl
  exact ⟨_, _, _, _, committed, committed', by decide, _, _, rfl, rfl, by decide, by decide, by decide,
    by decide⟩
end PetBackend.Postgres
