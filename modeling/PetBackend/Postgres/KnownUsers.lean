import PetBackend.Postgres.Requests

/-!
# Users that are known

A transaction that begins once a user is committed finds the user, and so is not told that there is none.
-/

namespace PetBackend.Postgres
open Library Persistence

def KnownUser (d : Database) (issuer subject : String) : Prop :=
  ∃ id row, row ∈ d.users.versions id ∧ row.hasKey issuer subject

/-- Hypothesis on the driver: it raises no error of the application's own. -/
def NoAppErrors (server : Server) : Prop :=
  ∀ i op d answer after, server.step i op d answer after →
    Likely (fun raised => ∀ e, raised ≠ .app e) (fun _ _ => True) op answer

def CreatesFor (issuer subject : String) (job : Job) : Prop :=
  ∃ cmd uuidGen, job = .createOrganization cmd uuidGen ∧ cmd.principal.issuer = issuer ∧
    cmd.principal.subject = subject

/-- The user is found, and nothing is raised that says otherwise. -/
def known (issuer subject : String) : Expected where
  raises raised := ∀ e, raised = .app e → e.code ≠ .notFound
  adds _ := True
  executes _ := True
  commits := True
  answers
    | .selectUser issuer' subject' => fun (rows : List UserORM) => issuer' = issuer → subject' = subject → rows ≠ []
    | _ => fun _ => True
  persistence _ _ := nofun
  notInitialized _ := nofun
  resultCount := nofun
  translates raised expected e same := by
    cases raised with
    | persistence error =>
      cases same
      unfold translateDbError
      split <;> first | (split <;> nofun) | nofun
    | validation error =>
      cases same
      nofun
    | _ => exact expected e same

section
variable {server : Server} {u : UnicodeData} {autoflush : Bool} {jobs : Nat → Job} {issuer subject : String}
  {state later : Running DbOp DbOp.Ret Database (Except Exc JobResult)}

theorem handler_finds {job : Job} (creates : CreatesFor issuer subject job) :
    (job.handler u).Meets (known issuer subject) 1 fun _ => True := by
  obtain ⟨cmd, uuidGen, rfl, rfl, rfl⟩ := creates
  unfold HandlerProgram.Meets
  rw [createOrganization_handler]
  refine ⟨trivial, ?_⟩
  rintro (raised | _ | user) likely
  · exact likely
  · rcases likely with ⟨-, finds⟩ | ⟨orm, absent, -⟩
    · exact (finds rfl rfl rfl).elim
    · cases absent
  · cases Name.create u cmd.name with
    | error raised =>
      simp only
      exact nofun
    | ok name =>
      simp only
      refine ⟨⟨trivial, Nat.one_pos⟩, ?_⟩
      rintro (raised | _) likely
      · exact likely
      · refine ⟨trivial, ?_⟩
        rintro (raised | _) likely
        · exact likely
        · trivial

theorem KnownUser.grows {d d' : Database} (knows : KnownUser d issuer subject) (grows : UsersGrow d d') :
    KnownUser d' issuer subject := by
  obtain ⟨id, row, committed, key⟩ := knows
  exact ⟨id, row, (grows id).subset committed, key⟩

/-- Whichever version of the row is seen, it carries the identity. -/
theorem selects_known {d : Database} (valid : Inv server jobs d) (knows : KnownUser d issuer subject) {i : Nat}
    {rows : List UserORM} (selects : Selects d i issuer subject rows) : rows ≠ [] := by
  obtain ⟨id, row, committed, key⟩ := knows
  obtain ⟨found, -, rfl, exact_⟩ := selects
  have seen : ∃ version, d.users.view i id = some version := by
    unfold Table.view
    cases own : d.users.own i id with
    | some version => exact ⟨version, rfl⟩
    | none =>
      cases versions : d.users.versions id with
      | nil =>
        rw [versions] at committed
        cases committed
      | cons newest older => exact ⟨newest, rfl⟩
  obtain ⟨version, seen⟩ := seen
  have same : version.identity = row.identity := valid.users.identified (Table.view_live seen) (Or.inl committed)
  have member : (id, version) ∈ found := (exact_ id version).mpr
    ⟨seen, (congrArg UserIdentity.authIssuer same).trans key.1, (congrArg UserIdentity.authSubject same).trans key.2⟩
  intro none
  rw [List.map_eq_nil_iff] at none
  rw [none] at member
  cases member

theorem foreign_known {raised : Exc} (foreign : ∀ e, raised ≠ .app e) : (known issuer subject).raises raised :=
  fun e same => (foreign e same).elim

theorem called_likely (foreign : NoAppErrors server) {d after : Database} (valid : Inv server jobs d)
    (knows : KnownUser d issuer subject) {i : Nat} {op : DbOp} {answer : op.Ret}
    (called : server.step i op d answer after) :
    Likely (known issuer subject).raises (known issuer subject).answers op answer := by
  have raised := foreign i op d answer after called
  have permitted := server.conforms called
  cases op with
  | now | close => trivial
  | execute statement =>
    cases answer with
    | error error => exact foreign_known raised
    | ok result =>
      cases statement with
      | selectUser issuer' subject' =>
        rintro rfl rfl
        exact selects_known valid knows permitted.2
      | insertMembership | upsertUser => trivial
  | insertOrganization | refresh | commit | rollback =>
    cases answer with
    | error error => exact foreign_known raised
    | ok => trivial

/-- A transaction that had not begun when the user was known does not end in there being none. -/
theorem known_found (foreign : NoAppErrors server) (reached : Reachable server u autoflush jobs state)
    (knows : KnownUser state.store issuer subject) {i : Nat} (waits : state.tasks i = (jobs i).task u autoflush)
    (creates : CreatesFor issuer subject (jobs i)) (further : Running.Reachable server.step state later) {e : AppError}
    (ended : later.tasks i = .done (.error (.app e))) : e.code ≠ .notFound := by
  have starts : ∀ j, j = i → (state.tasks j).Yields (dbMeter (known issuer subject)) 1
      fun outcome _ => RaisesOr (known issuer subject).raises (fun _ => True) outcome := by
    rintro j rfl
    rw [waits]
    exact task_yields trivial (handler_finds creates)
  have runs := reachable_yields
    (fun middle _ => Reachable server u autoflush jobs middle ∧ KnownUser middle.store issuer subject) (· = i)
    (fun _ => 1) ?_ ⟨reached, knows⟩ starts further
  · obtain ⟨g, -, yields⟩ := runs
    have outcome := yields i rfl
    rw [ended] at outcome
    exact outcome e rfl
  · rintro middle g j op next answer after ⟨reached, knows⟩ pending - called -
    have moved : Running.Step server.step middle _ := .call pending called
    refine ⟨fun _ => called_likely foreign (reachable_jobs_sound reached).inv knows called, .step reached moved, ?_⟩
    exact knows.grows (users_grow reached (.step .initial moved))

end

end PetBackend.Postgres
