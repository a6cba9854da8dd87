import PetBackend.Persistence.Raising
import PetBackend.Postgres.Calls

/-!
# What a transaction asks for

Which organizations a transaction inserts, whatever it is answered, and what it may raise when the answers of the
database are as expected.
-/

namespace PetBackend.Postgres
open Library Persistence

/-- The answer is as expected. -/
def Likely (raises : Exc → Prop) (answers : (statement : Statement) → statement.Result → Prop) :
    (op : DbOp) → op.Ret → Prop
  | .execute statement, answer => RaisesOr raises (answers statement) answer
  | .insertOrganization _, answer | .refresh, answer | .commit, answer | .rollback, answer =>
    RaisesOr raises (fun _ => True) answer
  | .now, _ | .close, _ => True

theorem likely_weaken {raises weaker : Exc → Prop} {answers : (statement : Statement) → statement.Result → Prop}
    {op : DbOp} {answer : op.Ret} (weaken : ∀ raised, raises raised → weaker raised)
    (likely : Likely raises answers op answer) : Likely weaker (fun _ _ => True) op answer := by
  cases op with
  | now | close => trivial
  | execute | insertOrganization | refresh | commit | rollback =>
    cases answer with
    | ok => trivial
    | error raised => exact weaken raised likely

/-- An insert takes one of those that are left. -/
def dbMeter (E : Expected) : Program.Meter DbOp DbOp.Ret Nat where
  allowed
    | g, .insertOrganization values => E.adds values ∧ 0 < g
    | _, .execute statement => E.executes statement
    | _, .commit => E.commits
    | _, _ => True
  left
    | g, .insertOrganization _ => g - 1
    | g, _ => g
  credible := Likely E.raises E.answers

/-- What pends is to be inserted, as what is still added. -/
structure Pends (E : Expected) (h : Nat) (σ : SessionState) (g : Nat) : Prop where
  adds : ∀ values ∈ σ.new, E.adds values
  enough : σ.new.length + h ≤ g

def sessionJudgment (E : Expected) : Judgment SessionM Nat := (Program.judgment (dbMeter E)).stateful (Pends E)

section
variable {E : Expected} {autoflush : Bool}

theorem nothing_pends (h : Nat) : Pends E h { new := [] } h := ⟨nofun, le_of_eq (Nat.zero_add h)⟩

theorem retains_dbCall (op : DbOp) (neutral : ∀ values, op ≠ .insertOrganization values)
    (allowed : ∀ g, (dbMeter E).allowed g op) : (sessionJudgment E).Retains (dbCall op) (Likely E.raises E.answers op) := by
  intro h σ g fit
  have same : (dbMeter E).left g op = g := by
    cases op with
    | insertOrganization values => exact (neutral values rfl).elim
    | _ => rfl
  refine ⟨allowed g, fun answer likely => ?_⟩
  rw [same]
  exact ⟨h, fit, le_refl h, likely⟩

/-- What pended is inserted from what was left for it. -/
theorem yields_insertPending {pending : List OrganizationValues} (adds : ∀ values ∈ pending, E.adds values) (h : Nat) :
    (sessionJudgment E).Yields (pending.length + h) (insertPending pending) fun answer h' => h ≤ h' ∧ E.Unit answer := by
  induction pending with
  | nil =>
    have ended : h ≤ ([] : List OrganizationValues).length + h ∧ E.Unit (.ok ()) := ⟨by simp, trivial⟩
    exact (sessionJudgment E).pure ended
  | cons values rest ih =>
    obtain ⟨here, later⟩ := List.forall_mem_cons.mp adds
    have inserted : (sessionJudgment E).Yields ((values :: rest).length + h) (dbCall (.insertOrganization values))
        fun answer h' => h' = rest.length + h ∧ RaisesOr E.raises (fun _ => True) answer := by
      intro σ g fit
      have enough : σ.new.length + (rest.length + 1 + h) ≤ g := fit.enough
      refine ⟨⟨here, by omega⟩, fun answer likely => ⟨rest.length + h, ⟨fit.adds, ?_⟩, rfl, likely⟩⟩
      show σ.new.length + (rest.length + h) ≤ g - 1
      omega
    refine (sessionJudgment E).bind inserted ?_
    rintro (raised | _) h' ⟨rfl, likely⟩
    · have ended : h ≤ rest.length + h ∧ E.Unit (.error raised) := ⟨by omega, likely⟩
      exact (sessionJudgment E).pure ended
    · exact ih later

theorem retains_flushPending : (sessionJudgment E).Retains flushPending E.Unit := by
  intro h σ g fit
  exact yields_insertPending fit.adds h { new := [] } g ⟨(nothing_pends h).adds, by simpa using fit.enough⟩

theorem retains_autoflush : (sessionJudgment E).Retains (autoflushPending autoflush) E.Unit := by
  unfold autoflushPending
  split
  · exact retains_flushPending
  · have ended : E.Unit (.ok ()) := trivial
    exact retains_pure ended

theorem retains_flushed {α : Type} {flushing : SessionM (Except Exc Unit)} {rest : SessionM (Except Exc α)}
    {post : α → Prop} (flushed : (sessionJudgment E).Retains flushing E.Unit)
    (then_ : (sessionJudgment E).Retains rest (RaisesOr E.raises post)) :
    (sessionJudgment E).Retains (do
      match ← flushing with
      | .ok () => rest
      | .error raised => return .error raised) (RaisesOr E.raises post) := by
  refine retains_bind flushed ?_
  rintro (raised | _) ended
  · exact retains_pure ended
  · exact then_

theorem retains_cleared {α : Type} {rest : SessionM α} {post : α → Prop}
    (then_ : (sessionJudgment E).Retains rest post) :
    (sessionJudgment E).Retains (do set { : SessionState }; rest) post := by
  intro h σ g fit
  refine then_ h {} g ⟨(nothing_pends h).adds, ?_⟩
  have enough := fit.enough
  show 0 + h ≤ g
  omega

theorem asyncSession_conforms (E : Expected) (autoflush : Bool) :
    Conforms (sessionJudgment E) E (asyncSession autoflush) where
  sessionFactory := retains_cleared (retains_pure trivial)
  orgsRepoFactory _ := retains_pure (trivial : E.Unit (.ok ()))
  usersRepoFactory _ := retains_pure (trivial : E.Unit (.ok ()))
  membershipsRepoFactory _ := retains_pure (trivial : E.Unit (.ok ()))
  add _ values g adds σ g' fit := by
    refine ⟨g, ⟨fun other member => ?_, ?_⟩, le_refl g⟩
    · rcases List.mem_append.mp member with old | new
      · exact fit.adds other old
      · rw [List.mem_singleton.mp new]
        exact adds
    · have enough := fit.enough
      show (σ.new ++ [values]).length + g ≤ g'
      rw [List.length_append, List.length_singleton]
      omega
  execute _ statement sends := retains_flushed retains_autoflush (retains_dbCall (.execute statement) nofun fun _ => sends)
  flush _ := retains_flushPending
  refresh _ _ := retains_flushed retains_autoflush (retains_dbCall .refresh nofun fun _ => trivial)
  commit _ may := retains_flushed retains_flushPending (retains_dbCall .commit nofun fun _ => may)
  rollback _ := retains_cleared (retains_dbCall .rollback nofun fun _ => trivial)
  close _ := retains_cleared (retains_bind (retains_dbCall .close nofun fun _ => trivial)
    fun _ _ => retains_pure (trivial : E.Unit (.ok ())))
  now := retains_mono (fun _ _ => trivial) (retains_dbCall .now nofun fun _ => trivial)

/-- What holds of the handler holds of its transaction: it inserts no more than was added. -/
theorem task_yields {u : UnicodeData} {job : Job} {n : Nat} {post : JobResult → Prop} (may : E.commits)
    (meets : (job.handler u).Meets E n post) :
    (job.task u autoflush).Yields (dbMeter E) n fun outcome _ => RaisesOr E.raises post outcome := by
  have ran := adds_run (asyncSession_conforms E autoflush) may meets {} n (nothing_pends n)
  refine Program.yields_bind ran ?_
  rintro ended g ⟨h, -, holds⟩
  exact holds

end

/-! ### What is sent and inserted -/

/-- The statements that a job sends. -/
inductive Sends : Job → Statement → Prop where
  | user (cmd : CreateOrganizationCmdIn) (uuidGen : Nat → UUID) :
    Sends (.createOrganization cmd uuidGen) (.selectUser cmd.principal.issuer cmd.principal.subject)
  | owner (cmd : CreateOrganizationCmdIn) (uuidGen : Nat → UUID) (user : User) :
    Sends (.createOrganization cmd uuidGen)
      (.insertMembership (membershipValues ⟨⟨uuidGen 1⟩, ⟨uuidGen 0⟩, user.publicId, .owner⟩))
  | login (principal : Principal) (uuidGen : Nat → UUID) (now : DateTime) :
    Sends (.provisionUser principal uuidGen)
      (.upsertUser (userValues (userFromClaims principal ⟨uuidGen 0⟩ now))
        (userUpdate (userFromClaims principal ⟨uuidGen 0⟩ now)))

/-- The organization that the job may insert, under the name that it was asked to, validated. -/
def Inserted (u : UnicodeData) (job : Job) (values : OrganizationValues) : Prop :=
  ∃ cmd uuidGen, job = .createOrganization cmd uuidGen ∧ values.publicId = uuidGen 0 ∧
    validateOrgName u cmd.name = .ok values.name

/-- Nothing is expected but of what is added. -/
def anything (adds : OrganizationValues → Prop) : Expected where
  raises _ := True
  adds := adds
  executes _ := True
  commits := True
  answers _ _ := True
  persistence _ _ := trivial
  notInitialized _ := trivial
  resultCount := trivial
  translates _ _ := trivial

def Named (u : UnicodeData) (jobs : Nat → Job) (d : Database) : Prop :=
  ∀ id o, d.organizations.Live id o → Inserted u (jobs o.writtenBy) o.values

section
variable {server : Server} {u : UnicodeData} {autoflush : Bool} {jobs : Nat → Job} {job : Job}
  {state : Running DbOp DbOp.Ret Database (Except Exc JobResult)}

theorem raisesOr_anything {α : Type} {adds : OrganizationValues → Prop} (outcome : Except Exc α) :
    RaisesOr (anything adds).raises (fun _ => True) outcome := by
  cases outcome <;> trivial

theorem anything_likely {adds : OrganizationValues → Prop} (op : DbOp) (answer : op.Ret) :
    Likely (anything adds).raises (anything adds).answers op answer := by
  cases op with
  | now | close => trivial
  | execute | insertOrganization | refresh | commit | rollback => exact raisesOr_anything answer

theorem name_validated {value : String} {name : Name u} (created : Name.create u value = .ok name) :
    validateOrgName u value = .ok name.value := by
  unfold Name.create at created
  split at created <;> cases created
  assumption

theorem name_created {value normalized : String} (validated : validateOrgName u value = .ok normalized) :
    ∃ name, Name.create u value = .ok name ∧ name.value = normalized := by
  unfold Name.create
  split
  · rename_i other created
    rw [validated] at created
    cases created
    exact ⟨_, rfl, rfl⟩
  · rename_i raised
    rw [validated] at raised
    cases raised

/-- A handler raises what it is answered, or one of its own two errors. -/
theorem handler_meets {E : Expected} (adds : ∀ values, Inserted u job values → E.adds values)
    (sends : ∀ statement, Sends job statement → E.executes statement)
    (unknown : E.raises (.app (notFound "User not found"))) (invalid : ∀ e, E.raises (.validation e)) :
    (job.handler u).Meets E 1 fun _ => True := by
  unfold HandlerProgram.Meets
  cases job with
  | provisionUser principal uuidGen =>
    rw [provisionUser_handler]
    refine ⟨trivial, ?_⟩
    rintro (raised | now) likely
    · exact likely
    · refine ⟨sends _ (.login principal uuidGen now), ?_⟩
      rintro (raised | ⟨user, created⟩) likely
      · exact likely
      · trivial
  | createOrganization cmd uuidGen =>
    rw [createOrganization_handler]
    refine ⟨sends _ (.user cmd uuidGen), ?_⟩
    rintro (raised | _ | user) likely
    · exact likely
    · exact unknown
    · cases created : Name.create u cmd.name with
      | error raised =>
        simp only
        exact invalid raised
      | ok name =>
        simp only
        refine ⟨⟨adds _ ⟨cmd, uuidGen, rfl, rfl, name_validated created⟩, Nat.one_pos⟩, ?_⟩
        rintro (raised | _) likely
        · exact likely
        · refine ⟨sends _ (.owner cmd uuidGen user), ?_⟩
          rintro (raised | _) likely
          · exact likely
          · trivial

/-! ### What is inserted -/

theorem permits_named {i : Nat} {op : DbOp} {d d' : Database} {answer : op.Ret} {g : Nat} (named : Named u jobs d)
    (allowed : (dbMeter (anything (Inserted u (jobs i)))).allowed g op)
    (permitted : Permits server.nameCanonical i op d answer d') : Named u jobs d' := by
  intro id o live
  rcases permits_live permitted live with older | ⟨values, rfl, rfl⟩
  · exact named id o older
  · exact allowed.1

theorem reachable_named (reached : Reachable server u autoflush jobs state) : Named u jobs state.store := by
  have empty : Named u jobs .empty := fun id o live => (Table.empty_live id o live).elim
  have meets (i : Nat) : ((jobs i).handler u).Meets (anything (Inserted u (jobs i))) 1 fun _ => True :=
    handler_meets (fun _ inserted => inserted) (fun _ _ => trivial) trivial fun _ => trivial
  have runs := reachable_yields (fun state _ => Named u jobs state.store) (fun _ => True) (fun _ => 1) ?_ empty
    (fun i _ => task_yields trivial (meets i)) reached
  · obtain ⟨g, named, -⟩ := runs
    exact named
  · intro state g i op next answer after named pending allowed called _
    exact ⟨fun _ => anything_likely op answer, permits_named named (allowed trivial) (server.conforms called)⟩

end

end PetBackend.Postgres
