import PetBackend.Postgres.KnownUsers

/-!
# Names that are taken

A transaction that ends in its organization's name being taken is told so of an organization that is committed.
-/

namespace PetBackend.Postgres
open Library Persistence

/-- The diagnosis that is answered with the name being taken. -/
def NameViolation (e : PersistenceError) : Prop :=
  e.kind = .unique ∧ e.constraintName = some "uq_organizations_name_canonical"

def NameClash : Exc → Prop
  | .driver e => NameViolation (determineExc e)
  | .persistence e => NameViolation e
  | .app e => e.code = .organizationNameTaken
  | _ => False

def NameHeld (server : Server) (d : Database) (name : String) : Prop :=
  ∃ id o, o ∈ d.organizations.versions id ∧ server.nameCanonical o.values.name = server.nameCanonical name

/-- The unique constraint on the canonical name is reported for an insert, and if a row of that canonical name is
committed or was inserted by the transaction itself. -/
def Honest (nameCanonical : String → String) (i : Nat) (op : DbOp) (d : Database) (raised : Exc) : Prop :=
  NameClash raised → ∃ values, op = .insertOrganization values ∧
    ∃ id o, (o ∈ d.organizations.versions id ∨ d.organizations.own i id = some o) ∧
      nameCanonical o.values.name = nameCanonical values.name

/-- Hypothesis on the server: it reports no conflict of names that there is not. -/
def HonestConflicts (server : Server) : Prop :=
  ∀ i op d answer after, server.step i op d answer after →
    Likely (Honest server.nameCanonical i op d) (fun _ _ => True) op answer

theorem translated_violation {e : PersistenceError} (taken : (translateDbError e).code = .organizationNameTaken) :
    NameViolation e := by
  cases kind : e.kind with
  | unique =>
    by_cases named : e.constraintName = some "uq_organizations_name_canonical"
    · exact ⟨kind, named⟩
    · simp only [translateDbError, kind, if_neg named] at taken
      cases taken
  | _ =>
    simp only [translateDbError, kind] at taken
    cases taken

/-- If anything raised says that the name is taken, then it is `held`. -/
def truthful (adds : OrganizationValues → Prop) (held : Prop) : Expected where
  raises raised := NameClash raised → held
  adds := adds
  executes _ := True
  commits := True
  answers _ _ := True
  persistence _ expected := expected
  notInitialized _ := False.elim
  resultCount clash := by cases clash.1
  translates raised expected clash := by
    cases raised with
    | persistence e => exact expected (translated_violation clash)
    | validation e => cases clash
    | _ => exact expected clash

section
variable {server : Server} {u : UnicodeData} {autoflush : Bool} {jobs : Nat → Job}
  {state later : Running DbOp DbOp.Ret Database (Except Exc JobResult)}

def OrganizationsGrow (d d' : Database) : Prop := ∀ id, d.organizations.versions id <:+ d'.organizations.versions id

theorem organizations_grow (reached : Reachable server u autoflush jobs state)
    (further : Running.Reachable server.step state later) : OrganizationsGrow state.store later.store := by
  have grows : OrganizationsGrow state.store later.store := by
    refine reachable_monotone setting_compatible (fun d id => List.suffix_rfl)
      (fun a b id => (a id).trans (b id)) ?_ (reachable_jobs_sound reached) further
    intro i s t spared id
    obtain ⟨newer, grown, _⟩ := (spared (i + 1) (Nat.ne_of_lt i.lt_succ_self)).organizations.grown id
    exact ⟨newer, grown.symm⟩
  exact grows

theorem NameHeld.grows {d d' : Database} {name : String} (held : NameHeld server d name)
    (grows : OrganizationsGrow d d') : NameHeld server d' name := by
  obtain ⟨id, o, committed, same⟩ := held
  exact ⟨id, o, (grows id).subset committed, same⟩

/-- A transaction that may still insert has inserted nothing. -/
structure Unspent (d : Database) (i : Nat) (left : Nat) : Prop where
  once : left ≤ 1
  spent : ∀ id o, d.organizations.own i id = some o → left = 0

theorem unspent_called {E : Expected} {d after : Database} {i k : Nat} {g : Nat → Nat} {op : DbOp} {answer : op.Ret}
    (unspent : Unspent d i (g i)) (permitted : Permits server.nameCanonical k op d answer after) :
    Unspent after i (Function.update g k ((dbMeter E).left (g k) op) i) := by
  have lower : (dbMeter E).left (g i) op ≤ g i := by
    cases op with
    | insertOrganization values => exact Nat.sub_le _ _
    | _ => exact le_refl _
  by_cases same : i = k
  · subst same
    rw [Function.update_self]
    refine ⟨le_trans lower unspent.once, fun id o own => ?_⟩
    rcases permits_own permitted own with older | ⟨-, values, rfl⟩
    · have none := unspent.spent id o older
      omega
    · have once := unspent.once
      show g i - 1 = 0
      omega
  · rw [Function.update_of_ne same]
    refine ⟨unspent.once, fun id o own => ?_⟩
    rcases permits_own permitted own with older | ⟨here, -⟩
    · exact unspent.spent id o older
    · exact (same here).elim

/-- A name that is reported as taken is held for good. -/
theorem called_truthful (honest : HonestConflicts server) {d after : Database} {i left : Nat} {op : DbOp}
    {answer : op.Ret} {adds : OrganizationValues → Prop} {held : Prop} (unspent : Unspent d i left)
    (allowed : (dbMeter (truthful adds held)).allowed left op) (called : server.step i op d answer after)
    (lasts : ∀ values, adds values → NameHeld server d values.name → held) :
    Likely (truthful adds held).raises (truthful adds held).answers op answer := by
  refine likely_weaken (fun raised clashes clash => ?_) (honest i op d answer after called)
  obtain ⟨values, rfl, id, o, committed | own, same⟩ := clashes clash
  · exact lasts values allowed.1 ⟨id, o, committed, same⟩
  · have none := unspent.spent id o own
    have some : 0 < left := allowed.2
    omega

/-- Whoever is told that a name is taken was to insert it, and an organization of its canonical name is committed. -/
theorem clash_held (honest : HonestConflicts server) (reached : Reachable server u autoflush jobs state) {i : Nat}
    {e : AppError} (ended : state.tasks i = .done (.error (.app e))) (taken : e.code = .organizationNameTaken) :
    ∃ values, Inserted u (jobs i) values ∧ NameHeld server state.store values.name := by
  let E := truthful (Inserted u (jobs i)) (∃ values, Inserted u (jobs i) values ∧ NameHeld server state.store values.name)
  have starts : ∀ j, j = i → ((initial u autoflush jobs).tasks j).Yields (dbMeter E) 1
      fun outcome _ => RaisesOr E.raises (fun _ => True) outcome := by
    rintro j rfl
    exact task_yields trivial (handler_meets (fun _ inserted => inserted) (fun _ _ => trivial) nofun fun _ => nofun)
  have empty : Unspent (initial u autoflush jobs).store i 1 := ⟨le_refl 1, nofun⟩
  have runs := reachable_yields
    (fun middle g => Reachable server u autoflush jobs middle ∧ Unspent middle.store i (g i)) (· = i) (fun _ => 1) ?_
    ⟨.initial, empty⟩ starts reached
  · obtain ⟨g, -, yields⟩ := runs
    have outcome := yields i rfl
    rw [ended] at outcome
    exact outcome taken
  · rintro middle g k op next answer after ⟨reached, unspent⟩ pending allowed called remains
    have moved : Running.Step server.step middle _ := .call pending called
    have grows := organizations_grow reached ((Running.Reachable.step .initial moved).trans remains)
    refine ⟨?_, .step reached moved, unspent_called unspent (server.conforms called)⟩
    rintro rfl
    exact called_truthful honest unspent (allowed rfl) called
      fun values inserted held => ⟨values, inserted, held.grows grows⟩

end

/-! ### A sample server -/

/-- It does whatever is permitted, raises nothing of the application's own, and reports the conflicts that there
are. -/
def careful : Server where
  nameCanonical := id
  step i op d answer after := Permits id i op d answer after ∧
    Likely (fun raised => (∀ e, raised ≠ .app e) ∧ Honest id i op d raised) (fun _ _ => True) op answer
  conforms called := called.1

theorem careful_foreign : NoAppErrors careful := fun _ _ _ _ _ called =>
  likely_weaken (fun _ raised => raised.1) called.2

theorem careful_honest : HonestConflicts careful := fun _ _ _ _ _ called =>
  likely_weaken (fun _ raised => raised.2) called.2

/-- What the driver makes of a violation of the constraint. -/
def nameViolation : DriverError where
  errorClass := .integrityError
  orig := .object [("sqlstate", .str "23505"), ("constraint_name", .str "uq_organizations_name_canonical")]

end PetBackend.Postgres
