import PetBackend.Library.Protocols
import PetBackend.Postgres.Session

/-!
# What a session calls

Which calls each part of a transaction makes of the database, whatever it is answered.
-/

namespace PetBackend.Postgres
open Library Persistence Py

/-- Neither reads the clock nor upserts a user. -/
def Routine : DbOp → Prop
  | .now => False
  | .execute (.upsertUser ..) => False
  | _ => True

def Makes {α : Type} (may : DbOp → Prop) (call : SessionM α) : Prop := ∀ σ, (call.run σ).Only may

def CodeMakes {α : Type} (may : DbOp → Prop) (code : Py SessionM α) : Prop := ∀ uow, Makes may (code uow)

section
variable {α β : Type} {may : DbOp → Prop} {autoflush : Bool} {u : UnicodeData}

theorem makes_pure (value : α) : Makes may (pure value) := fun _ => trivial

theorem makes_bind {first : SessionM α} {rest : α → SessionM β} (makes : Makes may first)
    (then_ : ∀ value, Makes may (rest value)) : Makes may (first >>= rest) := by
  intro σ
  rw [StateT.run_bind]
  exact Program.only_bind (makes σ) fun ended => then_ ended.1 ended.2

theorem makes_set (state : SessionState) : Makes may (set state) := fun _ => trivial

theorem makes_dbCall {op : DbOp} (allowed : may op) : Makes may (dbCall op) :=
  fun _ => ⟨allowed, fun _ => trivial⟩

theorem code_pure (value : α) : CodeMakes may (pure value) := fun _ => makes_pure _

theorem code_raise (raised : Exc) : CodeMakes may (raise raised : Py SessionM α) := fun _ => makes_pure _

theorem code_settle (outcome : Except Exc α) : CodeMakes may (settle outcome) := by
  cases outcome with
  | ok value => exact code_pure value
  | error raised => exact code_raise raised

theorem code_read (field : UnitOfWork → α) : CodeMakes may (read field) := fun _ => makes_pure _

theorem code_write (change : UnitOfWork → UnitOfWork) : CodeMakes may (write change) :=
  fun _ => makes_pure _

theorem code_await {call : SessionM (Except Exc α)} (makes : Makes may call) : CodeMakes may (await call) :=
  fun _ => makes_bind makes fun _ => makes_pure _

theorem code_lift {call : SessionM α} (makes : Makes may call) : CodeMakes may (lift call) :=
  fun _ => makes_bind makes fun _ => makes_pure _

theorem code_bind {first : Py SessionM α} {rest : α → Py SessionM β} (makes : CodeMakes may first)
    (then_ : ∀ value, CodeMakes may (rest value)) : CodeMakes may (first >>= rest) := by
  intro uow
  show Makes may (Py.bind first rest uow)
  refine makes_bind (makes uow) ?_
  rintro ⟨raised | value, uow'⟩
  · exact makes_pure _
  · exact then_ value uow'

theorem code_attempt {body : Py SessionM α} (makes : CodeMakes may body) : CodeMakes may (attempt body) :=
  fun uow => makes_bind (makes uow) fun _ => makes_pure _

theorem code_exceptDriver {body : Py SessionM α} {handler : DriverError → Py SessionM α}
    (makes : CodeMakes may body) (then_ : ∀ e, CodeMakes may (handler e)) :
    CodeMakes may (exceptDriver body handler) := by
  refine code_bind (code_attempt makes) ?_
  rintro (raised | value)
  · cases raised with
    | driver e => exact then_ e
    | _ => exact code_settle _
  · exact code_settle _

theorem code_accessor {field : String} {slot : UnitOfWork → Option SessionId} :
    CodeMakes may (accessor field slot) := by
  refine code_bind (code_read slot) ?_
  rintro (_ | value)
  · exact code_raise _
  · exact code_pure value

theorem code_aenter : CodeMakes may (aenter (asyncSession autoflush)) := fun _ _ => trivial

/-! ### The session -/

variable (routine : ∀ op, Routine op → may op)
include routine

theorem makes_insertPending (pending : List OrganizationValues) : Makes may (insertPending pending) := by
  induction pending with
  | nil => exact makes_pure _
  | cons values rest ih =>
    refine makes_bind (makes_dbCall (routine _ trivial)) ?_
    rintro (raised | _)
    · exact makes_pure _
    · exact ih

theorem makes_flushPending : Makes may flushPending :=
  makes_bind (fun _ => trivial) fun pending =>
    makes_bind (makes_set _) fun _ => makes_insertPending routine pending.new

theorem makes_autoflush : Makes may (autoflushPending autoflush) := by
  unfold autoflushPending
  split
  · exact makes_flushPending routine
  · exact makes_pure _

theorem makes_execute {s : SessionId} {statement : Statement} (allowed : may (.execute statement)) :
    Makes may ((asyncSession autoflush).execute s statement) := by
  refine makes_bind (makes_autoflush routine) ?_
  rintro (raised | _)
  · exact makes_pure _
  · exact makes_dbCall allowed

theorem makes_refresh (s : SessionId) (attrs : Option (List String)) :
    Makes may ((asyncSession autoflush).refresh s attrs) := by
  refine makes_bind (makes_autoflush routine) ?_
  rintro (raised | _)
  · exact makes_pure _
  · exact makes_dbCall (routine _ trivial)

theorem makes_commit (s : SessionId) : Makes may ((asyncSession autoflush).commit s) := by
  refine makes_bind (makes_flushPending routine) ?_
  rintro (raised | _)
  · exact makes_pure _
  · exact makes_dbCall (routine _ trivial)

theorem makes_rollback (s : SessionId) : Makes may ((asyncSession autoflush).rollback s) :=
  makes_bind (makes_set _) fun _ => makes_dbCall (routine _ trivial)

theorem makes_close (s : SessionId) : Makes may ((asyncSession autoflush).close s) :=
  makes_bind (makes_set _) fun _ => makes_bind (makes_dbCall (routine _ trivial)) fun _ => makes_pure _

/-! ### The unit of work -/

theorem code_rollbackAfterFailure : CodeMakes may (rollbackAfterFailure (asyncSession autoflush)) :=
  code_exceptDriver
    (code_bind code_accessor fun s =>
      code_bind (code_await (makes_rollback routine s)) fun _ => code_write _)
    fun _ => code_pure _

theorem code_rollback : CodeMakes may (rollback (asyncSession autoflush)) :=
  code_exceptDriver
    (code_bind code_accessor fun s =>
      code_bind (code_await (makes_rollback routine s)) fun _ => code_write _)
    fun _ => code_raise _

theorem code_commit : CodeMakes may (commit (asyncSession autoflush)) :=
  code_exceptDriver (code_bind code_accessor fun s => code_await (makes_commit routine s))
    fun _ => code_bind (code_rollbackAfterFailure routine) fun _ => code_raise _

theorem code_flush : CodeMakes may (flush (asyncSession autoflush)) :=
  code_exceptDriver (code_bind code_accessor fun _ => code_await (makes_flushPending routine))
    fun _ => code_bind (code_rollbackAfterFailure routine) fun _ => code_raise _

theorem code_refresh (attrs : Option (List String)) :
    CodeMakes may (refresh (asyncSession autoflush) attrs) :=
  code_exceptDriver (code_bind code_accessor fun s => code_await (makes_refresh routine s attrs))
    fun _ => code_raise _

theorem code_repoExecute {s : SessionId} {statement : Statement} (allowed : may (.execute statement)) :
    CodeMakes may (repoExecute (asyncSession autoflush) s statement) :=
  code_exceptDriver (code_await (makes_execute routine allowed)) fun _ => code_raise _

theorem code_upsert {user : User} (allowed : may (.execute (.upsertUser (userValues user) (userUpdate user)))) :
    CodeMakes may (upsert (asyncSession autoflush) user) := by
  refine code_bind code_accessor fun s => code_bind (code_repoExecute routine allowed) ?_
  rintro (_ | ⟨row, _ | ⟨second, rest⟩⟩)
  · exact code_raise _
  · exact code_pure _
  · exact code_raise _

theorem code_getByAuthIdentity (issuer subject : String) :
    CodeMakes may (getByAuthIdentity (asyncSession autoflush) issuer subject) := by
  refine code_bind code_accessor fun s =>
    code_bind (code_repoExecute routine (routine _ trivial)) ?_
  rintro (_ | ⟨orm, _ | ⟨second, rest⟩⟩)
  · exact code_pure _
  · exact code_pure _
  · exact code_raise _

/-- What the unit of work is asked, except for the clock and the upsert. -/
def Ordinary : UowOp u → Prop
  | .now | .upsert _ => False
  | _ => True

theorem code_perform {op : UowOp u} (ordinary : Ordinary op) :
    CodeMakes may (perform (asyncSession autoflush) op) := by
  cases op with
  | orgsCreate org => exact code_bind code_accessor fun s => code_lift fun _ => trivial
  | membershipsCreate membership =>
    exact code_bind code_accessor fun s => code_repoExecute routine (routine _ trivial)
  | getByAuthIdentity issuer subject => exact code_getByAuthIdentity routine issuer subject
  | upsert user => exact ordinary.elim
  | flush => exact code_flush routine
  | refresh attrs => exact code_refresh routine attrs
  | commit => exact code_commit routine
  | rollback => exact code_rollback routine
  | now => exact ordinary.elim

theorem code_runHandler {handler : HandlerProgram u α} (only : handler.Only Ordinary) :
    CodeMakes may (runHandler (asyncSession autoflush) handler) := by
  induction handler with
  | done outcome => exact code_settle outcome
  | call op next ih =>
    exact code_bind (code_attempt (code_perform routine only.1)) fun answer => ih answer (only.2 answer)

theorem code_closingRollback (current : SessionId) (exc : Option Exc) :
    CodeMakes may (closingRollback (asyncSession autoflush) current exc) := by
  refine code_exceptDriver (code_bind (code_read _) fun rolledBack => ?_) fun _ => code_raise _
  split
  · exact code_await (makes_rollback routine current)
  · exact code_pure _

theorem code_aexit (exc : Option Exc) : CodeMakes may (aexit (asyncSession autoflush) exc) := by
  refine code_bind (code_read _) ?_
  rintro (_ | current)
  · exact code_raise _
  · exact code_bind (code_attempt (code_closingRollback routine current exc)) fun closing =>
      code_bind code_accessor fun s => code_bind (code_await (makes_close routine s)) fun _ =>
        code_bind (code_write _) fun _ => code_settle closing

end

/-! ### A protocol -/

section
variable {α β : Type} {P : Protocol DbOp DbOp.Ret} {p : P.State} {autoflush : Bool} {u : UnicodeData}

def Keeps {α : Type} (P : Protocol DbOp DbOp.Ret) (p : P.State) (call : SessionM α) : Prop :=
  ∀ σ, (call.run σ).Obeys P p

variable (neutral : ∀ op, Routine op → ∀ q, Program.Neutral P q op)
include neutral

theorem makes_keeps {call : SessionM α} (makes : Makes Routine call) (q : P.State) : Keeps P q call :=
  fun σ => Program.obeys_only (fun op routine => neutral op routine q) (makes σ)

theorem keeps_bind {first : SessionM α} {rest : α → SessionM β} (keeps : Keeps P p first)
    (then_ : ∀ value, Makes Routine (rest value)) : Keeps P p (first >>= rest) := by
  intro σ
  rw [StateT.run_bind]
  exact Program.obeys_bind (keeps σ) fun ended q => makes_keeps neutral (then_ ended.1) q ended.2

theorem makes_bind_keeps {first : SessionM α} {rest : α → SessionM β} (makes : Makes Routine first)
    (then_ : ∀ value, Keeps P p (rest value)) : Keeps P p (first >>= rest) := by
  intro σ
  rw [StateT.run_bind]
  exact Program.only_bind_obeys (fun op routine => neutral op routine p) (makes σ)
    fun ended => then_ ended.1 ended.2

theorem code_bind_keeps {first : Py SessionM α} {rest : α → Py SessionM β}
    (keeps : ∀ uow, Keeps P p (first uow)) (then_ : ∀ value, CodeMakes Routine (rest value))
    (uow : UnitOfWork) : Keeps P p ((first >>= rest) uow) := by
  show Keeps P p (Py.bind first rest uow)
  refine keeps_bind neutral (keeps uow) ?_
  rintro ⟨raised | value, uow'⟩
  · exact makes_pure _
  · exact then_ value uow'

/-- A transaction keeps to a protocol on everything but routine calls if its handler does. -/
theorem keeps_run {handler : HandlerProgram u α}
    (keeps : ∀ uow, Keeps P p (runHandler (asyncSession autoflush) handler uow)) :
    Keeps P p (run (asyncSession autoflush) handler) := by
  have body (uow : UnitOfWork) : Keeps P p (withBody (asyncSession autoflush) handler uow) := by
    refine code_bind_keeps neutral (fun uow => keeps_bind neutral ?_ fun _ => makes_pure _) ?_ uow
    · exact code_bind_keeps neutral keeps (fun _ => code_bind (code_commit fun _ routine => routine)
        fun _ => code_pure _) uow
    · rintro (raised | result)
      · exact code_raise _
      · exact code_pure _
  refine makes_bind_keeps neutral (code_aenter {}) ?_
  rintro ⟨raised | _, uow⟩
  · exact makes_keeps neutral (makes_pure _) p
  · refine keeps_bind neutral (body uow) ?_
    rintro ⟨raised | result, uow'⟩
    · refine makes_bind (code_aexit (fun _ routine => routine) _ uow') ?_
      rintro ⟨replacing | _, uow''⟩ <;> exact makes_pure _
    · exact makes_bind (code_aexit (fun _ routine => routine) _ uow') fun _ => makes_pure _

end

end PetBackend.Postgres
