import PetBackend.Library.RelyGuarantee
import PetBackend.Postgres.Session

/-!
# Rules for code on a session

Preconditions and postconditions of code that shares the database, each judged from the states the
other transactions may leave.
-/

namespace PetBackend.Postgres
open Library Persistence Py

variable {E : Setting DbOp DbOp.Ret Database} {α β : Type} {σ : SessionState} {d : Database}
  {uow : UnitOfWork} {u : UnicodeData}

/-- A call on the session, from `σ` and `d`, is safe and ends in `post`. -/
def Calls (E : Setting DbOp DbOp.Ret Database) (call : SessionM α)
    (post : α → SessionState → Database → Prop) (σ : SessionState) (d : Database) : Prop :=
  E.Safe (fun ended t => post ended.1 ended.2 t) (call.run σ) d

def Ends (E : Setting DbOp DbOp.Ret Database) (code : Py SessionM α)
    (post : Except Exc α → UnitOfWork → SessionState → Database → Prop) (uow : UnitOfWork)
    (σ : SessionState) (d : Database) : Prop :=
  Calls E (code uow) (fun ended σ t => post ended.1 ended.2 σ t) σ d

/-- The assertion holds and goes on holding, whatever the other transactions do. -/
def Lasts (E : Setting DbOp DbOp.Ret Database) (holds : Database → Prop) (d : Database) : Prop :=
  ∀ t, E.rely d t → E.inv t → holds t

/-! ### The session -/

theorem calls_pure {post : α → SessionState → Database → Prop} {value : α}
    (lasts : Lasts E (post value σ) d) : Calls E (pure value) post σ d := lasts

theorem calls_set {post : PUnit → SessionState → Database → Prop} {state : SessionState}
    (lasts : Lasts E (post ⟨⟩ state) d) : Calls E (set state) post σ d := lasts

theorem calls_modify {post : PUnit → SessionState → Database → Prop} {f : SessionState → SessionState}
    (lasts : Lasts E (post ⟨⟩ (f σ)) d) : Calls E (modify f) post σ d := lasts

theorem calls_mono {post weaker : α → SessionState → Database → Prop} {call : SessionM α}
    (weaken : ∀ value σ t, E.inv t → post value σ t → weaker value σ t)
    (safe : Calls E call post σ d) : Calls E call weaker σ d :=
  Setting.safe_mono (fun ended => weaken ended.1 ended.2) safe

theorem calls_bind {post : β → SessionState → Database → Prop} {first : SessionM α}
    {rest : α → SessionM β} (valid : E.inv d)
    (safe : Calls E first (fun value σ t => E.inv t → Calls E (rest value) post σ t) σ d) :
    Calls E (first >>= rest) post σ d := by
  unfold Calls
  rw [StateT.run_bind]
  exact Setting.safe_bind safe (fun ended t stays follows => follows stays) valid

theorem calls_dbCall {post : (answer : DbOp.Ret op) → SessionState → Database → Prop}
    (called : ∀ t, E.rely d t → E.inv t → ∀ answer after, E.step op t answer after →
      E.guarantee t after ∧ E.inv after ∧ Lasts E (post answer σ) after) :
    Calls E (dbCall op) post σ d := called

/-! ### The unit of work -/

section
variable {post : Except Exc α → UnitOfWork → SessionState → Database → Prop}

theorem ends_pure {value : α} (lasts : Lasts E (post (.ok value) uow σ) d) :
    Ends E (pure value) post uow σ d := lasts

theorem ends_raise {raised : Exc} (lasts : Lasts E (post (.error raised) uow σ) d) :
    Ends E (raise raised) post uow σ d := lasts

theorem ends_settle {outcome : Except Exc α} (lasts : Lasts E (post outcome uow σ) d) :
    Ends E (settle outcome) post uow σ d := by
  cases outcome with
  | ok value => exact ends_pure lasts
  | error raised => exact ends_raise lasts

theorem ends_await {call : SessionM (Except Exc α)} (valid : E.inv d)
    (safe : Calls E call (fun outcome σ t => post outcome uow σ t) σ d) :
    Ends E (await call) post uow σ d := by
  refine calls_bind valid ?_
  refine Setting.safe_mono ?_ (Setting.safe_closed safe)
  exact fun ended t _ lasts _ => calls_pure lasts

theorem ends_lift {call : SessionM α} (valid : E.inv d)
    (safe : Calls E call (fun value σ t => post (.ok value) uow σ t) σ d) :
    Ends E (lift call) post uow σ d := by
  refine calls_bind valid ?_
  refine Setting.safe_mono ?_ (Setting.safe_closed safe)
  exact fun ended t _ lasts _ => calls_pure lasts

theorem ends_read {field : UnitOfWork → α} (lasts : Lasts E (post (.ok (field uow)) uow σ) d) :
    Ends E (read field) post uow σ d := lasts

theorem ends_write {post : Except Exc Unit → UnitOfWork → SessionState → Database → Prop}
    {change : UnitOfWork → UnitOfWork} (lasts : Lasts E (post (.ok ()) (change uow) σ) d) :
    Ends E (write change) post uow σ d := lasts

theorem ends_mono {weaker : Except Exc α → UnitOfWork → SessionState → Database → Prop}
    {code : Py SessionM α} (weaken : ∀ outcome uow σ t, E.inv t → post outcome uow σ t →
      weaker outcome uow σ t) (safe : Ends E code post uow σ d) : Ends E code weaker uow σ d :=
  calls_mono (fun ended => weaken ended.1 ended.2) safe

theorem ends_attempt {post : Except Exc (Except Exc α) → UnitOfWork → SessionState → Database → Prop}
    {body : Py SessionM α} (valid : E.inv d)
    (safe : Ends E body (fun outcome uow σ t => post (.ok outcome) uow σ t) uow σ d) :
    Ends E (attempt body) post uow σ d := by
  refine calls_bind valid ?_
  refine Setting.safe_mono ?_ (Setting.safe_closed safe)
  rintro ⟨⟨outcome, uow⟩, σ⟩ t _ lasts _
  exact calls_pure lasts

theorem ends_bind {post : Except Exc β → UnitOfWork → SessionState → Database → Prop}
    {first : Py SessionM α} {rest : α → Py SessionM β} (valid : E.inv d)
    (safe : Ends E first (fun outcome uow σ t => match outcome with
      | .ok value => E.inv t → Ends E (rest value) post uow σ t
      | .error raised => post (.error raised) uow σ t) uow σ d) :
    Ends E (first >>= rest) post uow σ d := by
  show Calls E (Py.bind first rest uow) _ σ d
  unfold Py.bind
  refine calls_bind valid ?_
  refine Setting.safe_mono ?_ (Setting.safe_closed safe)
  rintro ⟨⟨raised | value, uow⟩, σ⟩ t stays lasts _
  · exact calls_pure lasts
  · exact lasts t (E.rely_refl t) stays stays

theorem ends_exceptDriver {body : Py SessionM α} {handler : DriverError → Py SessionM α}
    (valid : E.inv d) (safe : Ends E body (fun outcome uow σ t => match outcome with
      | .error (.driver e) => E.inv t → Ends E (handler e) post uow σ t
      | outcome => post outcome uow σ t) uow σ d) :
    Ends E (exceptDriver body handler) post uow σ d := by
  refine ends_bind valid (ends_attempt valid ?_)
  refine Setting.safe_mono ?_ (Setting.safe_closed safe)
  rintro ⟨⟨raised | value, uow⟩, σ⟩ t stays lasts _
  · cases raised with
    | driver e => exact lasts t (E.rely_refl t) stays stays
    | _ => exact ends_settle lasts
  · exact ends_settle lasts

theorem ends_accessor {field : String} {slot : UnitOfWork → Option SessionId} {id : SessionId}
    {rest : SessionId → Py SessionM α} (set : slot uow = some id) (valid : E.inv d)
    (safe : Ends E (rest id) post uow σ d) : Ends E (accessor field slot >>= rest) post uow σ d := by
  refine ends_bind valid (ends_bind valid (ends_read fun t moved _ => ?_))
  simp only [set]
  exact fun _ => ends_pure fun t' moved' _ _ =>
    Setting.safe_rely (E.rely_trans moved moved') safe

theorem ends_call {op : UowOp u} {next : op.Ret → HandlerProgram u α} {api : SessionApi SessionM}
    (valid : E.inv d) (safe : Ends E (perform api op) (fun outcome uow σ t => E.inv t →
      Ends E (runHandler api (next outcome)) post uow σ t) uow σ d) :
    Ends E (runHandler api (.call op next)) post uow σ d :=
  ends_bind valid (ends_attempt valid safe)

end

end PetBackend.Postgres
