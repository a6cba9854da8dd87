import Mathlib.Order.Nat
import PetBackend.Library.Judgments
import PetBackend.Persistence.Executor

/-!
# What a transaction may raise

The unit of work and the executor under any judgment: what the session may be asked to add, what it may raise and
answer, and what of that leaves the transaction.
-/

namespace PetBackend.Persistence
open Library Py

variable {m : Type → Type} [Monad m] {J : Judgment m Nat} {α β : Type}

/-- Code on a unit of work, whatever the state of the unit, that adds no organization. -/
def Judged (J : Judgment m Nat) (code : Py m α) (post : Except Exc α → Prop) : Prop :=
  ∀ uow, J.Retains (code uow) fun ended => post ended.1

/-- Code that adds `n` organizations at most. -/
def Adds (J : Judgment m Nat) (n : Nat) (code : Py m α) (post : Except Exc α → Prop) : Prop :=
  ∀ uow g, n ≤ g → J.Yields g (code uow) fun ended _ => post ended.1

/-- A value as specified, or an exception among those expected. -/
def RaisesOr (raises : Exc → Prop) (post : α → Prop) : Except Exc α → Prop
  | .ok value => post value
  | .error raised => raises raised

theorem RaisesOr.mono {raises : Exc → Prop} {post weaker : α → Prop} (weaken : ∀ value, post value → weaker value)
    {outcome : Except Exc α} (ends : RaisesOr raises post outcome) : RaisesOr raises weaker outcome := by
  cases outcome with
  | ok value => exact weaken value ends
  | error raised => exact ends

/-! ### The rules -/

section
variable {post : Except Exc α → Prop} {raises : Exc → Prop}

theorem judged_pure {value : α} (holds : post (.ok value)) : Judged J (pure value) post := fun _ => retains_pure holds

theorem judged_raise {raised : Exc} (holds : post (.error raised)) : Judged J (raise raised) post :=
  fun _ => retains_pure holds

theorem judged_settle {outcome : Except Exc α} (holds : post outcome) : Judged J (settle outcome) post := by
  cases outcome with
  | ok value => exact judged_pure holds
  | error raised => exact judged_raise holds

theorem judged_mono {weaker : Except Exc α → Prop} {code : Py m α} (weaken : ∀ outcome, post outcome → weaker outcome)
    (judged : Judged J code post) : Judged J code weaker :=
  fun uow => retains_mono (fun ended => weaken ended.1) (judged uow)

theorem judged_await {call : m (Except Exc α)} (retains : J.Retains call post) : Judged J (await call) post :=
  fun _ => retains_bind retains fun _ holds => retains_pure holds

theorem judged_lift {call : m α} (retains : J.Retains call fun value => post (.ok value)) : Judged J (lift call) post :=
  fun _ => retains_bind retains fun _ holds => retains_pure holds

theorem judged_bind {post : β → Prop} {middle : α → Prop} {first : Py m α} {rest : α → Py m β}
    (judged : Judged J first (RaisesOr raises middle))
    (then_ : ∀ value, middle value → Judged J (rest value) (RaisesOr raises post)) :
    Judged J (first >>= rest) (RaisesOr raises post) := by
  intro uow
  show J.Retains (Py.bind first rest uow) _
  refine retains_bind (judged uow) ?_
  rintro ⟨raised | value, uow'⟩ holds
  · exact retains_pure holds
  · exact then_ value holds uow'

theorem judged_attempt {body : Py m α} (judged : Judged J body post) :
    Judged J (attempt body) (RaisesOr raises post) :=
  fun uow => retains_bind (judged uow) fun _ holds => retains_pure holds

theorem adds_settle {n : Nat} {outcome : Except Exc α} (holds : post outcome) : Adds J n (settle outcome) post := by
  intro uow g _
  cases outcome with
  | ok value => exact J.pure holds
  | error raised => exact J.pure holds

/-- What is left after the first part is there for the second. -/
theorem adds_bind {n : Nat} {post : β → Prop} {middle : α → Prop} {first : Py m α} {rest : α → Py m β}
    (judged : Judged J first (RaisesOr raises middle))
    (then_ : ∀ value, middle value → Adds J n (rest value) (RaisesOr raises post)) :
    Adds J n (first >>= rest) (RaisesOr raises post) := by
  intro uow g enough
  show J.Yields g (Py.bind first rest uow) _
  refine J.bind (judged uow g) ?_
  rintro ⟨raised | value, uow'⟩ g' ⟨more, holds⟩
  · exact J.pure holds
  · exact then_ value holds uow' g' (le_trans enough more)

theorem adds_then {n : Nat} {post : β → Prop} {middle : α → Prop} {first : Py m α} {rest : α → Py m β}
    (adds : Adds J n first (RaisesOr raises middle))
    (then_ : ∀ value, middle value → Judged J (rest value) (RaisesOr raises post)) :
    Adds J n (first >>= rest) (RaisesOr raises post) := by
  intro uow g enough
  show J.Yields g (Py.bind first rest uow) _
  refine J.bind (adds uow g enough) ?_
  rintro ⟨raised | value, uow'⟩ g' holds
  · exact J.pure holds
  · exact J.mono (fun _ _ there => there.2) (then_ value holds uow' g')

theorem adds_attempt {n : Nat} {body : Py m α} (adds : Adds J n body post) :
    Adds J n (attempt body) (RaisesOr raises post) :=
  fun uow g enough => J.bind (adds uow g enough) fun _ _ holds => J.pure holds

theorem judged_exceptDriver {post : α → Prop} {body : Py m α} {handler : DriverError → Py m α}
    (judged : Judged J body (RaisesOr raises post))
    (then_ : ∀ e, raises (.driver e) → Judged J (handler e) (RaisesOr raises post)) :
    Judged J (exceptDriver body handler) (RaisesOr raises post) := by
  refine judged_bind (judged_attempt judged) ?_
  rintro (raised | value) holds
  · cases raised with
    | driver e => exact then_ e holds
    | _ => exact judged_settle holds
  · exact judged_settle holds

end

/-! ### The session and what is expected of it -/

/-- What may be sent and whether anything may be committed, what statements may answer, what may be added, and what may
be raised anywhere. -/
structure Expected where
  raises : Exc → Prop
  adds : OrganizationValues → Prop
  executes : Statement → Prop
  commits : Prop
  answers : (statement : Statement) → statement.Result → Prop
  persistence : ∀ e, raises (.driver e) → raises (.persistence (determineExc e))
  notInitialized : ∀ field, raises (.uowNotInitialized field)
  resultCount : raises resultCountError
  translates : ∀ raised, raises raised → raises (translated raised)

variable (E : Expected)

/-- An awaited call that has nothing to tell but that it succeeded. -/
def Expected.Unit : Except Exc Unit → Prop := RaisesOr E.raises fun _ => True

structure Conforms (J : Judgment m Nat) (E : Expected) (api : SessionApi m) : Prop where
  sessionFactory : J.Retains api.sessionFactory fun _ => True
  orgsRepoFactory : ∀ s, J.Retains (api.orgsRepoFactory s) E.Unit
  usersRepoFactory : ∀ s, J.Retains (api.usersRepoFactory s) E.Unit
  membershipsRepoFactory : ∀ s, J.Retains (api.membershipsRepoFactory s) E.Unit
  add : ∀ s values g, E.adds values → J.Yields (g + 1) (api.add s values) fun _ g' => g ≤ g'
  execute : ∀ s statement, E.executes statement →
    J.Retains (api.execute s statement) (RaisesOr E.raises (E.answers statement))
  flush : ∀ s, J.Retains (api.flush s) E.Unit
  refresh : ∀ s attrs, J.Retains (api.refresh s attrs) E.Unit
  commit : ∀ s, E.commits → J.Retains (api.commit s) E.Unit
  rollback : ∀ s, J.Retains (api.rollback s) E.Unit
  close : ∀ s, J.Retains (api.close s) E.Unit
  now : J.Retains api.now fun _ => True

variable {E} {api : SessionApi m} (conforms : Conforms J E api) {u : UnicodeData}

theorem judged_read (E : Expected) (field : UnitOfWork → α) : Judged J (read field) (RaisesOr E.raises fun _ => True) :=
  fun _ => retains_pure trivial

theorem judged_write (E : Expected) (change : UnitOfWork → UnitOfWork) : Judged J (write change) E.Unit :=
  fun _ => retains_pure trivial

theorem judged_accessor (E : Expected) (field : String) (slot : UnitOfWork → Option SessionId) :
    Judged J (accessor field slot) (RaisesOr E.raises fun _ => True) := by
  refine judged_bind (judged_read E slot) ?_
  rintro (_ | value) -
  · exact judged_raise (E.notInitialized field)
  · exact judged_pure trivial

include conforms

theorem judged_rollbackAfterFailure : Judged J (rollbackAfterFailure api) E.Unit :=
  judged_exceptDriver
    (judged_bind (judged_accessor E _ _) fun s _ =>
      judged_bind (judged_await (conforms.rollback s)) fun _ _ => judged_write E _)
    fun _ _ => judged_pure trivial

theorem judged_rollback : Judged J (rollback api) E.Unit :=
  judged_exceptDriver
    (judged_bind (judged_accessor E _ _) fun s _ =>
      judged_bind (judged_await (conforms.rollback s)) fun _ _ => judged_write E _)
    fun _ expected => judged_raise (E.persistence _ expected)

theorem judged_commit (may : E.commits) : Judged J (commit api) E.Unit :=
  judged_exceptDriver
    (judged_bind (judged_accessor E _ _) fun s _ => judged_await (conforms.commit s may))
    fun _ expected => judged_bind (judged_rollbackAfterFailure conforms) fun _ _ => judged_raise (E.persistence _ expected)

theorem judged_flush : Judged J (flush api) E.Unit :=
  judged_exceptDriver
    (judged_bind (judged_accessor E _ _) fun s _ => judged_await (conforms.flush s))
    fun _ expected => judged_bind (judged_rollbackAfterFailure conforms) fun _ _ => judged_raise (E.persistence _ expected)

theorem judged_refresh (attrs : Option (List String)) : Judged J (refresh api attrs) E.Unit :=
  judged_exceptDriver
    (judged_bind (judged_accessor E _ _) fun s _ => judged_await (conforms.refresh s attrs))
    fun _ expected => judged_raise (E.persistence _ expected)

theorem judged_repoExecute (repo : SessionId) {statement : Statement} (sends : E.executes statement) :
    Judged J (repoExecute api repo statement) (RaisesOr E.raises (E.answers statement)) :=
  judged_exceptDriver (judged_await (conforms.execute repo statement sends))
    fun _ expected => judged_raise (E.persistence _ expected)

/-! ### The operations -/

/-- And what it gives. -/
def Expected.Gives (E : Expected) : (op : UowOp u) → op.Value → Prop
  | .getByAuthIdentity issuer subject, found =>
    (found = none ∧ E.answers (.selectUser issuer subject) []) ∨
      ∃ orm, found = some (toDomain orm) ∧ E.answers (.selectUser issuer subject) [orm]
  | _, _ => True

/-- A handler may add as many organizations as are left. -/
def Expected.meter (E : Expected) (u : UnicodeData) : Program.Meter (UowOp u) UowOp.Ret Nat where
  allowed
    | g, .orgsCreate org => E.adds ⟨org.publicId.value, org.name.value⟩ ∧ 0 < g
    | _, .membershipsCreate membership => E.executes (.insertMembership (membershipValues membership))
    | _, .getByAuthIdentity issuer subject => E.executes (.selectUser issuer subject)
    | _, .upsert user => E.executes (.upsertUser (userValues user) (userUpdate user))
    | _, .commit => E.commits
    | _, _ => True
  left
    | g, .orgsCreate _ => g - 1
    | g, _ => g
  credible op := RaisesOr E.raises (E.Gives op)

theorem judged_getByAuthIdentity {issuer subject : String} (sends : E.executes (.selectUser issuer subject)) :
    Judged J (getByAuthIdentity api issuer subject)
      (RaisesOr E.raises (E.Gives (u := u) (.getByAuthIdentity issuer subject))) := by
  refine judged_bind (judged_accessor E _ _) fun s _ => judged_bind (judged_repoExecute conforms s sends) ?_
  rintro (_ | ⟨orm, _ | ⟨second, rest⟩⟩) answered
  · exact judged_pure (Or.inl ⟨rfl, answered⟩)
  · exact judged_pure (Or.inr ⟨orm, rfl, answered⟩)
  · exact judged_raise E.resultCount

theorem judged_upsert {user : User} (sends : E.executes (.upsertUser (userValues user) (userUpdate user))) :
    Judged J (upsert api user) (RaisesOr E.raises fun _ => True) := by
  refine judged_bind (judged_accessor E _ _) fun s _ => judged_bind (judged_repoExecute conforms s sends) ?_
  rintro (_ | ⟨row, _ | ⟨second, rest⟩⟩) -
  · exact judged_raise E.resultCount
  · exact judged_pure trivial
  · exact judged_raise E.resultCount

/-- A call of a handler, with what it leaves. -/
theorem adds_perform {n : Nat} {op : UowOp u} {post : β → Prop} {rest : op.Ret → Py m β}
    (allowed : (E.meter u).allowed n op)
    (then_ : ∀ answer, (E.meter u).credible op answer →
      Adds J ((E.meter u).left n op) (rest answer) (RaisesOr E.raises post)) :
    Adds J n (attempt (perform api op) >>= rest) (RaisesOr E.raises post) := by
  cases op with
  | orgsCreate org =>
    obtain ⟨adds, some⟩ := allowed
    intro uow g enough
    obtain ⟨left, rfl⟩ : ∃ left, g = left + 1 := ⟨g - 1, by omega⟩
    have created : J.Yields (left + 1) (attempt (perform api (.orgsCreate org)) uow) fun ended g' =>
        left ≤ g' ∧ ∃ answer, ended.1 = .ok answer ∧ (E.meter u).credible (.orgsCreate org) answer := by
      have performed : J.Yields (left + 1) (perform api (.orgsCreate org) uow) fun ended g' =>
          left ≤ g' ∧ (E.meter u).credible (.orgsCreate org) ended.1 := by
        refine J.bind (judged_accessor E "orgs" UnitOfWork.orgs uow (left + 1)) ?_
        rintro ⟨raised | repo, uow'⟩ g' ⟨more, ended⟩
        · exact J.pure ⟨by omega, ended⟩
        · obtain ⟨left', rfl⟩ : ∃ left', g' = left' + 1 := ⟨g' - 1, by omega⟩
          exact J.bind (conforms.add repo _ left' adds) fun _ _ less => J.pure ⟨by omega, trivial⟩
      exact J.bind performed fun ended _ there => J.pure ⟨there.1, ended.1, rfl, there.2⟩
    refine J.bind created ?_
    rintro ⟨ended, uow'⟩ g' ⟨less, answer, rfl, credible⟩
    exact then_ answer credible uow' g' (by show n - 1 ≤ g'; omega)
  | membershipsCreate membership =>
    refine adds_bind (judged_attempt ?_) then_
    exact judged_bind (judged_accessor E _ _) fun s _ =>
      judged_mono (fun _ => RaisesOr.mono fun _ _ => trivial) (judged_repoExecute conforms s allowed)
  | getByAuthIdentity issuer subject => exact adds_bind (judged_attempt (judged_getByAuthIdentity conforms allowed)) then_
  | upsert user => exact adds_bind (judged_attempt (judged_upsert conforms allowed)) then_
  | flush => exact adds_bind (judged_attempt (judged_flush conforms)) then_
  | refresh attrs => exact adds_bind (judged_attempt (judged_refresh conforms attrs)) then_
  | commit => exact adds_bind (judged_attempt (judged_commit conforms allowed)) then_
  | rollback => exact adds_bind (judged_attempt (judged_rollback conforms)) then_
  | now =>
    have told : Judged J (lift api.now) (RaisesOr E.raises fun _ => True) := judged_lift conforms.now
    exact adds_bind (judged_attempt told) then_

/-! ### The executor -/

/-- What a handler with `n` organizations to add may end in. -/
def HandlerProgram.Meets (E : Expected) (n : Nat) (handler : HandlerProgram u α) (post : α → Prop) : Prop :=
  handler.Yields (E.meter u) n fun outcome _ => RaisesOr E.raises post outcome

variable {post : α → Prop} {n : Nat}

theorem adds_runHandler {handler : HandlerProgram u α} (meets : handler.Meets E n post) :
    Adds J n (runHandler api handler) (RaisesOr E.raises post) := by
  induction handler generalizing n with
  | done outcome => exact adds_settle meets
  | call op next ih => exact adds_perform conforms meets.1 fun answer likely => ih answer (meets.2 answer likely)

theorem adds_transaction (may : E.commits) {handler : HandlerProgram u α} (meets : handler.Meets E n post) :
    Adds J n (transaction api handler) (RaisesOr E.raises post) :=
  adds_then (adds_runHandler conforms meets) fun _ holds =>
    judged_bind (judged_commit conforms may) fun _ _ => judged_pure holds

theorem judged_bindRepos (s : SessionId) : Judged J (bindRepos api s) E.Unit :=
  judged_bind (judged_write E _) fun _ _ =>
    judged_bind (judged_await (conforms.orgsRepoFactory s)) fun _ _ =>
      judged_bind (judged_write E _) fun _ _ =>
        judged_bind (judged_await (conforms.usersRepoFactory s)) fun _ _ =>
          judged_bind (judged_write E _) fun _ _ =>
            judged_bind (judged_await (conforms.membershipsRepoFactory s)) fun _ _ => judged_write E _

theorem judged_aenter : Judged J (aenter api) E.Unit := by
  refine judged_bind (judged_lift conforms.sessionFactory) fun s _ => ?_
  refine judged_bind (judged_attempt (judged_bindRepos conforms s)) ?_
  rintro (raised | _) ended
  · dsimp only
    split
    · exact judged_bind (judged_await (conforms.close s)) fun _ _ =>
        judged_bind (judged_write E _) fun _ _ => judged_raise ended
    · exact judged_raise ended
  · exact judged_pure trivial

theorem judged_closingRollback (current : SessionId) (exc : Option Exc) :
    Judged J (closingRollback api current exc) E.Unit := by
  refine judged_exceptDriver ?_ fun _ expected => judged_raise (E.persistence _ expected)
  refine judged_bind (judged_read E _) fun rolledBack _ => ?_
  split
  · exact judged_await (conforms.rollback current)
  · exact judged_pure trivial

theorem judged_aexit (exc : Option Exc) : Judged J (aexit api exc) E.Unit := by
  refine judged_bind (judged_read E _) ?_
  rintro (_ | current) -
  · exact judged_raise (E.notInitialized _)
  · exact judged_bind (judged_attempt (judged_closingRollback conforms current exc)) fun closing ended =>
      judged_bind (judged_accessor E _ _) fun s _ =>
        judged_bind (judged_await (conforms.close s)) fun _ _ =>
          judged_bind (judged_write E _) fun _ _ => judged_settle ended

structure RunLog.Conforms (J : Judgment m Nat) (logger : RunLog m) : Prop where
  started : J.Retains logger.started fun _ => True
  committed : J.Retains logger.committed fun _ => True
  failed : ∀ raised, J.Retains (logger.failed raised) fun _ => True

theorem adds_loggedBody {logger : RunLog m} (logs : logger.Conforms J) (may : E.commits) {handler : HandlerProgram u α}
    (meets : handler.Meets E n post) : Adds J n (loggedBody api logger handler) (RaisesOr E.raises post) := by
  refine adds_then (adds_attempt (adds_transaction conforms may meets)) ?_
  rintro (raised | value) ended
  · exact judged_bind (judged_lift (logs.failed raised)) fun _ _ => judged_raise (E.translates raised ended)
  · exact judged_bind (judged_lift logs.committed) fun _ _ => judged_pure ended

/-- A run ends as its handler may, or raises what is expected anywhere. -/
theorem adds_loggedRun {logger : RunLog m} (logs : logger.Conforms J) (may : E.commits) {handler : HandlerProgram u α}
    (meets : handler.Meets E n post) :
    J.Yields n (loggedRun api logger handler) fun outcome _ => RaisesOr E.raises post outcome := by
  refine J.bind (logs.started n) ?_
  rintro _ g₀ ⟨enough₀, -⟩
  refine J.bind (judged_aenter conforms {} g₀) ?_
  rintro ⟨raised | _, uow⟩ g ⟨enough, entered⟩
  · exact J.pure entered
  · refine J.bind (adds_loggedBody conforms logs may meets uow g (le_trans enough₀ enough)) ?_
    rintro ⟨raised | result, uow'⟩ g' ended
    · refine J.bind (judged_aexit conforms (some raised) uow' g') ?_
      rintro ⟨replacing | _, uow''⟩ g'' ⟨-, closed⟩
      · exact J.pure closed
      · exact J.pure ended
    · refine J.bind (judged_aexit conforms none uow' g') ?_
      rintro ⟨replacing | _, uow''⟩ g'' ⟨-, closed⟩
      · exact J.pure closed
      · exact J.pure ended

/-- And so does one that logs nothing. -/
theorem adds_run [LawfulMonad m] (may : E.commits) {handler : HandlerProgram u α} (meets : handler.Meets E n post) :
    J.Yields n (run api handler) fun outcome _ => RaisesOr E.raises post outcome := by
  rw [← loggedRun_silent]
  exact adds_loggedRun conforms ⟨retains_pure trivial, retains_pure trivial, fun _ => retains_pure trivial⟩ may meets

end PetBackend.Persistence
