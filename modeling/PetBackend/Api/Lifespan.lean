import PetBackend.Library.Program
import PetBackend.Persistence.Errors
import Mathlib.Data.List.Nodup

/-!
# The lifespan

`build_lifespan` of `main.py` and `build_auth_components` of `di/auth.py`, over what their calls may raise. An engine
is disposed and a client closed, if at all, once and after all use. Log calls are left out.
-/

namespace PetBackend.Api
open Library Persistence

/-- `app.state`, as far as it is set. -/
structure AppState where
  engine : Bool := false
  sessionFactory : Bool := false
  tokenVerifier : Bool := false
  issuerUrl : Bool := false
  deriving DecidableEq

inductive BootOp where
  | createEngine
  | createSessionMaker
  | checkDbConnection
  | newClient
  | newProvider
  | startProvider
  | newVerifier
  /-- Up to the end of the application, or what is thrown into it. -/
  | serve (state : AppState)
  | disposeEngine
  | closeClient
  deriving DecidableEq

abbrev BootOp.Ret (_ : BootOp) : Type := Except Exc Unit

/-- The local variables of `lifespan`, and the state. -/
structure Boot where
  engine : Bool := false
  httpClient : Bool := false
  state : AppState := {}

/-- Code that raises what a call raises, with what was set by then. -/
abbrev Booting (α : Type) : Type := ExceptT (Exc × Boot) (Program BootOp BootOp.Ret) α

def bootCall (boot : Boot) (op : BootOp) : Booting Unit := ExceptT.mk do
  match ← Program.lift op with
  | .ok () => return .ok ()
  | .error raised => return .error (raised, boot)

/-- The client is a local of this function until it returns. -/
def buildAuthComponents (boot : Boot) : Booting Unit := do
  bootCall boot .newClient
  bootCall boot .newProvider
  bootCall boot .startProvider
  bootCall boot .newVerifier

def startup : Booting Boot := do
  bootCall {} .createEngine
  bootCall { engine := true } .createSessionMaker
  let boot : Boot := { engine := true, state := { engine := true, sessionFactory := true } }
  bootCall boot .checkDbConnection
  buildAuthComponents boot
  return { boot with httpClient := true, state := ⟨true, true, true, true⟩ }

/-- `if value is not None: await release`. -/
def releaseIf (held : Bool) (op : BootOp) : Program BootOp BootOp.Ret (Except Exc Unit) :=
  if held then Program.lift op else pure (.ok ())

/-- `except Exception`. -/
def startupFailed (raised : Exc) (boot : Boot) : Program BootOp BootOp.Ret (Except Exc Unit) :=
  if raised.isException then do
    match ← releaseIf boot.httpClient .closeClient with
    | .error replacing => return .error replacing
    | .ok () =>
      match ← releaseIf boot.engine .disposeEngine with
      | .error replacing => return .error replacing
      | .ok () => return .error raised
  else return .error raised

/-- What passes an `except Exception` that logs. -/
def escaping : Except Exc Unit → Option Exc
  | .ok () => none
  | .error raised => if raised.isException then none else some raised

/-- The `finally` around `yield`. -/
def shutdown (served : Except Exc Unit) : Program BootOp BootOp.Ret (Except Exc Unit) := do
  let disposed ← Program.lift .disposeEngine
  let closed ← Program.lift .closeClient
  match (escaping closed).or (escaping disposed) with
  | some raised => return .error raised
  | none => return served

def lifespan : Program BootOp BootOp.Ret (Except Exc Unit) := do
  match ← startup.run with
  | .error (raised, boot) => startupFailed raised boot
  | .ok boot =>
    let served ← Program.lift (.serve boot.state)
    shutdown served

/-! ### Its traces -/

abbrev BootTrace : Type := List (Sigma BootOp.Ret)

def startupCalls : List BootOp :=
  [.createEngine, .createSessionMaker, .checkDbConnection, .newClient, .newProvider, .startProvider, .newVerifier]

def succeeded (op : BootOp) : Sigma BootOp.Ret := ⟨op, .ok ()⟩

def raising (op : BootOp) (raised : Exc) : Sigma BootOp.Ret := ⟨op, .error raised⟩

def readyState : AppState := ⟨true, true, true, true⟩

/-- The calls of a startup that fails. -/
def failing (done : List BootOp) (op : BootOp) (raised : Exc) : BootTrace := done.map succeeded ++ [raising op raised]

/-- The calls of a lifespan that served. -/
def serving (served disposed closed : Except Exc Unit) : BootTrace :=
  startupCalls.map succeeded ++ [⟨.serve readyState, served⟩] ++ [⟨.disposeEngine, disposed⟩, ⟨.closeClient, closed⟩]

/-- A startup fails in one of its calls, the ones before it done. -/
structure FailsAt (done : List BootOp) (op : BootOp) (rest : List BootOp) (boot : Boot) : Prop where
  calls : startupCalls = done ++ op :: rest
  engine : boot.engine = decide (.createEngine ∈ done)
  httpClient : boot.httpClient = false

theorem traces_bootCall {α : Type} {boot : Boot} {op : BootOp} {rest : Unit → Booting α} {trace : BootTrace}
    {outcome : Except (Exc × Boot) α} (traces : (bootCall boot op >>= rest).run.Traces trace outcome) :
    (∃ raised, trace = [raising op raised] ∧ outcome = .error (raised, boot)) ∨
      ∃ later, trace = succeeded op :: later ∧ (rest ()).run.Traces later outcome := by
  rw [ExceptT.run_bind] at traces
  obtain ⟨value, before, later, rfl, called, remaining⟩ := Program.traces_bind traces
  obtain ⟨answer, nothing, rfl, answered⟩ := Program.traces_lift called
  cases answer with
  | ok =>
    obtain ⟨rfl, rfl⟩ := Program.traces_pure answered
    exact Or.inr ⟨later, rfl, remaining⟩
  | error raised =>
    obtain ⟨rfl, rfl⟩ := Program.traces_pure answered
    obtain ⟨rfl, rfl⟩ := Program.traces_pure remaining
    exact Or.inl ⟨raised, rfl, rfl⟩

theorem startup_traces {trace : BootTrace} {outcome : Except (Exc × Boot) Boot} (traces : startup.run.Traces trace outcome) :
    (trace = startupCalls.map succeeded ∧ ∃ boot : Boot, boot.state = readyState ∧ outcome = .ok boot) ∨
      ∃ done op rest raised boot, FailsAt done op rest boot ∧ trace = failing done op raised ∧
        outcome = .error (raised, boot) := by
  unfold startup buildAuthComponents at traces
  simp only [bind_assoc] at traces
  obtain ⟨raised, rfl, rfl⟩ | ⟨_, rfl, engine⟩ := traces_bootCall traces
  · exact Or.inr ⟨[], _, _, raised, _, ⟨rfl, rfl, rfl⟩, rfl, rfl⟩
  obtain ⟨raised, rfl, rfl⟩ | ⟨_, rfl, sessionMaker⟩ := traces_bootCall engine
  · exact Or.inr ⟨[_], _, _, raised, _, ⟨rfl, rfl, rfl⟩, rfl, rfl⟩
  obtain ⟨raised, rfl, rfl⟩ | ⟨_, rfl, connection⟩ := traces_bootCall sessionMaker
  · exact Or.inr ⟨[_, _], _, _, raised, _, ⟨rfl, rfl, rfl⟩, rfl, rfl⟩
  obtain ⟨raised, rfl, rfl⟩ | ⟨_, rfl, client⟩ := traces_bootCall connection
  · exact Or.inr ⟨[_, _, _], _, _, raised, _, ⟨rfl, rfl, rfl⟩, rfl, rfl⟩
  obtain ⟨raised, rfl, rfl⟩ | ⟨_, rfl, provider⟩ := traces_bootCall client
  · exact Or.inr ⟨[_, _, _, _], _, _, raised, _, ⟨rfl, rfl, rfl⟩, rfl, rfl⟩
  obtain ⟨raised, rfl, rfl⟩ | ⟨_, rfl, started⟩ := traces_bootCall provider
  · exact Or.inr ⟨[_, _, _, _, _], _, _, raised, _, ⟨rfl, rfl, rfl⟩, rfl, rfl⟩
  obtain ⟨raised, rfl, rfl⟩ | ⟨_, rfl, verifier⟩ := traces_bootCall started
  · exact Or.inr ⟨[_, _, _, _, _, _], _, _, raised, _, ⟨rfl, rfl, rfl⟩, rfl, rfl⟩
  obtain ⟨rfl, rfl⟩ := Program.traces_pure verifier
  exact Or.inl ⟨rfl, _, rfl, rfl⟩

/-- What a lifespan comes to. -/
inductive Lives : BootTrace → Except Exc Unit → Prop where
  | served (served disposed closed : Except Exc Unit) :
      Lives (serving served disposed closed) (((escaping closed).or (escaping disposed)).elim served .error)
  | failed {done : List BootOp} {op : BootOp} {rest : List BootOp} {boot : Boot} (fails : FailsAt done op rest boot)
      {raised : Exc} (exception : raised.isException = true) (created : .createEngine ∈ done) (disposed : Except Exc Unit) :
      Lives (failing done op raised ++ [⟨.disposeEngine, disposed⟩])
        (match disposed with | .ok () => .error raised | .error replacing => .error replacing)
  | early {raised : Exc} (exception : raised.isException = true) :
      Lives (failing [] .createEngine raised) (.error raised)
  | interrupted {done : List BootOp} {op : BootOp} {rest : List BootOp} {boot : Boot} (fails : FailsAt done op rest boot)
      {raised : Exc} (base : raised.isException = false) :
      Lives (failing done op raised) (.error raised)

theorem fails_first {done rest : List BootOp} {op : BootOp} {boot : Boot} (fails : FailsAt done op rest boot)
    (uncreated : .createEngine ∉ done) : done = [] ∧ op = .createEngine := by
  have calls := fails.calls
  cases done with
  | nil => exact ⟨rfl, (List.cons.inj calls).1.symm⟩
  | cons first done => exact (uncreated ((List.cons.inj calls).1 ▸ List.mem_cons_self)).elim

theorem startupFailed_traces {done rest : List BootOp} {op : BootOp} {boot : Boot} (fails : FailsAt done op rest boot)
    {raised : Exc} {later : BootTrace} {outcome : Except Exc Unit} (traces : (startupFailed raised boot).Traces later outcome) :
    Lives (failing done op raised ++ later) outcome := by
  unfold startupFailed releaseIf at traces
  simp only [fails.httpClient, Bool.false_eq_true, if_false] at traces
  cases exception : raised.isException with
  | false =>
    rw [exception] at traces
    obtain ⟨rfl, rfl⟩ := Program.traces_pure traces
    rw [List.append_nil]
    exact .interrupted fails exception
  | true =>
    rw [if_pos exception, pure_bind] at traces
    by_cases created : .createEngine ∈ done
    · have engine : boot.engine = true := fails.engine.trans (decide_eq_true created)
      simp only [engine, if_true] at traces
      obtain ⟨disposed, _, rfl, ended⟩ := Program.traces_lift traces
      cases disposed with
      | ok =>
        obtain ⟨rfl, rfl⟩ := Program.traces_pure ended
        exact .failed fails exception created (.ok ())
      | error replacing =>
        obtain ⟨rfl, rfl⟩ := Program.traces_pure ended
        exact .failed fails exception created (.error replacing)
    · have engine : boot.engine = false := fails.engine.trans (decide_eq_false created)
      simp only [engine, Bool.false_eq_true, if_false, pure_bind] at traces
      obtain ⟨rfl, rfl⟩ := Program.traces_pure traces
      obtain ⟨rfl, rfl⟩ := fails_first fails created
      exact .early exception

theorem lifespan_lives {trace : BootTrace} {outcome : Except Exc Unit} (traces : lifespan.Traces trace outcome) :
    Lives trace outcome := by
  obtain ⟨value, before, later, rfl, started, remaining⟩ := Program.traces_bind traces
  obtain ⟨rfl, boot, ready, rfl⟩ | ⟨done, op, rest, raised, boot, fails, rfl, rfl⟩ := startup_traces started
  · obtain ⟨served, _, rfl, ending⟩ := Program.traces_lift remaining
    obtain ⟨disposed, _, rfl, closing⟩ := Program.traces_lift ending
    obtain ⟨closed, nothing, rfl, ended⟩ := Program.traces_lift closing
    have told : nothing = [] ∧ outcome = ((escaping closed).or (escaping disposed)).elim served .error := by
      cases escaped : (escaping closed).or (escaping disposed) with
      | none =>
        rw [escaped] at ended
        exact Program.traces_pure ended
      | some raised =>
        rw [escaped] at ended
        exact Program.traces_pure ended
    obtain ⟨rfl, rfl⟩ := told
    rw [ready]
    exact .served served disposed closed
  · exact startupFailed_traces fails remaining

/-! ### What is released -/

def releases : List BootOp := [.disposeEngine, .closeClient]

/-- The calls of `build_auth_components` that find a client open. -/
def buildCalls : List BootOp := [.newProvider, .startProvider, .newVerifier]

def Attempted (trace : BootTrace) (op : BootOp) : Prop := ∃ answer, ⟨op, answer⟩ ∈ trace

/-- What `except Exception` does not catch. -/
def Interrupted (trace : BootTrace) : Prop :=
  ∃ op ∈ startupCalls, ∃ raised, raising op raised ∈ trace ∧ raised.isException = false

/-- A dispose or a close comes once at most, after all use. The engine is disposed unless a startup is interrupted, but
the client is left open whenever what follows it in `build_auth_components` fails. -/
structure Released (trace : BootTrace) (outcome : Except Exc Unit) : Prop where
  order : ∃ used released, trace = used ++ released ∧ (∀ event ∈ used, event.1 ∉ releases) ∧
    (released.map Sigma.fst).Sublist releases
  served : ∀ state answer, ⟨.serve state, answer⟩ ∈ trace → state = readyState ∧ ∀ op ∈ startupCalls, succeeded op ∈ trace
  engine : Attempted trace .disposeEngine ↔ succeeded .createEngine ∈ trace ∧ ¬ Interrupted trace
  client : Attempted trace .closeClient ↔ succeeded .newClient ∈ trace ∧
    ¬ ∃ op ∈ buildCalls, ∃ raised, raising op raised ∈ trace
  failed : ∀ op ∈ startupCalls, ∀ raised, raising op raised ∈ trace →
    outcome = .error raised ∨ ∃ replacing, raising .disposeEngine replacing ∈ trace ∧ outcome = .error replacing
  ended : ∀ answer, ⟨.serve readyState, answer⟩ ∈ trace → outcome = answer ∨
    ∃ op ∈ releases, ∃ raised, raising op raised ∈ trace ∧ raised.isException = false ∧ outcome = .error raised

section
variable {done rest : List BootOp} {op : BootOp} {boot : Boot}

theorem fails_mem (fails : FailsAt done op rest boot) : op ∈ startupCalls ∧ ∀ before ∈ done, before ∈ startupCalls := by
  rw [fails.calls]
  exact ⟨List.mem_append_right _ List.mem_cons_self, fun before member => List.mem_append_left _ member⟩

theorem fails_build (fails : FailsAt done op rest boot) (opened : .newClient ∈ done) : op ∈ buildCalls := by
  have follows : ∀ n < 7, .newClient ∈ startupCalls.take n → (startupCalls[n]?).all (fun op => decide (op ∈ buildCalls)) = true := by
    decide
  have taken : startupCalls.take done.length = done := by rw [fails.calls, List.take_left]
  have next : startupCalls[done.length]? = some op := by simp [fails.calls]
  have short : done.length < 7 := by
    have length := congrArg List.length fails.calls
    simp [startupCalls] at length
    omega
  have here := follows done.length short (taken.symm ▸ opened)
  rw [next] at here
  exact of_decide_eq_true here

theorem startup_unreleased {op : BootOp} (member : op ∈ startupCalls) : op ∉ releases ∧ ∀ state, op ≠ .serve state := by
  simp only [startupCalls, List.mem_cons, List.not_mem_nil, or_false] at member
  rcases member with rfl | rfl | rfl | rfl | rfl | rfl | rfl <;> exact ⟨by decide, nofun⟩

/-- Of a failing startup there are the calls that were done, and the one that failed. -/
theorem mem_failing (fails : FailsAt done op rest boot) {raised : Exc} {event : Sigma BootOp.Ret}
    (member : event ∈ failing done op raised) : event.1 ∈ startupCalls ∧
      ((event.1 ∈ done ∧ event.2 = .ok ()) ∨ (event.1 = op ∧ event.2 = .error raised)) := by
  obtain ⟨failed, before⟩ := fails_mem fails
  rcases List.mem_append.mp member with early | last
  · obtain ⟨call, inside, rfl⟩ := List.mem_map.mp early
    exact ⟨before call inside, Or.inl ⟨inside, rfl⟩⟩
  · rw [List.mem_singleton.mp last]
    exact ⟨failed, Or.inr ⟨rfl, rfl⟩⟩

theorem failing_raises (fails : FailsAt done op rest boot) {raised raised' : Exc} {call : BootOp}
    (member : raising call raised' ∈ failing done op raised) : call = op ∧ raised' = raised := by
  rcases (mem_failing fails member).2 with ⟨-, succeeded⟩ | ⟨same, failed⟩
  · cases succeeded
  · exact ⟨same, Except.error.inj failed⟩

theorem failing_succeeds (fails : FailsAt done op rest boot) {raised : Exc} {call : BootOp}
    (member : succeeded call ∈ failing done op raised) : call ∈ done := by
  rcases (mem_failing fails member).2 with ⟨inside, -⟩ | ⟨-, failed⟩
  · exact inside
  · cases failed

theorem failing_last (done : List BootOp) (op : BootOp) (raised : Exc) : raising op raised ∈ failing done op raised :=
  List.mem_append_right _ (List.mem_singleton.mpr rfl)

theorem failing_unreleased (fails : FailsAt done op rest boot) {raised : Exc} {call : BootOp} {answer : Except Exc Unit}
    (release : call ∈ releases) : ⟨call, answer⟩ ∉ failing done op raised :=
  fun member => (startup_unreleased (mem_failing fails member).1).1 release

theorem failing_unserved (fails : FailsAt done op rest boot) {raised : Exc} {state : AppState} {answer : Except Exc Unit} :
    ⟨.serve state, answer⟩ ∉ failing done op raised :=
  fun member => (startup_unreleased (mem_failing fails member).1).2 state rfl

/-- Nothing is released. -/
theorem unreleased_released (fails : FailsAt done op rest boot) {raised : Exc}
    (engine : raised.isException = true → .createEngine ∉ done) : Released (failing done op raised) (.error raised) where
  order := ⟨_, [], (List.append_nil _).symm,
    fun event member => (startup_unreleased (mem_failing fails member).1).1, List.nil_sublist _⟩
  served state answer member := (failing_unserved fails member).elim
  engine := by
    constructor
    · rintro ⟨answer, member⟩
      exact (failing_unreleased fails (by simp [releases]) member).elim
    · rintro ⟨created, uninterrupted⟩
      cases exception : raised.isException with
      | true => exact (engine exception (failing_succeeds fails created)).elim
      | false => exact (uninterrupted ⟨op, (fails_mem fails).1, raised, failing_last done op raised, exception⟩).elim
  client := by
    constructor
    · rintro ⟨answer, member⟩
      exact (failing_unreleased fails (by simp [releases]) member).elim
    · rintro ⟨opened, built⟩
      exact (built ⟨op, fails_build fails (failing_succeeds fails opened), raised, failing_last done op raised⟩).elim
  failed call _ raised' member := Or.inl (by rw [(failing_raises fails member).2])
  ended answer member := (failing_unserved fails member).elim

theorem failed_released (fails : FailsAt done op rest boot) {raised : Exc} (exception : raised.isException = true)
    (created : .createEngine ∈ done) (disposed : Except Exc Unit) :
    Released (failing done op raised ++ [⟨.disposeEngine, disposed⟩])
      (match disposed with | .ok () => .error raised | .error replacing => .error replacing) := by
  have cases_ {event : Sigma BootOp.Ret} (member : event ∈ failing done op raised ++ [⟨.disposeEngine, disposed⟩]) :
      event ∈ failing done op raised ∨ event = ⟨.disposeEngine, disposed⟩ :=
    (List.mem_append.mp member).imp_right List.mem_singleton.mp
  constructor
  · exact ⟨_, _, rfl, fun event member => (startup_unreleased (mem_failing fails member).1).1, by simp [releases]⟩
  · intro state answer member
    rcases cases_ member with inside | last
    · exact (failing_unserved fails inside).elim
    · cases last
  · refine ⟨fun _ => ⟨?_, ?_⟩, fun _ => ⟨disposed, List.mem_append_right _ (List.mem_singleton.mpr rfl)⟩⟩
    · exact List.mem_append_left _ (List.mem_append_left _ (List.mem_map_of_mem created))
    · rintro ⟨call, listed, raised', member, base⟩
      rcases cases_ member with inside | last
      · rw [(failing_raises fails inside).2, exception] at base
        cases base
      · cases last
        exact (startup_unreleased listed).1 (by simp [releases])
  · constructor
    · rintro ⟨answer, member⟩
      rcases cases_ member with inside | last
      · exact (failing_unreleased fails (by simp [releases]) inside).elim
      · cases last
    · rintro ⟨opened, built⟩
      rcases cases_ opened with inside | last
      · refine (built ⟨op, fails_build fails (failing_succeeds fails inside), raised, ?_⟩).elim
        exact List.mem_append_left _ (failing_last done op raised)
      · cases last
  · intro call listed raised' member
    rcases cases_ member with inside | last
    · rw [(failing_raises fails inside).2]
      cases disposed with
      | ok => exact Or.inl rfl
      | error replacing => exact Or.inr ⟨replacing, List.mem_append_right _ (List.mem_singleton.mpr rfl), rfl⟩
    · cases last
      exact ((startup_unreleased listed).1 (by simp [releases])).elim
  · intro answer member
    rcases cases_ member with inside | last
    · exact (failing_unserved fails inside).elim
    · cases last

theorem escaping_base {answer : Except Exc Unit} {raised : Exc} (escapes : escaping answer = some raised) :
    answer = .error raised ∧ raised.isException = false := by
  unfold escaping at escapes
  cases answer with
  | ok => cases escapes
  | error other =>
    cases exception : other.isException with
    | true =>
      simp [exception] at escapes
    | false =>
      simp only [exception, Bool.false_eq_true, if_false, Option.some.injEq] at escapes
      rw [← escapes]
      exact ⟨rfl, exception⟩

theorem mem_serving {served disposed closed : Except Exc Unit} {event : Sigma BootOp.Ret}
    (member : event ∈ serving served disposed closed) : (∃ op ∈ startupCalls, event = succeeded op) ∨
      event = ⟨.serve readyState, served⟩ ∨ event = ⟨.disposeEngine, disposed⟩ ∨ event = ⟨.closeClient, closed⟩ := by
  simp only [serving, List.mem_append, List.mem_map, List.mem_cons, List.not_mem_nil, or_false] at member
  rcases member with (⟨op, listed, rfl⟩ | same) | released
  · exact Or.inl ⟨op, listed, rfl⟩
  · exact Or.inr (Or.inl same)
  · exact Or.inr (Or.inr released)

theorem serving_startup {served disposed closed answer : Except Exc Unit} {op : BootOp} (listed : op ∈ startupCalls)
    (member : ⟨op, answer⟩ ∈ serving served disposed closed) : answer = .ok () := by
  obtain ⟨unreleased, unserved⟩ := startup_unreleased listed
  rcases mem_serving member with ⟨call, -, same⟩ | same | same | same
  · cases same
    rfl
  · cases same
    exact (unserved _ rfl).elim
  all_goals
    cases same
    exact (unreleased (by simp [releases])).elim

theorem serving_released (served disposed closed : Except Exc Unit) :
    Released (serving served disposed closed) (((escaping closed).or (escaping disposed)).elim served .error) := by
  have started {op : BootOp} (listed : op ∈ startupCalls) : succeeded op ∈ serving served disposed closed :=
    List.mem_append_left _ (List.mem_append_left _ (List.mem_map_of_mem listed))
  have unraised {op : BootOp} (listed : op ∈ startupCalls) {raised : Exc} :
      raising op raised ∉ serving served disposed closed :=
    fun member => nomatch serving_startup listed member
  have disposes : ⟨.disposeEngine, disposed⟩ ∈ serving served disposed closed := List.mem_append_right _ List.mem_cons_self
  have closes : ⟨.closeClient, closed⟩ ∈ serving served disposed closed :=
    List.mem_append_right _ (List.mem_cons_of_mem _ List.mem_cons_self)
  constructor
  · refine ⟨_, _, rfl, fun event member => ?_, by simp [releases]⟩
    rcases List.mem_append.mp member with startup | serve
    · obtain ⟨op, listed, rfl⟩ := List.mem_map.mp startup
      exact (startup_unreleased listed).1
    · rw [List.mem_singleton.mp serve]
      simp [releases]
  · intro state answer member
    refine ⟨?_, fun op => started⟩
    rcases mem_serving member with ⟨op, listed, same⟩ | same | same | same
    · cases same
      exact ((startup_unreleased listed).2 state rfl).elim
    all_goals cases same
    rfl
  · refine ⟨fun _ => ⟨started (by simp [startupCalls]), ?_⟩, fun _ => ⟨disposed, disposes⟩⟩
    rintro ⟨op, listed, raised, member, -⟩
    exact unraised listed member
  · refine ⟨fun _ => ⟨started (by simp [startupCalls]), ?_⟩, fun _ => ⟨closed, closes⟩⟩
    rintro ⟨op, building, raised, member⟩
    refine unraised ?_ member
    revert building
    simp only [buildCalls, startupCalls, List.mem_cons, List.not_mem_nil, or_false]
    tauto
  · intro op listed raised member
    exact (unraised listed member).elim
  · intro answer member
    have same : answer = served := by
      rcases mem_serving member with ⟨op, listed, same⟩ | same | same | same
      · cases same
        exact ((startup_unreleased listed).2 _ rfl).elim
      all_goals cases same
      rfl
    cases shut : escaping closed with
    | some raised =>
      obtain ⟨rfl, base⟩ := escaping_base shut
      exact Or.inr ⟨_, by simp [releases], raised, closes, base, rfl⟩
    | none =>
      cases left : escaping disposed with
      | some raised =>
        obtain ⟨rfl, base⟩ := escaping_base left
        exact Or.inr ⟨_, by simp [releases], raised, disposes, base, rfl⟩
      | none => exact Or.inl same.symm

/-- Whatever is raised, and wherever the startup is interrupted. -/
theorem lifespan_released {trace : BootTrace} {outcome : Except Exc Unit} (traces : lifespan.Traces trace outcome) :
    Released trace outcome := by
  cases lifespan_lives traces with
  | served served disposed closed => exact serving_released served disposed closed
  | failed fails exception created disposed => exact failed_released fails exception created disposed
  | early exception =>
    have fails : FailsAt [] .createEngine _ {} := ⟨rfl, rfl, rfl⟩
    exact unreleased_released fails fun _ => List.not_mem_nil
  | interrupted fails base => exact unreleased_released fails fun exception => (Bool.false_ne_true (base.symm.trans exception)).elim

/-- The keys cannot be fetched. -/
theorem lifespan_released_sample : Released
    ([.createEngine, .createSessionMaker, .checkDbConnection, .newClient, .newProvider].map succeeded ++
      [raising .startProvider (.other "JwksProviderUnavailable"), ⟨.disposeEngine, .ok ()⟩])
    (.error (.other "JwksProviderUnavailable")) :=
  lifespan_released (.call _ <| .call _ <| .call _ <| .call _ <| .call _ <| .call _ <| .call _ <| .done _)

end

end PetBackend.Api
