import PetBackend.Api.HttpLogging
import PetBackend.Api.Refusals
import PetBackend.Persistence.Raising
import PetBackend.Postgres.Requests

/-!
# Which request a line is of

However requests interleave, and whatever context the server starts them in, a line of a request carries its id,
its method and its path, and names no other user than the one its token was verified for.
-/

namespace PetBackend.Api
open Library Auth Persistence Postgres
open Config (EventDict Value LogCall)
open Config.EventDict (get?)

/-- The keys that tell whose a line is. -/
def correlationKeys : List String := ["request_id", "http_method", "http_path", "user_subject"]

def Unnamed (event : EventDict) : Prop := ∀ key ∈ correlationKeys, get? key event = none

/-- The fields of the request, and a user only if the request is the user's. -/
structure Correlated (identity : Identity) (names : Principal → Prop) (context : EventDict) : Prop where
  named : ∀ field ∈ identity.fields, get? field.1 context = some field.2
  attributed : ∀ value, get? "user_subject" context = some value →
    ∃ principal, names principal ∧ value = .str principal.subject

/-- The lines that only the middleware writes. -/
inductive Milestone where
  | started
  | finished (statusCode : Option Value)

def milestone (event : EventDict) : Option Milestone :=
  match get? "event" event with
  | some (.str "http_request_started") => some .started
  | some (.str "http_request_finished") => some (.finished (get? "status_code" event))
  | _ => none

/-- Those of a request, in their order. -/
def Traffic.milestones (s : Traffic) (i : Nat) : List Milestone :=
  s.lines.filterMap fun line => if line.1 = i then milestone line.2.event else none

section
variable {Out : Type} {R : Out → Type}

def WebOp.milestone? : WebOp Out → Option Milestone
  | .log record => milestone record.event
  | _ => none

/-- What may be called behind the middleware, where only the names of the principal are told. -/
def WebOp.Discreet (names : Principal → Prop) : WebOp Out → Prop
  | .log record => Unnamed record.event ∧ milestone record.event = none
  | .bindContextvars fields => ∀ field ∈ fields, field.1 ∈ correlationKeys →
    field.1 = "user_subject" ∧ ∃ principal, names principal ∧ field.2 = .str principal.subject
  | .unbindContextvars keys => ∀ key ∈ correlationKeys, key ∉ keys
  | .clearContextvars | .startTask | .endTask => False
  | _ => True

def discreet (names : Principal → Prop) : Program.Meter (WebOp Out) (WebOp.Ret R) Nat where
  allowed _ op := op.Discreet names
  left g _ := g
  credible _ _ := True

abbrev discretion (names : Principal → Prop) : Judgment (WebProgram Out R) Nat := Program.judgment (discreet names)

/-- How far a request has come in its contexts and its log. -/
structure Progress where
  contexts : Contexts
  milestones : List Milestone := []

def Progress.after (p : Progress) (op : WebOp Out) : Progress := ⟨p.contexts.after op, p.milestones ++ op.milestone?.toList⟩

/-- Whatever is logged has the request's fields in its context and none of its own. -/
def logged (identity : Identity) (names : Principal → Prop) : Program.Meter (WebOp Out) (WebOp.Ret R) Progress where
  allowed
    | p, .log record => Unnamed record.event ∧ Correlated identity names p.contexts.current
    | _, _ => True
  left p op := p.after op
  credible _ _ := True

/-- Behind the middleware the fields stay, and its own lines are left to it. -/
structure Kept (identity : Identity) (names : Principal → Prop) (p p' : Progress) : Prop where
  correlated : Correlated identity names p'.contexts.current
  waiting : p'.contexts.waiting = p.contexts.waiting
  milestones : p'.milestones = p.milestones

variable {identity : Identity} {names : Principal → Prop} {p p' : Progress}

/-! ### Discreet code -/

theorem bindContextvars_cases (key : String) (fields : List (String × Value)) (context : EventDict) :
    get? key (Config.bindContextvars fields context) = get? key context ∨
      ∃ field ∈ fields, field.1 = key ∧ get? key (Config.bindContextvars fields context) = some field.2 := by
  induction fields generalizing context with
  | nil => exact Or.inl rfl
  | cons field rest ih =>
    rcases ih (EventDict.setItem field.1 field.2 context) with same | ⟨other, inside, named, last⟩
    · by_cases here : field.1 = key
      · refine Or.inr ⟨field, List.mem_cons_self, here, same.trans ?_⟩
        rw [← here]
        exact Config.EventDict.get?_setItem_self context
      · exact Or.inl (same.trans (Config.EventDict.get?_setItem here context))
    · exact Or.inr ⟨other, List.mem_cons_of_mem _ inside, named, last⟩

theorem mem_correlationKeys {field : String × Value} (member : field ∈ identity.fields) :
    field.1 ∈ correlationKeys ∧ field.1 ≠ "user_subject" := by
  simp only [Identity.fields, List.mem_cons, List.not_mem_nil, or_false] at member
  rcases member with rfl | rfl | rfl <;> simp [correlationKeys]

theorem discreet_correlated {op : WebOp Out} (discreet : op.Discreet names)
    (correlated : Correlated identity names p.contexts.current) :
    Correlated identity names (p.after op).contexts.current := by
  cases op with
  | bindContextvars fields =>
    constructor
    · intro field member
      obtain ⟨key, other⟩ := mem_correlationKeys member
      rcases bindContextvars_cases field.1 fields p.contexts.current with same | ⟨bound, inside, named, -⟩
      · exact same.trans (correlated.named field member)
      · exact (other (named.symm.trans (discreet bound inside (named.symm ▸ key)).1)).elim
    · intro value held
      rcases bindContextvars_cases "user_subject" fields p.contexts.current with same | ⟨bound, inside, named, last⟩
      · exact correlated.attributed value (same.symm.trans held)
      · obtain ⟨-, principal, known, subject⟩ := discreet bound inside (by rw [named]; simp [correlationKeys])
        exact ⟨principal, known, (Option.some.inj (held.symm.trans last)).trans subject⟩
  | unbindContextvars keys =>
    have same {key : String} (kept : key ∈ correlationKeys) :
        get? key (Config.unbindContextvars keys p.contexts.current) = get? key p.contexts.current :=
      Config.get?_unbindContextvars (discreet key kept)
    exact ⟨fun field member => (same (mem_correlationKeys member).1).trans (correlated.named field member),
      fun value held => correlated.attributed value ((same (by simp [correlationKeys])).symm.trans held)⟩
  | clearContextvars | startTask | endTask => exact discreet.elim
  | _ => exact correlated

theorem discreet_kept {op : WebOp Out} (discreet : op.Discreet names)
    (correlated : Correlated identity names p.contexts.current) : Kept identity names p (p.after op) := by
  refine ⟨discreet_correlated discreet correlated, ?_, ?_⟩
  · cases op with
    | startTask | endTask => exact discreet.elim
    | _ => rfl
  · have silent : op.milestone? = none := by
      cases op with
      | log record => exact discreet.2
      | _ => rfl
    show p.milestones ++ op.milestone?.toList = p.milestones
    rw [silent, Option.toList_none, List.append_nil]

theorem Kept.trans {p'' : Progress} (first : Kept identity names p p') (second : Kept identity names p' p'') :
    Kept identity names p p'' :=
  ⟨second.correlated, second.waiting.trans first.waiting, second.milestones.trans first.milestones⟩

/-- Discreet code runs in any context that names the request. -/
theorem yields_discreet {α : Type} {post : α → Prop} {program : WebProgram Out R α} {g : Nat}
    (yields : program.Yields (discreet names) g fun value _ => post value)
    (correlated : Correlated identity names p.contexts.current) :
    program.Yields (logged identity names) p fun value p' => Kept identity names p p' ∧ post value := by
  induction program generalizing p with
  | done value => exact ⟨⟨correlated, rfl, rfl⟩, yields⟩
  | call op next ih =>
    obtain ⟨discreet, then_⟩ := yields
    have kept := discreet_kept discreet correlated
    refine ⟨?_, fun answer _ => ?_⟩
    · cases op with
      | log record => exact ⟨discreet.1, correlated⟩
      | _ => trivial
    · refine Program.yields_mono ?_ (ih answer (then_ answer trivial) kept.correlated)
      rintro value p' ⟨later, holds⟩
      exact ⟨kept.trans later, holds⟩

/-! ### The code behind the middleware -/

theorem retains_lift (op : WebOp Out) (discreet : op.Discreet names) :
    (discretion (R := R) names).Retains (Program.lift op) fun _ => True :=
  fun g => ⟨discreet, fun _ _ => ⟨le_refl g, trivial⟩⟩

theorem get?_fields {key : String} {fields : List (String × Value)} {rest : EventDict}
    (absent : key ∉ fields.map Prod.fst) :
    get? key (fields.map (fun field => (.str field.1, field.2)) ++ rest) = get? key rest := by
  induction fields with
  | nil => rfl
  | cons field fields ih =>
    obtain ⟨different, later⟩ := List.ne_and_not_mem_of_not_mem_cons absent
    refine Eq.trans (if_neg fun same => different ?_) (ih later)
    exact (Config.Key.str.inj same).symm

/-- Nothing is counted, so what is discreet once always is. -/
theorem retains_discreet {α : Type} {post : α → Prop} {program : WebProgram Out R α} {g : Nat}
    (yields : program.Yields (discreet names) g fun value _ => post value) : (discretion names).Retains program post := by
  intro g'
  show program.Yields (discreet names) g' _
  induction program with
  | done value => exact ⟨le_refl g', yields⟩
  | call op next ih => exact ⟨yields.1, fun answer likely => ih answer (yields.2 answer likely)⟩

section
open WebProgram

/-- A line that is not the middleware's, under no key of the request. -/
theorem retains_log {loggerName level event : String} {fields : List (String × Value)}
    (free : ∀ key ∈ "event" :: correlationKeys, key ∉ fields.map Prod.fst)
    (ordinary : event ∉ ["http_request_started", "http_request_finished"]) :
    (discretion (R := R) names).Retains (log loggerName level event fields : WebProgram Out R Unit) fun _ => True := by
  refine retains_lift _ ⟨fun key member => ?_, ?_⟩
  · rw [get?_fields (free key (List.mem_cons_of_mem _ member))]
    refine if_neg fun same => ?_
    cases same
    revert member
    decide
  · have held : get? "event" (fields.map (fun field => (.str field.1, field.2)) ++ [(.str "event", .str event)]) =
        some (.str event) := get?_fields (free "event" List.mem_cons_self)
    simp only [List.mem_cons, List.not_mem_nil, or_false, not_or] at ordinary
    unfold milestone
    rw [held]
    split
    · rename_i same
      exact (ordinary.1 (Value.str.inj (Option.some.inj same))).elim
    · rename_i same
      exact (ordinary.2 (Value.str.inj (Option.some.inj same))).elim
    · rfl

theorem retains_boundContextvars {α : Type} {post : α → Prop} {fields : List (String × Value)}
    {body : WebProgram Out R α} (free : ∀ key ∈ correlationKeys, key ∉ fields.map Prod.fst)
    (retains : (discretion names).Retains body post) :
    (discretion names).Retains (boundContextvars fields body) post := by
  have unreserved {field : String × Value} (member : field ∈ fields) (reserved : field.1 ∈ correlationKeys) : False :=
    free field.1 reserved (List.mem_map_of_mem member)
  refine retains_bind (retains_lift .getContextvars trivial) fun context _ => ?_
  refine retains_bind (retains_lift (.bindContextvars fields) fun field member reserved =>
    (unreserved member reserved).elim) fun _ _ => ?_
  refine retains_bind retains fun value holds => ?_
  refine retains_bind (retains_lift (.unbindContextvars _) free) fun _ _ => ?_
  refine retains_bind (retains_lift (.bindContextvars _) ?_) fun _ _ => retains_pure holds
  intro field member reserved
  obtain ⟨bound, inside, saved⟩ := List.mem_filterMap.mp member
  obtain ⟨value, -, rfl⟩ := Option.map_eq_some_iff.mp saved
  exact (unreserved inside reserved).elim

theorem retains_info {loggerName event : String} {fields : List (String × Value)}
    (free : ∀ key ∈ "event" :: correlationKeys, key ∉ fields.map Prod.fst)
    (ordinary : event ∉ ["http_request_started", "http_request_finished"]) :
    (discretion (R := R) names).Retains (info loggerName event fields : WebProgram Out R Unit) fun _ => True :=
  retains_log free ordinary

theorem retains_timed {event : String} {fields : String → List (String × Value)}
    (free : ∀ duration, ∀ key ∈ "event" :: correlationKeys, key ∉ (fields duration).map Prod.fst)
    (ordinary : event ∉ ["http_request_started", "http_request_finished"]) :
    (discretion (R := R) names).Retains (do
      let duration ← (durationMs : WebProgram Out R String)
      info executorLogger event (fields duration)) fun _ => True :=
  retains_bind (retains_lift .durationMs trivial) fun duration _ => retains_info (free duration) ordinary

theorem executorLog_conforms : (executorLog : RunLog (WebProgram Out R)).Conforms (discretion names) where
  started := retains_log (by simp) (by decide)
  committed := retains_timed (by simp [correlationKeys]) (by decide)
  failed
    | .persistence e => retains_timed (by simp [correlationKeys]) (by decide)
    | .validation e => retains_timed (by simp [correlationKeys]) (by decide)
    | .driver _ | .app _ | .uowNotInitialized _ | .other _ => retains_pure trivial

theorem retains_logRendered {statusCode : Nat} {event : String} {fields : List (String × Value)}
    (free : ∀ key ∈ "event" :: correlationKeys, key ∉ fields.map Prod.fst)
    (raised : ∀ key ∈ "event" :: correlationKeys, key ≠ "exc_info")
    (ordinary : event ∉ ["http_request_started", "http_request_finished"]) :
    (discretion (R := R) names).Retains (logRendered statusCode event fields : WebProgram Out R Unit) fun _ => True := by
  unfold logRendered
  split
  · refine retains_log (fun key member inside => ?_) ordinary
    rw [List.map_append, List.mem_append] at inside
    rcases inside with inside | last
    · exact free key member inside
    · exact raised key member (List.mem_singleton.mp last)
  · exact retains_log free ordinary

theorem retains_handlerLog (framework : Framework) (path : String) (raised : RouteExc) :
    (discretion (R := R) names).Retains (handlerLog framework path raised : WebProgram Out R Unit) fun _ => True := by
  cases raised with
  | app error => exact retains_logRendered (by simp [correlationKeys]) (by simp [correlationKeys]) (by decide)
  | http error =>
    simp only [handlerLog]
    split
    · exact retains_pure trivial
    · exact retains_logRendered (by simp [correlationKeys]) (by simp [correlationKeys]) (by decide)
  | validation errors =>
    simp only [handlerLog]
    split
    · exact retains_pure trivial
    · exact retains_info (by simp [correlationKeys]) (by decide)
  | authentication error => exact retains_info (by simp [correlationKeys]) (by decide)
  | authorization error => exact retains_info (by simp [correlationKeys]) (by decide)
  | unhandled raised => exact retains_pure trivial

/-- The subject is bound once the token is verified. -/
theorem retains_loggedPrincipal {verify : String → WebProgram Out R (Option (Except PyExc Principal))}
    {credentials : Option String} (verifies : ∀ token, credentials = some token →
      (discretion names).Retains (verify token) fun outcome => ∀ principal, outcome = some (.ok principal) → names principal) :
    (discretion names).Retains (loggedPrincipal verify credentials) fun _ => True := by
  cases credentials with
  | none => exact retains_pure trivial
  | some token =>
    refine retains_bind (verifies token rfl) ?_
    rintro (_ | raised | principal) known
    · exact retains_pure trivial
    · cases raised <;> exact retains_pure trivial
    · refine retains_bind (retains_lift (.bindContextvars _) ?_) fun _ _ => retains_pure trivial
      intro field member _
      rw [List.mem_singleton.mp member]
      exact ⟨rfl, principal, known principal rfl, rfl⟩

end

/-! ### The requests -/

/-- What the repository is built on leaves the fields of the requests alone, and accepts only these principals. -/
structure Site.Discreet (a : Site Out R) (accepts : String → Principal → Prop) : Prop where
  verify : ∀ names token, (discretion names).Retains (a.verify token) fun outcome =>
    ∀ principal, outcome = some (.ok principal) → accepts token principal
  session : ∀ names, Conforms (discretion names) (anything fun _ => True) a.session
  other : ∀ names i code, (a.requests i).endpoint = .other code → (discretion names).Retains code fun _ => True

namespace Site

variable (a : Site Out R) (accepts : String → Principal → Prop) (i : Nat)

/-- Who a request may be of. -/
def Names (principal : Principal) : Prop :=
  ∃ token, (a.requests i).credentials = some token ∧ accepts token principal

/-- What is behind the middleware makes of what the endpoint comes to. -/
def presented : Except RouteExc Response → Except PyExc Response
  | .ok response => .ok response
  | .error raised => JSONResponse.toResponse <$> handle a.framework (a.request i) (ofString a.issuerUrl) raised

variable {a accepts i} (reticent : a.Discreet accepts)

include reticent

theorem retains_runJob (job : Job) : (discretion names).Retains (a.runJob job) fun _ => True := by
  have meets : (job.handler a.unicode).Meets (anything fun _ => True) 1 fun _ => True :=
    handler_meets (fun _ _ => trivial) (fun _ _ => trivial) trivial fun _ => trivial
  have ran := adds_loggedRun (reticent.session names) executorLog_conforms trivial meets
  have run : (discretion names).Retains (loggedRun a.session executorLog (job.handler a.unicode)) fun _ => True :=
    retains_mono (fun _ _ => trivial) (retains_discreet ran)
  refine retains_bind (retains_boundContextvars (by simp [correlationKeys]) run) ?_
  rintro (raised | result) - <;> exact retains_pure trivial

theorem retains_runRoute (route : Route) (uuidGen : Nat → UUID) :
    (discretion (a.Names accepts i)).Retains (a.runRoute route uuidGen (a.requests i).credentials) fun _ => True := by
  unfold runRoute
  split
  · exact retains_pure trivial
  · refine retains_bind (retains_loggedPrincipal fun token given => ?_) ?_
    · refine retains_mono (fun outcome accepted principal verified => ?_) (reticent.verify _ token)
      exact ⟨token, given, accepted principal verified⟩
    · rintro (_ | raised | principal) -
      · exact retains_pure trivial
      · exact retains_pure trivial
      · dsimp only
        split
        · exact retains_pure trivial
        · exact retains_runJob reticent _

theorem retains_callNext : (discretion (a.Names accepts i)).Retains (a.callNext i) fun outcome =>
    outcome = none ∨ ∃ routed, outcome = some (a.presented i routed) := by
  have endpoint : (discretion (a.Names accepts i)).Retains (a.runEndpoint i) fun _ => True := by
    unfold runEndpoint
    split
    · exact retains_runRoute reticent _ _
    · rename_i code named
      exact reticent.other _ i code named
  refine retains_bind endpoint ?_
  rintro (_ | raised | response) -
  · exact retains_pure (Or.inl rfl)
  · refine retains_bind (retains_handlerLog _ _ raised) fun _ _ => ?_
    exact retains_pure (Or.inr ⟨.error raised, rfl⟩)
  · exact retains_pure (Or.inr ⟨.ok response, rfl⟩)

end Site

/-! ### The middleware -/

section
open WebProgram

/-- What a request has of its own in the log once it is served. -/
def milestonesOf (path : String) (statusCode : Option Nat) : List Milestone :=
  if path ∈ skipLogPaths then [] else .started :: (statusCode.map fun code => .finished (some (natValue code))).toList

theorem yields_log {loggerName level event : String} {fields : List (String × Value)}
    (free : ∀ key ∈ correlationKeys, key ∉ fields.map Prod.fst)
    (correlated : Correlated identity names p.contexts.current) {m : List Milestone}
    (written : (milestone (fields.map (fun field => (.str field.1, field.2)) ++ [(.str "event", .str event)])).toList = m) :
    (log loggerName level event fields : WebProgram Out R Unit).Yields (logged identity names) p fun _ p' =>
      p' = ⟨p.contexts, p.milestones ++ m⟩ := by
  refine ⟨⟨fun key member => ?_, correlated⟩, fun _ _ => ?_⟩
  · show get? key _ = none
    rw [get?_fields (free key member)]
    refine if_neg fun same => ?_
    cases same
    revert member
    decide
  · rw [← written]
    rfl

theorem bound_correlated : Correlated identity names (Config.bindContextvars identity.fields []) := by
  constructor
  · intro field member
    simp only [Identity.fields, List.mem_cons, List.not_mem_nil, or_false] at member
    rcases member with rfl | rfl | rfl <;> rfl
  · rintro value ⟨⟩

theorem yields_logStarted {path : String} (correlated : Correlated identity names p.contexts.current) :
    (logStarted path : WebProgram Out R Unit).Yields (logged identity names) p fun _ p' =>
      p' = ⟨p.contexts, p.milestones ++ milestonesOf path none⟩ := by
  unfold logStarted milestonesOf
  split
  · rw [List.append_nil]
    rfl
  · exact yields_log (by simp) correlated rfl

theorem yields_logFinished {path : String} {statusCode : Nat} (correlated : Correlated identity names p.contexts.current)
    (begun : p.milestones = milestonesOf path none) :
    (logFinished path statusCode : WebProgram Out R Unit).Yields (logged identity names) p fun _ p' =>
      p'.milestones = milestonesOf path (some statusCode) := by
  unfold logFinished
  unfold milestonesOf at begun ⊢
  split
  · rename_i skipped
    rw [if_pos skipped] at begun
    exact begun
  · rename_i shown
    rw [if_neg shown] at begun
    refine Program.yields_lift trivial fun duration _ => ?_
    have free : ∀ key ∈ correlationKeys,
        key ∉ [("status_code", natValue statusCode), ("duration_ms", .leaf duration)].map Prod.fst := by
      simp [correlationKeys]
    refine Program.yields_mono ?_ (yields_log (p := p.after (WebOp.durationMs : WebOp Out)) free correlated rfl)
    rintro _ p' rfl
    show p.milestones ++ [] ++ _ = _
    rw [begun]
    rfl

/-- The answer of the middleware, and the lines it wrote. -/
def Answers (framework : Framework) (identity : Identity) (outcome : Option (Except PyExc Response))
    (sent : Option (Except PyExc Response)) (milestones : List Milestone) : Prop :=
  match outcome with
  | none => sent = none ∧ milestones = milestonesOf identity.path none
  | some inner => ∃ response, sent = some (.ok response) ∧
    loggingMiddleware framework identity.path identity.requestId inner = .ok response ∧
    milestones = milestonesOf identity.path (some response.statusCode)

theorem yields_loggedAnswer {framework : Framework} (documented : framework.Documented)
    (correlated : Correlated identity names p.contexts.current) (begun : p.milestones = milestonesOf identity.path none)
    (outcome : Option (Except PyExc Response)) :
    (loggedAnswer framework identity outcome : WebProgram Out R (Option (Except PyExc Response))).Yields
      (logged identity names) p fun sent p' =>
      Answers framework identity outcome sent p'.milestones := by
  rcases outcome with _ | raised | response
  · exact ⟨rfl, begun⟩
  · obtain ⟨json, unexpected⟩ := unexpected_problem documented identity.path (some identity.requestId)
    have status : json.statusCode = 500 := (problem_response unexpected).1
    refine Program.yields_bind (yields_log (by simp [correlationKeys]) correlated rfl) ?_
    rintro _ p' rfl
    rw [unexpected]
    refine Program.yields_bind (yields_logFinished correlated ((List.append_nil _).trans begun)) ?_
    intro _ p' finished
    exact ⟨_, rfl, loggingMiddleware_caught unexpected raised, finished.trans (by rw [← status]; rfl)⟩
  · refine Program.yields_bind (yields_logFinished correlated begun) ?_
    intro _ p' finished
    exact ⟨_, rfl, rfl, finished⟩

theorem yields_loggedMiddleware {framework : Framework} (documented : framework.Documented)
    {callNext : WebProgram Out R (Option (Except PyExc Response))} {post : Option (Except PyExc Response) → Prop}
    (retains : (discretion names).Retains callNext post) (fresh : p.milestones = []) :
    (loggedMiddleware framework identity callNext).Yields (logged identity names) p fun sent p' =>
      ∃ outcome, post outcome ∧ Answers framework identity outcome sent p'.milestones := by
  obtain ⟨contexts, milestones⟩ := p
  subst fresh
  refine Program.yields_lift trivial fun _ _ => Program.yields_lift trivial fun _ _ => ?_
  refine Program.yields_bind (yields_logStarted bound_correlated) ?_
  rintro _ p' rfl
  refine Program.yields_lift trivial fun _ _ => ?_
  have discreet' := Program.yields_mono (fun _ _ there => there.2) (retains 0)
  refine Program.yields_bind (yields_discreet discreet' bound_correlated) ?_
  rintro outcome p' ⟨kept, holds⟩
  refine Program.yields_lift trivial fun _ _ => ?_
  -- the middleware is back in the context that it has bound itself
  have context : (p'.contexts.after (WebOp.endTask : WebOp Out)).current = Config.bindContextvars identity.fields [] := by
    show p'.contexts.waiting.headD _ = _
    rw [kept.waiting]
    rfl
  have begun : p'.milestones ++ [] = milestonesOf identity.path none := by
    rw [kept.milestones]
    show milestonesOf identity.path none ++ [] ++ [] = _
    rw [List.append_nil, List.append_nil]
  refine Program.yields_bind (yields_loggedAnswer documented (context ▸ bound_correlated) begun outcome) ?_
  intro sent p'' answers
  refine Program.yields_lift trivial fun _ _ => ?_
  refine ⟨outcome, holds, ?_⟩
  show Answers framework identity outcome sent (p''.milestones ++ [])
  rw [List.append_nil]
  exact answers

end

/-! ### Any number of requests -/

/-- What a served request was answered, and its own lines. -/
structure Site.Accounts (a : Site Out R) (i : Nat) (response : Response) (milestones : List Milestone) : Prop where
  answered : ∃ routed, respond a.framework (ofString a.issuerUrl) (a.requests i).path (a.requests i).headerRequestId
    (a.identity i).requestId routed = .ok response
  identified : ("X-Request-ID", (a.identity i).requestId) ∈ response.headers
  milestones : milestones = milestonesOf (a.requests i).path (some response.statusCode)

/-- A cancelled request has no answer, and no last line. -/
def Site.Accounted (a : Site Out R) (i : Nat) (sent : Option (Except PyExc Response)) (milestones : List Milestone) : Prop :=
  match sent with
  | none => milestones = milestonesOf (a.requests i).path none
  | some answer => ∃ response, answer = .ok response ∧ a.Accounts i response milestones

section
variable {a : Site Out R} {accepts : String → Principal → Prop} {i : Nat}

theorem presented_respond {routed : Except RouteExc Response} {response : Response}
    (answered : loggingMiddleware a.framework (a.requests i).path (a.identity i).requestId (a.presented i routed) = .ok response) :
    respond a.framework (ofString a.issuerUrl) (a.requests i).path (a.requests i).headerRequestId (a.identity i).requestId
      routed = .ok response := by
  unfold respond
  cases routed with
  | ok value =>
    have inner : loggingMiddleware a.framework (a.requests i).path (a.identity i).requestId (.ok value) = .ok response := answered
    simp only [inner]
  | error raised =>
    have inner : loggingMiddleware a.framework (a.requests i).path (a.identity i).requestId
      (JSONResponse.toResponse <$> handle a.framework (a.request i) (ofString a.issuerUrl) raised) = .ok response := answered
    unfold Site.request at inner
    simp only [inner]

theorem loggingMiddleware_identified {framework : Framework} {path id : String} {inner : Except PyExc Response}
    {response : Response} (answered : loggingMiddleware framework path id inner = .ok response) :
    ("X-Request-ID", id) ∈ response.headers := by
  have last (value : Response) : ("X-Request-ID", id) ∈ (value.setHeader "X-Request-ID" id).headers :=
    List.mem_append_right _ (List.mem_singleton.mpr rfl)
  cases inner with
  | ok value =>
    cases answered
    exact last value
  | error raised =>
    obtain ⟨json, -, built⟩ := Outcome.bind_ok.mp answered
    cases built
    exact last json.toResponse

theorem yields_serve (documented : a.framework.Documented) (reticent : a.Discreet accepts) (fresh : p.milestones = []) :
    (a.serve i).Yields (logged (a.identity i) (a.Names accepts i)) p fun sent p' => a.Accounted i sent p'.milestones := by
  refine Program.yields_bind (yields_loggedMiddleware documented (Site.retains_callNext reticent) fresh) ?_
  rintro sent p' ⟨outcome, came, answers⟩
  rcases outcome with _ | inner
  · obtain ⟨rfl, milestones⟩ := answers
    exact milestones
  · obtain ⟨response, rfl, answered, milestones⟩ := answers
    obtain ⟨routed, rfl⟩ : ∃ routed, inner = a.presented i routed := by
      rcases came with none | ⟨routed, same⟩
      · cases none
      · exact ⟨routed, Option.some.inj same⟩
    exact ⟨response, rfl, ⟨routed, presented_respond answered⟩, loggingMiddleware_identified answered, milestones⟩

end

/-- What the requests have come to in the log, as their budgets have it. -/
structure LogInv (identity : Nat → Identity) (names : Nat → Principal → Prop) (s : Traffic) (g : Nat → Progress) : Prop where
  contexts : ∀ i, s.contexts i = (g i).contexts
  milestones : ∀ i, s.milestones i = (g i).milestones
  lines : ∀ line ∈ s.lines, Unnamed line.2.event ∧ Correlated (identity line.1) (names line.1) line.2.contextvars

theorem milestones_log {s : Traffic} {i : Nat} {call : LogCall} (j : Nat) :
    Traffic.milestones { s with lines := s.lines ++ [(i, call)] } j =
      s.milestones j ++ if i = j then (milestone call.event).toList else [] := by
  unfold Traffic.milestones
  rw [List.filterMap_append]
  congr 1
  split
  · rename_i same
    rw [List.filterMap_cons, if_pos same]
    cases milestone call.event <;> rfl
  · rename_i other
    rw [List.filterMap_cons, if_neg other]
    rfl

theorem logInv_step {identity : Nat → Identity} {names : Nat → Principal → Prop} {s after : Traffic} {g : Nat → Progress}
    {i : Nat} {op : WebOp Out} {answer : op.Ret R} (inv : LogInv identity names s g)
    (allowed : (logged (R := R) (identity i) (names i)).allowed (g i) op) (called : Traffic.Step i op s answer after) :
    LogInv identity names after (Function.update g i ((g i).after op)) := by
  have contexts := inv.contexts
  have milestones := inv.milestones
  cases called with
  | @log s record call called =>
    refine ⟨?_, ?_, fun line member => ?_⟩
    · exact (Function.forall_update_iff g fun j q => s.contexts j = q.contexts).mpr ⟨contexts i, fun j _ => contexts j⟩
    · refine (Function.forall_update_iff g fun j q => Traffic.milestones _ j = q.milestones).mpr ⟨?_, fun j other => ?_⟩
      · rw [milestones_log, if_pos rfl, milestones i, called.event]
        rfl
      · rw [milestones_log, if_neg (Ne.symm other), List.append_nil, milestones j]
    · rcases List.mem_append.mp member with old | new
      · exact inv.lines line old
      · rw [List.mem_singleton.mp new]
        have correlated : Correlated (identity i) (names i) (s.contexts i).current := by
          rw [contexts i]
          exact allowed.2
        exact ⟨called.event ▸ allowed.1, called.contextvars ▸ correlated⟩
  | getContextvars =>
    refine ⟨?_, ?_, inv.lines⟩
    · exact (Function.forall_update_iff g fun j q => s.contexts j = q.contexts).mpr ⟨contexts i, fun j _ => contexts j⟩
    · refine (Function.forall_update_iff g fun j q => s.milestones j = q.milestones).mpr ⟨?_, fun j _ => milestones j⟩
      exact (milestones i).trans (List.append_nil _).symm
  | other answer silent blind =>
    have quiet : op.milestone? = none := by
      cases op with
      | log record => exact (silent record rfl).elim
      | _ => rfl
    refine ⟨?_, ?_, inv.lines⟩
    · refine (Function.forall_update_iff g fun j q =>
        Function.update s.contexts i ((s.contexts i).after op) j = q.contexts).mpr ⟨?_, fun j other => ?_⟩
      · rw [Function.update_self, contexts i]
        rfl
      · rw [Function.update_of_ne other, contexts j]
    · refine (Function.forall_update_iff g fun j q => s.milestones j = q.milestones).mpr ⟨?_, fun j _ => milestones j⟩
      show _ = (g i).milestones ++ op.milestone?.toList
      rw [quiet, Option.toList_none, List.append_nil, milestones i]

/-- Whatever has happened, every line is its request's, and each request goes on as it should. -/
theorem reachable_logged {a : Site Out R} {accepts : String → Principal → Prop} (documented : a.framework.Documented)
    (reticent : a.Discreet accepts) {contexts : Nat → EventDict}
    {state : Running (WebOp Out) (WebOp.Ret R) Traffic (Option (Except PyExc Response))}
    (reached : a.Reachable contexts state) :
    ∃ g, LogInv a.identity (a.Names accepts) state.store g ∧
      ∀ i, (state.tasks i).Yields (logged (a.identity i) (a.Names accepts i)) (g i) fun sent p =>
        a.Accounted i sent p.milestones := by
  have yields (i : Nat) (_ : True) : (a.serve i).Yields (logged (a.identity i) (a.Names accepts i)) ⟨{ current := contexts i }, []⟩
      fun sent p => a.Accounted i sent p.milestones := yields_serve documented reticent rfl
  have start : LogInv a.identity (a.Names accepts) (a.initial contexts).store fun i => ⟨{ current := contexts i }, []⟩ :=
    ⟨fun _ => rfl, fun _ => rfl, fun _ member => (List.not_mem_nil member).elim⟩
  have runs := reachable_yields (fun s g => LogInv a.identity (a.Names accepts) s.store g) (fun _ => True) _
    (fun s g i op next answer after inv _ allowed called _ => ⟨fun _ => trivial, logInv_step inv (allowed trivial) called⟩)
    start yields reached
  obtain ⟨g, inv, yields⟩ := runs
  exact ⟨g, inv, fun i => yields i trivial⟩

section
variable {a : Site Out R} {accepts : String → Principal → Prop} {contexts : Nat → EventDict}
  {state : Running (WebOp Out) (WebOp.Ret R) Traffic (Option (Except PyExc Response))}

theorem correlationKeys_kept {runtime : Config.Runtime} (lowercase : ∀ key ∈ correlationKeys, runtime.lower key = key)
    {key : String} (member : key ∈ correlationKeys) {args : Config.LoggingArgs} (extra : args.extraSensitiveKeyFragments = none)
    (value : Value) : Config.redactUnder runtime.lower (Config.sensitiveKeyFragments runtime args) (.str key) value =
      Config.redactNested runtime.lower (Config.sensitiveKeyFragments runtime args) value := by
  have plain : ∀ key ∈ correlationKeys, (Config.defaultSensitiveKeyFragments.any fun fragment =>
      Config.contains key fragment) = false := by decide +kernel
  have fragments : Config.sensitiveKeyFragments runtime args = Config.defaultSensitiveKeyFragments := by
    unfold Config.sensitiveKeyFragments
    rw [extra]
  refine Config.redactUnder_plain fun sensitive => Bool.false_ne_true ((plain key member).symm.trans ?_)
  rw [fragments] at sensitive
  simpa only [Config.isSensitive, lowercase key member] using sensitive

/-- However the requests interleave, and whatever contexts they were started in, what the log shows of a request
is under its own id, method and path, and under no other user than the one its token stands for. -/
theorem lines_correlated {runtime : Config.Runtime} {lib : Config.Structlog} (structlog : lib.Documented)
    (lowercase : ∀ key ∈ correlationKeys, runtime.lower key = key) (logLevel : String) (logFormat : Config.LogFormat)
    (appName : String) (documented : a.framework.Documented) (reticent : a.Discreet accepts)
    (reached : a.Reachable contexts state) : ∀ i call, (i, call) ∈ state.store.lines →
      ∀ out, Config.handedToRenderer runtime lib (createAppLogging logLevel logFormat appName) call = some out →
        Correlated (a.identity i) (a.Names accepts i) out := by
  intro i call written out handed
  obtain ⟨g, inv, -⟩ := reachable_logged documented reticent reached
  obtain ⟨unnamed, correlated⟩ := inv.lines (i, call) written
  have held {key : String} (member : key ∈ correlationKeys) : get? key out = (get? key call.contextvars).map
      (Config.redactNested runtime.lower
        (Config.sensitiveKeyFragments runtime (createAppLogging logLevel logFormat appName))) := by
    have free : key ∉ Config.processedKeys := by
      revert key
      decide
    have static : get? key (Config.staticFields (createAppLogging logLevel logFormat appName)) = none := by
      refine if_neg fun same => ?_
      cases same
      revert member
      decide
    rw [Config.handed_get? structlog free handed, static, Option.or_none]
    unfold Config.bound
    rw [unnamed key member, Option.none_or]
    exact congrArg (Option.map · _) (funext fun value => correlationKeys_kept lowercase member rfl value)
  constructor
  · intro field member
    rw [held (mem_correlationKeys member).1, correlated.named field member]
    simp only [Identity.fields, List.mem_cons, List.not_mem_nil, or_false] at member
    rcases member with rfl | rfl | rfl <;> rfl
  · intro value shown
    rw [held (by simp [correlationKeys])] at shown
    obtain ⟨bound, inside, rfl⟩ := Option.map_eq_some_iff.mp shown
    obtain ⟨principal, known, rfl⟩ := correlated.attributed bound inside
    exact ⟨principal, known, rfl⟩

end

end

/-! ### A sample run -/

abbrev StatementRet (statement : Statement) : Type := Except Exc statement.Result

/-- Statements are answered from outside, and everything else succeeds. -/
def sampleSession : SessionApi (WebProgram Statement StatementRet) where
  sessionFactory := return 0
  orgsRepoFactory _ := return .ok ()
  usersRepoFactory _ := return .ok ()
  membershipsRepoFactory _ := return .ok ()
  add _ _ := return ()
  execute _ statement := Program.lift (WebOp.outside statement)
  flush _ := return .ok ()
  refresh _ _ := return .ok ()
  commit _ := return .ok ()
  rollback _ := return .ok ()
  close _ := return .ok ()
  now := return 7

/-- Request 0 logs in, and the others look at the documentation. -/
def sampleSite : Site Statement StatementRet where
  framework := fastapi
  unicode := ⟨id, id⟩
  decimal _ := none
  issuerUrl := "https://sso"
  verify _ := return some (.ok Postgres.samplePrincipal)
  session := sampleSession
  requests
    | 0 => {
      method := "POST"
      path := "/users/me"
      freshRequestId := 0
      credentials := some "t"
      endpoint := .route .login sampleUuids }
    | i + 1 => {
      method := "GET"
      path := "/docs"
      freshRequestId := i + 1
      endpoint := .other (return some (.ok { statusCode := 200, headers := [], body := .problem [] })) }

theorem sampleSite_discreet : sampleSite.Discreet fun _ principal => principal = Postgres.samplePrincipal where
  verify _ _ := retains_pure fun principal verified => by
    cases verified
    rfl
  session names := by
    have succeeds {value : Unit} : (discretion names).Retains (pure (.ok value) : WebProgram Statement StatementRet (Except Exc Unit))
        (anything fun _ => True).Unit := retains_pure trivial
    refine ⟨retains_pure trivial, fun _ => succeeds, fun _ => succeeds, fun _ => succeeds, ?_, ?_, fun _ => succeeds,
      fun _ _ => succeeds, fun _ _ => succeeds, fun _ => succeeds, fun _ => succeeds, retains_pure trivial⟩
    · intro _ _ g _
      exact (discretion names).pure (Nat.le_succ g)
    · intro _ statement _
      refine retains_mono (fun outcome _ => ?_) (retains_lift (.outside statement) trivial)
      cases outcome <;> trivial
  other names i code named := by
    cases i with
    | zero => cases named
    | succ i =>
      cases named
      exact retains_pure trivial

/-- The server starts every request in what is left of another one. -/
def staleContexts (_ : Nat) : EventDict := [(.str "request_id", .str "stale"), (.str "user_subject", .str "mallory")]

def sampleCall (record : Record) (context : EventDict) : LogCall where
  event := record.event
  contextvars := context
  loggerName := record.loggerName
  level := record.level
  timestamp := "2026-01-01T00:00:00Z"
  fromStructlog := record.fromStructlog

theorem traffic_other {i : Nat} {s : Traffic} (op : WebOp Out) (answer : op.Ret R)
    (quiet : ∀ record, op ≠ .log record := by nofun) (blind : op ≠ .getContextvars := by nofun) :
    Traffic.Step i op s answer { s with contexts := Function.update s.contexts i ((s.contexts i).after op) } :=
  .other answer quiet blind

theorem traffic_log {i : Nat} {s : Traffic} (record : Record) : @Traffic.Step Out R i (.log record) s ()
    { s with lines := s.lines ++ [(i, sampleCall record (s.contexts i).current)] } :=
  .log ⟨rfl, rfl, rfl, rfl, rfl⟩

/-- The login has come to its transaction. -/
theorem sample_transaction : ∃ state call, sampleSite.Reachable staleContexts state ∧ (0, call) ∈ state.store.lines ∧
    get? "event" call.event = some (.str "transaction_started") := by
  have runs : ∃ program t, Program.Runs (Traffic.Step 0) (sampleSite.serve 0) (sampleSite.initial staleContexts).store program t ∧
      ∃ call, (0, call) ∈ t.lines ∧ get? "event" call.event = some (.str "transaction_started") := by
    refine ⟨_, _, .call (traffic_other .clearContextvars ()) <| .call (traffic_other (.bindContextvars _) ()) <|
      .call (traffic_log _) <| .call (traffic_other .startTask ()) <| .call (traffic_other (.bindContextvars _) ()) <|
      .call .getContextvars <| .call (traffic_other (.bindContextvars _) ()) <| .call (traffic_log _) .refl, _,
      List.mem_append_right _ (List.mem_singleton.mpr rfl), rfl⟩
  obtain ⟨program, t, runs, call, written, event⟩ := runs
  obtain ⟨tasks, reached, -⟩ := Running.Reachable.alone runs .initial rfl
  exact ⟨_, call, reached, written, event⟩

theorem asciiRuntime_correlationKeys : ∀ key ∈ correlationKeys, Config.asciiRuntime.lower key = key := by decide +kernel

theorem lines_correlated_sample : ∃ state call, sampleSite.Reachable staleContexts state ∧ (0, call) ∈ state.store.lines ∧
    get? "event" call.event = some (.str "transaction_started") ∧
    ∀ out, Config.handedToRenderer Config.asciiRuntime Config.plainStructlog (createAppLogging "INFO" .json "pet") call = some out →
      Correlated (sampleSite.identity 0) (sampleSite.Names (fun _ principal => principal = Postgres.samplePrincipal) 0) out := by
  obtain ⟨state, call, reached, written, event⟩ := sample_transaction
  exact ⟨state, call, reached, written, event, lines_correlated Config.plainStructlog_documented asciiRuntime_correlationKeys
    "INFO" .json "pet" fastapi_documented sampleSite_discreet reached 0 call written⟩

theorem sample_served : ∃ state response, sampleSite.Reachable staleContexts state ∧
    state.tasks 1 = .done (some (.ok response)) ∧ response.statusCode = 200 := by
  have runs : ∃ response t, Program.Runs (Traffic.Step 1) (sampleSite.serve 1) (sampleSite.initial staleContexts).store
      (.done (some (.ok response))) t ∧ response.statusCode = 200 := by
    refine ⟨_, _, .call (traffic_other .clearContextvars ()) <| .call (traffic_other (.bindContextvars _) ()) <|
      .call (traffic_log _) <| .call (traffic_other .startTask ()) <| .call (traffic_other .endTask ()) <|
      .call (traffic_other .durationMs "0.5") <| .call (traffic_log _) <| .call (traffic_other .clearContextvars ()) .refl, rfl⟩
  obtain ⟨response, t, runs, status⟩ := runs
  obtain ⟨tasks, reached, ended, -⟩ := Running.Reachable.alone runs .initial rfl
  exact ⟨_, response, reached, ended, status⟩

end PetBackend.Api
