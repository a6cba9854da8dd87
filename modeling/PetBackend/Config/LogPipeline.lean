import PetBackend.Config.Redaction

/-!
# The chain around redaction

Redaction is the last shared processor, and `dict_tracebacks` runs after it.
-/

namespace PetBackend.Config
open EventDict

/-! ### What structlog documents -/

/-- A single dict argument stands for itself. -/
def unwrapArgs : Value → Value
  | .tuple [.dict (entry :: rest)] | .list [.dict (entry :: rest)] => .dict (entry :: rest)
  | args => args

/-- `event % positional_args`, if there are any. -/
def formatArguments (format : Value → Option Value → Option Value) : Processor := fun d =>
  match get? "positional_args" d with
  | none | some .none => some d
  | some args =>
    if args.truthy then
      (format (unwrapArgs args) (get? "event" d)).map fun event =>
        del "positional_args" (setItem "event" event d)
    else some (del "positional_args" d)

section
variable (call : LogCall)

def renderStackInfo (d : EventDict) : EventDict :=
  match get? "stack_info" d with
  | some info =>
    if info.truthy then setItem "stack" (.str call.stack) (del "stack_info" d)
    else del "stack_info" d
  | none => d

/-- The two keys that `ProcessorFormatter` adds. -/
def addMeta (d : EventDict) : EventDict :=
  setItem "_from_structlog" (.bool call.fromStructlog) (setItem "_record" (.leaf "<LogRecord>") d)

/-- `exc_info` gives way to the list of its traces, as dicts. -/
def renderTraceback (d : EventDict) : EventDict :=
  match (get? "exc_info" d).filter Value.truthy, call.traceback with
  | some _, some traces => setItem "exception" (.list (traces.map Stack.toDict)) (del "exc_info" d)
  | _, _ => del "exc_info" d

end

structure Structlog.Documented (lib : Structlog) : Prop where
  mergeContextvars : ∀ call d, lib.mergeContextvars call d = some (setdefaults call.contextvars d)
  addLoggerName : ∀ call d, lib.addLoggerName call d = some (setItem "logger" (.str call.loggerName) d)
  addLogLevel : ∀ call d, lib.addLogLevel call d = some (setItem "level" (.str call.level) d)
  positionalArgumentsFormatter : ∃ format, lib.positionalArgumentsFormatter = formatArguments format
  timeStamper : ∀ call d, lib.timeStamper call d = some (setItem "timestamp" (.str call.timestamp) d)
  stackInfoRenderer : ∀ call d, lib.stackInfoRenderer call d = some (renderStackInfo call d)
  filterByLevel : ∀ call d, lib.filterByLevel call d = if call.enabled then some d else none
  withMeta : ∀ call d, lib.withMeta call d = addMeta call d
  removeProcessorsMeta : ∀ d, lib.removeProcessorsMeta d = some (del "_from_structlog" (del "_record" d))
  dictTracebacks : ∀ call d, lib.dictTracebacks call d = some (renderTraceback call d)

/-! ### The two halves of the chain -/

section
variable (lib : Structlog) (args : LoggingArgs) (call : LogCall)

def started : EventDict := if call.fromStructlog then call.event else addMeta call call.event

def staticFields : EventDict := args.staticFields.getD []

def labelled : EventDict :=
  setItem "level" (.str call.level) (setItem "logger" (.str call.loggerName)
    (setdefaults call.contextvars (started call)))

/-- What the redact processor gets. -/
def prepared : Option EventDict :=
  (lib.positionalArgumentsFormatter (labelled call)).map fun d =>
    setdefaults (staticFields args)
      (renderStackInfo call (setItem "timestamp" (.str call.timestamp) d))

/-- What becomes of a redacted event dict. -/
def finished (d : EventDict) : Option EventDict :=
  if call.fromStructlog && !call.enabled then none
  else some (renderTraceback call (del "_from_structlog" (del "_record" d)))

end

variable {runtime : Runtime} {lib : Structlog} {args : LoggingArgs} {call : LogCall}

theorem runChain_append (first second : List Processor) (d : EventDict) :
    runChain (first ++ second) d = (runChain first d).bind (runChain second) := by
  unfold runChain
  rw [List.foldlM_append]
  rfl

theorem runChain_static (d : EventDict) :
    runChain (staticProcessors args) d = some (setdefaults (staticFields args) d) := by
  unfold staticProcessors staticFields
  cases args.staticFields with
  | none => rfl
  | some fields => cases fields <;> rfl

theorem runChain_shared (documented : lib.Documented) :
    runChain (sharedProcessors runtime lib args call) (started call) =
      (prepared lib args call).map (redact runtime.lower (sensitiveKeyFragments runtime args)) := by
  have first : runChain [lib.mergeContextvars call, lib.addLoggerName call, lib.addLogLevel call,
      lib.positionalArgumentsFormatter, lib.timeStamper call, lib.stackInfoRenderer call] (started call) =
        (lib.positionalArgumentsFormatter (labelled call)).map fun d =>
          renderStackInfo call (setItem "timestamp" (.str call.timestamp) d) := by
    simp only [runChain, List.foldlM_cons, List.foldlM_nil, Option.bind_eq_bind, Option.pure_def,
      documented.mergeContextvars, documented.addLoggerName, documented.addLogLevel,
      documented.timeStamper, documented.stackInfoRenderer, Option.bind_some]
    exact Option.map_eq_bind.symm
  have last (d : EventDict) : runChain [makeRedactProcessor runtime (sensitiveKeyFragments runtime args)] d =
      some (redact runtime.lower (sensitiveKeyFragments runtime args) d) := rfl
  unfold sharedProcessors prepared
  simp only [runChain_append, first]
  cases lib.positionalArgumentsFormatter (labelled call) with
  | none => rfl
  | some d => simp only [Option.map_some, Option.bind_some, runChain_static, last]

theorem unmeta (d : EventDict) :
    del "_from_structlog" (del "_record" (addMeta call d)) = del "_from_structlog" (del "_record" d) := by
  unfold addMeta
  rw [del_setItem (by decide), del_setItem_self, del_setItem_self]

theorem handed_eq (documented : lib.Documented) (json : args.logFormat = .json) :
    handedToRenderer runtime lib args call = (prepared lib args call).bind fun d =>
      finished call (redact runtime.lower (sensitiveKeyFragments runtime args) d) := by
  have shared : runChain (sharedProcessors runtime lib args call) (started call) = _ :=
    runChain_shared documented
  have formatter (d : EventDict) : runChain (formatterProcessors lib args call) d =
      some (renderTraceback call (del "_from_structlog" (del "_record" d))) := by
    unfold formatterProcessors
    rw [json]
    simp [runChain, documented.removeProcessorsMeta, documented.dictTracebacks]
  have level (d : EventDict) : runChain [lib.filterByLevel call] d =
      if call.enabled then some d else none := by
    simp [runChain, documented.filterByLevel]
  unfold handedToRenderer finished
  unfold started at shared
  cases source : call.fromStructlog with
  | true =>
    simp only [source, if_true] at shared
    simp only [if_true, runChain_append, shared, Option.bind_eq_bind]
    cases prepared lib args call with
    | none => rfl
    | some d =>
      cases enabled : call.enabled with
      | true => simp [level, enabled, formatter, documented.withMeta, unmeta]
      | false => simp [level, enabled]
  | false =>
    simp only [source, Bool.false_eq_true, if_false] at shared
    simp only [Bool.false_eq_true, if_false, documented.withMeta, shared, Option.bind_eq_bind]
    cases prepared lib args call with
    | none => rfl
    | some d => simp [formatter]

end PetBackend.Config
