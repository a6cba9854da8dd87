import Mathlib.Data.List.Infix
import PetBackend.Config.EventDict

/-!
# The log pipeline

`config/logging.py`: the redact and static fields processors, and the chain that
`configure_logging` installs around them.
-/

namespace PetBackend.Config

/-- The Python string operations that the chain uses. -/
structure Runtime where
  lower : String → String
  upper : String → String
  repr : String → String

/-- `frozenset` has no order, so neither do the fragments. -/
def defaultSensitiveKeyFragments : List String :=
  ["password", "passwd", "secret", "token", "api_key", "apikey", "authorization", "cookie",
    "private_key", "client_secret"]

def redacted : Value := .str "***"

def contains (text fragment : String) : Bool := decide (fragment.toList <:+: text.toList)

section
variable (lower : String → String) (fragments : List String)

def isSensitive : Key → Bool
  | .str name => fragments.any fun fragment => contains (lower name) fragment
  | .other _ => false

mutual

def redactNested : Value → Value
  | .dict entries => .dict (redactEntries entries)
  | .list items => .list (redactItems items)
  | .tuple items => .tuple (redactItems items)
  | value => value

def redactEntries : List (Key × Value) → List (Key × Value)
  | [] => []
  | (k, v) :: rest =>
    (k, if isSensitive lower fragments k then redacted else redactNested v) :: redactEntries rest

def redactItems : List Value → List Value
  | [] => []
  | item :: rest => redactNested item :: redactItems rest

end

/-- `event_dict[key] = change(event_dict[key])`. -/
def EventDict.assign (d : EventDict) (key : Key) (change : Value → Value) : EventDict :=
  d.map fun entry => if entry.1 = key then (entry.1, change entry.2) else entry

def redact (d : EventDict) : EventDict :=
  (d.map Prod.fst).foldl (fun d key =>
    if isSensitive lower fragments key then EventDict.assign d key fun _ => redacted
    else EventDict.assign d key (redactNested lower fragments)) d

end

/-- What a processor makes of an event dict. Nothing if it raises or drops the event. -/
abbrev Processor := EventDict → Option EventDict

/-- A frame of a traceback: what else it shows, and the reprs of its local variables. -/
structure Frame where
  fields : List (Key × Value)
  locals : List (String × String)

structure Stack where
  fields : List (Key × Value)
  frames : List Frame

def Frame.toDict (frame : Frame) : Value :=
  .dict (frame.fields ++ [(.str "locals", .dict (frame.locals.map fun (name, repr) =>
    (.str name, .str repr)))])

def Stack.toDict (stack : Stack) : Value :=
  .dict (stack.fields ++ [(.str "frames", .list (stack.frames.map Frame.toDict))])

/-- A log call and what its processors read besides the event dict. -/
structure LogCall where
  event : EventDict
  contextvars : EventDict := []
  loggerName : String
  level : String
  timestamp : String
  stack : String := ""
  /-- From structlog, or from a plain `logging` call. -/
  fromStructlog : Bool := true
  enabled : Bool := true
  /-- The exception that a truthy `exc_info` stands for. -/
  traceback : Option (List Stack) := none

def makeStaticFieldsProcessor (fields : EventDict) : Processor := fun d =>
  some (EventDict.setdefaults fields d)

def makeRedactProcessor (runtime : Runtime) (fragments : List String) : Processor := fun d =>
  some (redact runtime.lower fragments d)

/-- The processors of structlog. `withMeta` is what `wrap_for_formatter` and `ProcessorFormatter` add
to an event dict. -/
structure Structlog where
  mergeContextvars : LogCall → Processor
  addLoggerName : LogCall → Processor
  addLogLevel : LogCall → Processor
  positionalArgumentsFormatter : Processor
  timeStamper : LogCall → Processor
  stackInfoRenderer : LogCall → Processor
  filterByLevel : LogCall → Processor
  withMeta : LogCall → EventDict → EventDict
  removeProcessorsMeta : Processor
  dictTracebacks : LogCall → Processor

/-! ### The configuration -/

inductive LogFormat where
  | json
  | console

structure LoggingArgs where
  level : String := "INFO"
  logFormat : LogFormat := .json
  staticFields : Option EventDict := none
  extraSensitiveKeyFragments : Option (List String) := none

def validLogLevels : List String := ["CRITICAL", "ERROR", "WARNING", "INFO", "DEBUG", "NOTSET"]

def normalizeLogLevel (runtime : Runtime) (level : String) : Except String String :=
  let normalized := runtime.upper level
  if normalized ∈ validLogLevels then .ok normalized
  else
    let shown := runtime.repr level
    .error s!"Unsupported log level: {shown}. Expected one of: CRITICAL, DEBUG, ERROR, INFO, NOTSET, WARNING"

def sensitiveKeyFragments (runtime : Runtime) (args : LoggingArgs) : List String :=
  match args.extraSensitiveKeyFragments with
  | none => defaultSensitiveKeyFragments
  | some extra => defaultSensitiveKeyFragments ++ extra.map runtime.lower

/-- `if static_fields`. -/
def staticProcessors (args : LoggingArgs) : List Processor :=
  match args.staticFields with
  | none | some [] => []
  | some fields => [makeStaticFieldsProcessor fields]

def runChain (processors : List Processor) (d : EventDict) : Option EventDict :=
  processors.foldlM (fun d processor => processor d) d

section
variable (runtime : Runtime) (lib : Structlog)

/-- `shared_processors`, the static fields one inserted before the last. -/
def sharedProcessors (args : LoggingArgs) (call : LogCall) : List Processor :=
  [lib.mergeContextvars call, lib.addLoggerName call, lib.addLogLevel call,
    lib.positionalArgumentsFormatter, lib.timeStamper call, lib.stackInfoRenderer call] ++
    staticProcessors args ++ [makeRedactProcessor runtime (sensitiveKeyFragments runtime args)]

def formatterProcessors (args : LoggingArgs) (call : LogCall) : List Processor :=
  match args.logFormat with
  | .json => [lib.removeProcessorsMeta, lib.dictTracebacks call]
  | .console => [lib.removeProcessorsMeta]

def handedToRenderer (args : LoggingArgs) (call : LogCall) : Option EventDict := do
  let shared := sharedProcessors runtime lib args call
  let prepared ←
    if call.fromStructlog then do
      let d ← runChain (shared ++ [lib.filterByLevel call]) call.event
      pure (lib.withMeta call d)
    else runChain shared (lib.withMeta call call.event)
  runChain (formatterProcessors lib args call) prepared

/-- What `configure_logging` installs: the level, and what becomes of a log call. -/
structure Logging where
  level : String
  render : LogCall → Option EventDict

def configureLogging (args : LoggingArgs) : Except String Logging := do
  let normalizedLevel ← normalizeLogLevel runtime args.level
  return { level := normalizedLevel, render := handedToRenderer runtime lib args }

end

end PetBackend.Config
