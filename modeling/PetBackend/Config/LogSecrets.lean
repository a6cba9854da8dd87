import PetBackend.Config.LogPipeline
import PetBackend.Library.Outcome

/-!
# Secrets in the JSON log

What `dict_tracebacks` adds is never redacted, so the renderer gets the local variables of a
traceback as they are. Everything else it gets is redacted.
-/

namespace PetBackend.Config
open EventDict

section
variable (lower : String → String) (fragments : List String)

structure Frame.Hidden (frame : Frame) : Prop where
  fields : Clean lower fragments (.dict frame.fields)
  heading : isSensitive lower fragments (.str "locals") = false
  values : ∀ name repr, (name, repr) ∈ frame.locals →
    isSensitive lower fragments (.str name) = true → repr = "***"

structure Stack.Hidden (stack : Stack) : Prop where
  fields : Clean lower fragments (.dict stack.fields)
  heading : isSensitive lower fragments (.str "frames") = false
  frames : ∀ frame ∈ stack.frames, frame.Hidden lower fragments

structure TracesHidden (traces : List Stack) : Prop where
  heading : isSensitive lower fragments (.str "exception") = false
  traces : ∀ stack ∈ traces, stack.Hidden lower fragments

/-- Two event dicts that differ in values under sensitive keys only. -/
def Alike (d d' : EventDict) : Prop := redactEntries lower fragments d = redactEntries lower fragments d'

end

/-- What a log call has under a key, of its own or from the context. -/
def bound (key : String) (call : LogCall) : Option Value :=
  (get? key call.event).or (get? key call.contextvars)

def excInfo (args : LoggingArgs) (call : LogCall) : Option Value :=
  (bound "exc_info" call).or (get? "exc_info" (staticFields args))

def ShowsTraceback (d : EventDict) : Prop := ∃ held, get? "exc_info" d = some held ∧ held.truthy = true

/-- The call renders its traceback, if it has one. A sensitive `exc_info` is redacted to a truthy
one. -/
def Shows (runtime : Runtime) (args : LoggingArgs) (call : LogCall) : Prop :=
  ∃ held, excInfo args call = some held ∧ (held.truthy = true ∨
    isSensitive runtime.lower (sensitiveKeyFragments runtime args) (.str "exc_info") = true)

/-- A traceback that the call renders holds nothing under a sensitive name. -/
def TracebackHidden (runtime : Runtime) (args : LoggingArgs) (call : LogCall) : Prop :=
  Shows runtime args call → ∀ traces, call.traceback = some traces →
    TracesHidden runtime.lower (sensitiveKeyFragments runtime args) traces

def TracebacksAgree (runtime : Runtime) (args : LoggingArgs) (call call' : LogCall) : Prop :=
  Shows runtime args call →
    call.traceback.map (List.map Stack.toDict) = call'.traceback.map (List.map Stack.toDict)

/-- Two log calls that differ in values under sensitive names only. -/
structure SameButSecrets (runtime : Runtime) (args args' : LoggingArgs) (call call' : LogCall) :
    Prop where
  configured : args' = { args with staticFields := args'.staticFields }
  called : call' = { call with
    event := call'.event, contextvars := call'.contextvars, traceback := call'.traceback }
  fields : Alike runtime.lower (sensitiveKeyFragments runtime args) (staticFields args) (staticFields args')
  event : Alike runtime.lower (sensitiveKeyFragments runtime args) call.event call'.event
  contextvars :
    Alike runtime.lower (sensitiveKeyFragments runtime args) call.contextvars call'.contextvars
  tracebacks : call.traceback.map (fun traces => redactItems runtime.lower
      (sensitiveKeyFragments runtime args) (traces.map Stack.toDict)) =
    call'.traceback.map (fun traces => redactItems runtime.lower
      (sensitiveKeyFragments runtime args) (traces.map Stack.toDict))

/-- What the processors before redaction act on is the same in both calls. -/
structure SameDirectives (call call' : LogCall) : Prop where
  arguments : bound "positional_args" call = bound "positional_args" call'
  text : bound "positional_args" call ≠ none → bound "event" call = bound "event" call'
  stackInfo : (bound "stack_info" call).map Value.truthy = (bound "stack_info" call').map Value.truthy

section
variable {lower : String → String} {fragments : List String}

theorem dict_structured (entries : EventDict) : Value.dict entries ≠ redacted := by
  intro same
  cases same

theorem list_structured (items : List Value) : Value.list items ≠ redacted := by
  intro same
  cases same

/-- A redacted value is a text, so nothing else may stand under a sensitive key. -/
theorem held_structured {key : Key} {value : Value} (structured : value ≠ redacted) :
    (isSensitive lower fragments key = true → value = redacted) ↔ isSensitive lower fragments key = false := by
  constructor
  · intro held
    rw [Bool.eq_false_iff]
    intro sensitive
    exact structured (held sensitive)
  · intro plain sensitive
    rw [plain] at sensitive
    cases sensitive

theorem clean_append {d : EventDict} {key : Key} {value : Value} (structured : value ≠ redacted) :
    Clean lower fragments (.dict (d ++ [(key, value)])) ↔
      Clean lower fragments (.dict d) ∧ isSensitive lower fragments key = false ∧
        Clean lower fragments value := by
  rw [← held_structured structured]
  constructor
  · intro clean
    have each := clean_dict.mp clean
    refine ⟨clean_dict.mpr fun k v member => each k v (List.mem_append_left _ member), ?_⟩
    exact each key value (List.mem_append_right _ (List.mem_singleton.mpr rfl))
  · rintro ⟨clean, held⟩
    refine clean_dict.mpr fun k v member => ?_
    rcases List.mem_append.mp member with inside | last
    · exact clean_dict.mp clean k v inside
    · cases List.mem_singleton.mp last
      exact held

theorem frame_clean {frame : Frame} :
    Clean lower fragments frame.toDict ↔ frame.Hidden lower fragments := by
  unfold Frame.toDict
  rw [clean_append (dict_structured _)]
  constructor
  · rintro ⟨fields, heading, values⟩
    refine ⟨fields, heading, fun name repr member sensitive => ?_⟩
    have held := clean_dict.mp values (.str name) (.str repr) (List.mem_map.mpr ⟨_, member, rfl⟩)
    exact Value.str.inj (held.1 sensitive)
  · intro hidden
    refine ⟨hidden.fields, hidden.heading, clean_dict.mpr fun key value inside => ?_⟩
    obtain ⟨⟨name, repr⟩, among, same⟩ := List.mem_map.mp inside
    cases same
    exact ⟨fun sensitive => congrArg Value.str (hidden.values name repr among sensitive), clean_str repr⟩

theorem stack_clean {stack : Stack} :
    Clean lower fragments stack.toDict ↔ stack.Hidden lower fragments := by
  unfold Stack.toDict
  rw [clean_append (list_structured _), clean_list]
  constructor
  · rintro ⟨fields, heading, frames⟩
    exact ⟨fields, heading, fun frame member => frame_clean.mp (frames _ (List.mem_map_of_mem member))⟩
  · intro hidden
    refine ⟨hidden.fields, hidden.heading, fun value inside => ?_⟩
    obtain ⟨frame, among, rfl⟩ := List.mem_map.mp inside
    exact frame_clean.mpr (hidden.frames frame among)

theorem traces_clean {traces : List Stack} : Clean lower fragments (.list (traces.map Stack.toDict)) ↔
    ∀ stack ∈ traces, stack.Hidden lower fragments := by
  rw [clean_list]
  constructor
  · intro clean stack member
    exact stack_clean.mp (clean _ (List.mem_map_of_mem member))
  · intro hidden value member
    obtain ⟨stack, inside, rfl⟩ := List.mem_map.mp member
    exact stack_clean.mpr (hidden stack inside)

theorem clean_del {d : EventDict} (key : String) (clean : Clean lower fragments (.dict d)) :
    Clean lower fragments (.dict (del key d)) :=
  clean_dict.mpr fun k v member => clean_dict.mp clean k v (mem_del member)

theorem clean_setItem {d : EventDict} {key : String} {value : Value}
    (clean : Clean lower fragments (.dict d)) :
    Clean lower fragments (.dict (setItem key value d)) ↔
      (isSensitive lower fragments (.str key) = true → value = redacted) ∧
        Clean lower fragments value := by
  constructor
  · intro set
    exact clean_dict.mp set (.str key) value (mem_setItem_self d)
  · intro held
    refine clean_dict.mpr fun k v member => ?_
    rcases mem_setItem member with ⟨rfl, rfl⟩ | inside
    · exact held
    · exact clean_dict.mp clean k v inside

theorem redactUnder_truthy (key : Key) (value : Value) :
    (redactUnder lower fragments key value).truthy = true ↔
      value.truthy = true ∨ isSensitive lower fragments key = true := by
  by_cases sensitive : isSensitive lower fragments key = true
  · rw [redactUnder_sensitive sensitive]
    simp [sensitive, redacted, Value.truthy]
  · rw [redactUnder_plain sensitive, redactNested_truthy]
    simp [sensitive]

theorem not_shown {d : EventDict} (none : (get? "exc_info" d).filter Value.truthy = none) : ¬ ShowsTraceback d := by
  rintro ⟨held, info, truthy⟩
  rw [info, Option.filter_some, if_pos truthy] at none
  cases none

/-- A clean event dict stays clean just if the traceback put into it is. -/
theorem renderTraceback_clean {call : LogCall} {d : EventDict} (clean : Clean lower fragments (.dict d)) :
    Clean lower fragments (.dict (renderTraceback call d)) ↔
      (ShowsTraceback d → ∀ traces, call.traceback = some traces → TracesHidden lower fragments traces) := by
  have rest := clean_del "exc_info" clean
  unfold renderTraceback
  cases shown : (get? "exc_info" d).filter Value.truthy with
  | none => exact ⟨fun _ shows => (not_shown shown shows).elim, fun _ => rest⟩
  | some held =>
    have shows : ShowsTraceback d := ⟨held, Option.filter_eq_some_iff.mp shown⟩
    cases attached : call.traceback with
    | none => exact ⟨fun _ _ _ none => (nomatch none), fun _ => rest⟩
    | some traces =>
      rw [clean_setItem rest, held_structured (list_structured _), traces_clean]
      constructor
      · rintro ⟨heading, each⟩ _ traces' same
        cases same
        exact ⟨heading, each⟩
      · intro hidden
        obtain ⟨heading, each⟩ := hidden shows traces rfl
        exact ⟨heading, each⟩

/-! ### What a processor leaves alone -/

theorem formatArguments_get? {format : Value → Option Value → Option Value} {d d' : EventDict}
    {key : String} (event : "event" ≠ key) (arguments : "positional_args" ≠ key)
    (ran : formatArguments format d = some d') : get? key d' = get? key d := by
  unfold formatArguments at ran
  split at ran
  · cases ran
    rfl
  · cases ran
    rfl
  · split at ran
    · obtain ⟨formatted, -, same⟩ := Option.map_eq_some_iff.mp ran
      cases same
      rw [get?_del arguments, get?_setItem event]
    · cases ran
      rw [get?_del arguments]

theorem renderStackInfo_get? {call : LogCall} {d : EventDict} {key : String} (stack : "stack" ≠ key)
    (info : "stack_info" ≠ key) : get? key (renderStackInfo call d) = get? key d := by
  unfold renderStackInfo
  split
  · split
    · rw [get?_setItem stack, get?_del info]
    · rw [get?_del info]
  · rfl

variable {runtime : Runtime} {lib : Structlog} {args args' : LoggingArgs} {call call' : LogCall}

theorem labelled_get? {key : String} (level : "level" ≠ key) (logger : "logger" ≠ key)
    (structlog : "_from_structlog" ≠ key) (record : "_record" ≠ key) :
    get? key (labelled call) = bound key call := by
  unfold labelled started addMeta bound
  rw [get?_setItem level, get?_setItem logger, get?_setdefaults]
  split
  · rfl
  · rw [get?_setItem structlog, get?_setItem record]

theorem prepared_excInfo (documented : lib.Documented) {d : EventDict}
    (ran : prepared lib args call = some d) : get? "exc_info" d = excInfo args call := by
  obtain ⟨format, positional⟩ := documented.positionalArgumentsFormatter
  obtain ⟨formatted, labelled, rfl⟩ := Option.map_eq_some_iff.mp ran
  rw [positional] at labelled
  rw [get?_setdefaults, renderStackInfo_get? (by decide) (by decide), get?_setItem (by decide),
    formatArguments_get? (by decide) (by decide) labelled]
  rw [labelled_get? (by decide) (by decide) (by decide) (by decide)]
  rfl

def masked (runtime : Runtime) (args : LoggingArgs) (d : EventDict) : EventDict :=
  del "_from_structlog" (del "_record" (redact runtime.lower (sensitiveKeyFragments runtime args) d))

theorem prepared_plain (documented : lib.Documented) (arguments : bound "positional_args" call = none) :
    ∃ d, prepared lib args call = some d := by
  obtain ⟨format, positional⟩ := documented.positionalArgumentsFormatter
  rw [← labelled_get? (by decide) (by decide) (by decide) (by decide)] at arguments
  unfold prepared
  rw [positional]
  unfold formatArguments
  rw [arguments]
  exact ⟨_, rfl⟩

theorem shows_iff : Shows runtime args call ↔ ∃ held, (excInfo args call).map (redactUnder runtime.lower
    (sensitiveKeyFragments runtime args) (.str "exc_info")) = some held ∧ held.truthy = true := by
  constructor
  · rintro ⟨held, info, truthy⟩
    exact ⟨_, congrArg (Option.map _) info, (redactUnder_truthy _ held).mpr truthy⟩
  · rintro ⟨held, info, truthy⟩
    obtain ⟨held', info', rfl⟩ := Option.map_eq_some_iff.mp info
    exact ⟨held', info', (redactUnder_truthy _ held').mp truthy⟩

theorem masked_shows (documented : lib.Documented) {d : EventDict} (ran : prepared lib args call = some d) :
    ShowsTraceback (masked runtime args d) ↔ Shows runtime args call := by
  unfold ShowsTraceback masked
  rw [shows_iff, get?_del (by decide), get?_del (by decide), redact_eq, redactEntries_get?,
    prepared_excInfo documented ran]

/-- What the renderer gets is clean just if the traceback in it is. -/
theorem handed_clean (documented : lib.Documented) (json : args.logFormat = .json) {out : EventDict}
    (handed : handedToRenderer runtime lib args call = some out) :
    Clean runtime.lower (sensitiveKeyFragments runtime args) (.dict out) ↔
      TracebackHidden runtime args call := by
  rw [handed_eq documented json] at handed
  obtain ⟨d, ran, handed⟩ := Option.bind_eq_some_iff.mp handed
  unfold finished at handed
  split at handed
  · cases handed
  · cases handed
    have redacted : Clean runtime.lower (sensitiveKeyFragments runtime args) _ := redact_clean d
    have clean := clean_del "_from_structlog" (clean_del "_record" redacted)
    rw [renderTraceback_clean clean]
    exact imp_congr_left (masked_shows documented ran)

end

/-! ### Two calls -/

section
variable {lower : String → String} {fragments : List String} {d d' : EventDict}

theorem Alike.get? (alike : Alike lower fragments d d') (key : String) :
    (EventDict.get? key d).map (redactUnder lower fragments (.str key)) =
      (EventDict.get? key d').map (redactUnder lower fragments (.str key)) := by
  rw [← redactEntries_get?, ← redactEntries_get?, alike]

theorem Alike.setItem (key : String) (value : Value) (alike : Alike lower fragments d d') :
    Alike lower fragments (EventDict.setItem key value d) (EventDict.setItem key value d') := by
  unfold Alike at *
  rw [redactEntries_setItem, redactEntries_setItem, alike]

theorem Alike.del (key : String) (alike : Alike lower fragments d d') :
    Alike lower fragments (EventDict.del key d) (EventDict.del key d') := by
  unfold Alike at *
  rw [redactEntries_del, redactEntries_del, alike]

theorem Alike.setdefaults {fields fields' : EventDict} (filled : Alike lower fragments fields fields')
    (alike : Alike lower fragments d d') :
    Alike lower fragments (EventDict.setdefaults fields d) (EventDict.setdefaults fields' d') := by
  unfold Alike at *
  rw [redactEntries_setdefaults, redactEntries_setdefaults, filled, alike]

theorem rel_map {r : EventDict → EventDict → Prop} {first second : Option EventDict}
    {f g : EventDict → EventDict} (related : Option.Rel r first second)
    (each : ∀ d d', first = some d → second = some d' → r d d' → r (f d) (g d')) :
    Option.Rel r (first.map f) (second.map g) := by
  cases related with
  | none => exact .none
  | some held => exact .some (each _ _ rfl rfl held)

theorem formatArguments_alike {format : Value → Option Value → Option Value}
    (alike : Alike lower fragments d d')
    (arguments : get? "positional_args" d = get? "positional_args" d')
    (text : get? "positional_args" d ≠ none → get? "event" d = get? "event" d') :
    Option.Rel (Alike lower fragments) (formatArguments format d) (formatArguments format d') := by
  unfold formatArguments
  rw [← arguments]
  split
  · exact .some alike
  · exact .some alike
  · rename_i held
    rw [← text (by rw [held]; exact nofun)]
    split
    · generalize format _ _ = formatted
      cases formatted with
      | none => exact .none
      | some formatted => exact .some ((alike.setItem "event" _).del "positional_args")
    · exact .some (alike.del "positional_args")

theorem renderStackInfo_alike {call : LogCall} (alike : Alike lower fragments d d')
    (asked : (get? "stack_info" d).map Value.truthy = (get? "stack_info" d').map Value.truthy) :
    Alike lower fragments (renderStackInfo call d) (renderStackInfo call d') := by
  unfold renderStackInfo
  cases info : get? "stack_info" d <;> cases info' : get? "stack_info" d' <;> rw [info, info'] at asked
  · exact alike
  · cases asked
  · cases asked
  · rename_i held held'
    have same : held.truthy = held'.truthy := Option.some.inj asked
    simp only [same]
    split
    · exact (alike.del "stack_info").setItem "stack" _
    · exact alike.del "stack_info"

theorem renderTraceback_same {call call' : LogCall}
    (attached : call.traceback.isSome = call'.traceback.isSome) :
    renderTraceback call d = renderTraceback call' d ↔ (ShowsTraceback d →
      call.traceback.map (List.map Stack.toDict) = call'.traceback.map (List.map Stack.toDict)) := by
  unfold renderTraceback
  cases shown : (get? "exc_info" d).filter Value.truthy with
  | none => exact ⟨fun _ shows => (not_shown shown shows).elim, fun _ => rfl⟩
  | some held =>
    have shows : ShowsTraceback d := ⟨held, Option.filter_eq_some_iff.mp shown⟩
    cases first : call.traceback <;> cases second : call'.traceback <;> rw [first, second] at attached
    · exact ⟨fun _ _ => rfl, fun _ => rfl⟩
    · cases attached
    · cases attached
    · rename_i traces traces'
      constructor
      · intro same _
        have put := congrArg (get? "exception") same
        rw [get?_setItem_self, get?_setItem_self] at put
        exact congrArg some (Value.list.inj (Option.some.inj put))
      · intro same
        have equal : traces.map Stack.toDict = traces'.map Stack.toDict := Option.some.inj (same shows)
        simp only [equal]

end

section
variable {runtime : Runtime} {lib : Structlog} {args args' : LoggingArgs} {call call' : LogCall}

theorem labelled_alike (same : SameButSecrets runtime args args' call call') :
    Alike runtime.lower (sensitiveKeyFragments runtime args) (labelled call) (labelled call') := by
  have level : call'.level = call.level := (congrArg LogCall.level same.called :)
  have loggerName : call'.loggerName = call.loggerName := (congrArg LogCall.loggerName same.called :)
  have source : call'.fromStructlog = call.fromStructlog := (congrArg LogCall.fromStructlog same.called :)
  unfold labelled started addMeta
  rw [level, loggerName, source]
  refine .setItem _ _ (.setItem _ _ (.setdefaults same.contextvars ?_))
  split
  · exact same.event
  · exact (same.event.setItem _ _).setItem _ _

theorem SameButSecrets.fragments (same : SameButSecrets runtime args args' call call') :
    sensitiveKeyFragments runtime args' = sensitiveKeyFragments runtime args := by
  rw [same.configured]
  rfl

theorem prepared_alike (documented : lib.Documented) (same : SameButSecrets runtime args args' call call')
    (directives : SameDirectives call call') :
    Option.Rel (Alike runtime.lower (sensitiveKeyFragments runtime args)) (prepared lib args call)
      (prepared lib args' call') := by
  obtain ⟨format, positional⟩ := documented.positionalArgumentsFormatter
  have arguments (call : LogCall) : get? "positional_args" (labelled call) = bound "positional_args" call :=
    labelled_get? (by decide) (by decide) (by decide) (by decide)
  have text (call : LogCall) : get? "event" (labelled call) = bound "event" call :=
    labelled_get? (by decide) (by decide) (by decide) (by decide)
  have info (call : LogCall) : get? "stack_info" (labelled call) = bound "stack_info" call :=
    labelled_get? (by decide) (by decide) (by decide) (by decide)
  have timestamp : call'.timestamp = call.timestamp := (congrArg LogCall.timestamp same.called :)
  have stack : call'.stack = call.stack := (congrArg LogCall.stack same.called :)
  have formatted : Option.Rel (Alike runtime.lower (sensitiveKeyFragments runtime args))
      (formatArguments format (labelled call)) (formatArguments format (labelled call')) := by
    refine formatArguments_alike (labelled_alike same) ?_ ?_
    · rw [arguments, arguments, directives.arguments]
    · rw [arguments, text, text]
      exact directives.text
  have asked (call : LogCall) (d : EventDict) (ran : formatArguments format (labelled call) = some d) :
      get? "stack_info" (setItem "timestamp" (.str call.timestamp) d) = bound "stack_info" call := by
    rw [get?_setItem (by decide), formatArguments_get? (by decide) (by decide) ran, info]
  have render : renderStackInfo call' = renderStackInfo call := by
    funext d
    unfold renderStackInfo
    rw [stack]
  unfold prepared
  rw [positional, render, timestamp]
  refine rel_map formatted fun d d' ran ran' alike => .setdefaults same.fields ?_
  refine renderStackInfo_alike (alike.setItem "timestamp" (.str call.timestamp)) ?_
  rw [asked call d ran, ← timestamp, asked call' d' ran', directives.stackInfo]

theorem bound_alike (same : SameButSecrets runtime args args' call call') (key : String) :
    (bound key call).map (redactUnder runtime.lower (sensitiveKeyFragments runtime args) (.str key)) =
      (bound key call').map
        (redactUnder runtime.lower (sensitiveKeyFragments runtime args) (.str key)) := by
  unfold bound
  rw [Option.map_or, Option.map_or, same.event.get?, same.contextvars.get?]

theorem shows_alike (same : SameButSecrets runtime args args' call call') :
    Shows runtime args call ↔ Shows runtime args' call' := by
  have info := bound_alike same "exc_info"
  rw [shows_iff, shows_iff, same.fragments]
  unfold excInfo
  rw [Option.map_or, Option.map_or, info, same.fields.get?]

theorem hidden_agree (same : SameButSecrets runtime args args' call call')
    (hidden : TracebackHidden runtime args call) (hidden' : TracebackHidden runtime args' call') :
    TracebacksAgree runtime args call call' := by
  intro shows
  have tracebacks := same.tracebacks
  have shown := hidden shows
  have shown' := hidden' ((shows_alike same).mp shows)
  cases first : call.traceback <;> cases second : call'.traceback <;> rw [first, second] at tracebacks
  · cases tracebacks
  · cases tracebacks
  · rename_i traces traces'
    have clean := traces_clean.mpr (shown traces first).traces
    have clean' := traces_clean.mpr (shown' traces' second).traces
    rw [same.fragments] at clean'
    have redacted := congrArg Value.list (Option.some.inj tracebacks)
    rw [← redactNested, ← redactNested, redactNested_fixed _ clean, redactNested_fixed _ clean'] at redacted
    exact congrArg some (Value.list.inj redacted)

/-- Of what is under sensitive names, the renderer gets the values in the tracebacks only. -/
theorem handed_same (documented : lib.Documented) (json : args.logFormat = .json)
    (same : SameButSecrets runtime args args' call call') (directives : SameDirectives call call') :
    handedToRenderer runtime lib args call = handedToRenderer runtime lib args' call' ↔
      (handedToRenderer runtime lib args call = none ∨ TracebacksAgree runtime args call call') := by
  have json' : args'.logFormat = .json := (congrArg LoggingArgs.logFormat same.configured).trans json
  have source : call'.fromStructlog = call.fromStructlog := (congrArg LogCall.fromStructlog same.called :)
  have enabled : call'.enabled = call.enabled := (congrArg LogCall.enabled same.called :)
  have attached : call.traceback.isSome = call'.traceback.isSome := by
    have tracebacks := congrArg Option.isSome same.tracebacks
    rwa [Option.isSome_map, Option.isSome_map] at tracebacks
  rw [handed_eq documented json, handed_eq documented json', same.fragments]
  have alike := prepared_alike documented same directives
  cases first : prepared lib args call <;> cases second : prepared lib args' call' <;>
    rw [first, second] at alike
  · simp
  · cases alike
  · cases alike
  · rename_i d d'
    cases alike with
    | some alike =>
      have redacted : redact runtime.lower (sensitiveKeyFragments runtime args) d =
          redact runtime.lower (sensitiveKeyFragments runtime args) d' := by
        rw [redact_eq, redact_eq]
        exact alike
      have put : renderTraceback call (masked runtime args d) =
          renderTraceback call' (masked runtime args d) ↔ TracebacksAgree runtime args call call' :=
        (renderTraceback_same attached).trans (imp_congr_left (masked_shows documented first))
      simp only [Option.bind_some, finished, source, enabled, ← redacted]
      split
      · simp
      · rw [Option.some_inj]
        exact put.trans (or_iff_right (Option.some_ne_none _)).symm

end

/-! ### A token in a frame -/

def asciiRuntime : Runtime where
  lower text := String.ofList (text.toList.map Char.toLower)
  upper text := String.ofList (text.toList.map Char.toUpper)
  repr text := "'" ++ text ++ "'"

def plainStructlog : Structlog where
  mergeContextvars call d := some (setdefaults call.contextvars d)
  addLoggerName call d := some (setItem "logger" (.str call.loggerName) d)
  addLogLevel call d := some (setItem "level" (.str call.level) d)
  positionalArgumentsFormatter := formatArguments fun _ event => event
  timeStamper call d := some (setItem "timestamp" (.str call.timestamp) d)
  stackInfoRenderer call d := some (renderStackInfo call d)
  filterByLevel call d := if call.enabled then some d else none
  withMeta := addMeta
  removeProcessorsMeta d := some (del "_from_structlog" (del "_record" d))
  dictTracebacks call d := some (renderTraceback call d)

theorem plainStructlog_documented : plainStructlog.Documented where
  mergeContextvars _ _ := rfl
  addLoggerName _ _ := rfl
  addLogLevel _ _ := rfl
  positionalArgumentsFormatter := ⟨fun _ event => event, rfl⟩
  timeStamper _ _ := rfl
  stackInfoRenderer _ _ := rfl
  filterByLevel _ _ := rfl
  withMeta _ _ := rfl
  removeProcessorsMeta _ := rfl
  dictTracebacks _ _ := rfl

/-- `logger.exception` under the verification of a token. -/
def refused (held shown : String) : LogCall where
  event := [(.str "event", .str "unhandled_exception"), (.str "access_token", .str held),
    (.str "exc_info", .bool true)]
  loggerName := "pet.api.middleware.http_logging"
  level := "error"
  timestamp := "2026-01-01T00:00:00Z"
  traceback := some [{
    fields := [(.str "exc_type", .str "DecodeError")]
    frames := [{ fields := [(.str "name", .str "verify")], locals := [("token", shown)] }] }]

def installed : Logging := { level := "INFO", render := handedToRenderer asciiRuntime plainStructlog {} }

theorem installed_configured : configureLogging asciiRuntime plainStructlog {} = .ok installed := by
  have upper : asciiRuntime.upper "INFO" = "INFO" := by decide +kernel
  have level : normalizeLogLevel asciiRuntime "INFO" = .ok "INFO" := by
    unfold normalizeLogLevel
    rw [upper]
    rfl
  unfold configureLogging
  rw [level]
  rfl

section
variable (held held' shown shown' : String)

theorem refused_directives : SameDirectives (refused held shown) (refused held' shown') :=
  ⟨rfl, fun _ => rfl, rfl⟩

theorem refused_same :
    SameButSecrets asciiRuntime {} {} (refused held shown) (refused held' shown') := by
  have accessToken : isSensitive asciiRuntime.lower (sensitiveKeyFragments asciiRuntime {})
      (.str "access_token") = true := by decide +kernel
  have token : isSensitive asciiRuntime.lower (sensitiveKeyFragments asciiRuntime {})
      (.str "token") = true := by decide +kernel
  refine ⟨rfl, rfl, rfl, ?_, rfl, ?_⟩
  · simp only [Alike, refused, redactEntries, accessToken, if_true]
  · simp only [refused, Option.map_some, List.map_cons, List.map_nil, Stack.toDict, Frame.toDict,
      List.cons_append, List.nil_append, redactItems, redactNested, redactEntries, token, if_true]

theorem refused_shows : Shows asciiRuntime {} (refused held shown) := ⟨.bool true, rfl, Or.inl rfl⟩

theorem refused_drawn : installed.render (refused held shown) ≠ none := by
  have arguments : bound "positional_args" (refused held shown) = none := by
    simp [bound, refused, EventDict.get?]
  obtain ⟨d, ran⟩ := prepared_plain plainStructlog_documented arguments
  have render : installed.render (refused held shown) =
      handedToRenderer asciiRuntime plainStructlog {} (refused held shown) := rfl
  have json : ({} : LoggingArgs).logFormat = .json := rfl
  have passes : ((refused held shown).fromStructlog && !(refused held shown).enabled) = false := rfl
  rw [render, handed_eq plainStructlog_documented json, ran, Option.bind_some]
  unfold finished
  rw [passes, if_neg Bool.false_ne_true]
  exact Option.some_ne_none _

theorem clean_entry {lower : String → String} {fragments : List String} {key text : String}
    (plain : isSensitive lower fragments (.str key) = false) :
    Clean lower fragments (.dict [(.str key, .str text)]) := by
  refine clean_dict.mpr fun k v member => ?_
  cases List.mem_singleton.mp member
  refine ⟨fun sensitive => ?_, clean_str text⟩
  rw [plain] at sensitive
  cases sensitive

theorem refused_hidden : TracebackHidden asciiRuntime {} (refused held "***") := by
  have exception : isSensitive asciiRuntime.lower (sensitiveKeyFragments asciiRuntime {})
      (.str "exception") = false := by decide +kernel
  have frames : isSensitive asciiRuntime.lower (sensitiveKeyFragments asciiRuntime {})
      (.str "frames") = false := by decide +kernel
  have locals : isSensitive asciiRuntime.lower (sensitiveKeyFragments asciiRuntime {})
      (.str "locals") = false := by decide +kernel
  have excType : isSensitive asciiRuntime.lower (sensitiveKeyFragments asciiRuntime {})
      (.str "exc_type") = false := by decide +kernel
  have name : isSensitive asciiRuntime.lower (sensitiveKeyFragments asciiRuntime {})
      (.str "name") = false := by decide +kernel
  intro _ traces attached
  cases attached
  refine ⟨exception, fun stack member => ?_⟩
  cases List.mem_singleton.mp member
  refine ⟨clean_entry excType, frames, fun frame inside => ?_⟩
  cases List.mem_singleton.mp inside
  refine ⟨clean_entry name, locals, fun name repr among _ => ?_⟩
  cases List.mem_singleton.mp among
  rfl

end

end PetBackend.Config
