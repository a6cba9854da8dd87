import PetBackend.Config.LogSecrets

/-!
# Context variables in the log

`structlog.contextvars`: what a task has bound is merged into its log calls. A field that no processor of the
chain has a use for is handed to the renderer as it was bound, in either format.
-/

namespace PetBackend.Config
open EventDict

def bindContextvars (fields : List (String × Value)) (context : EventDict) : EventDict :=
  fields.foldl (fun context field => setItem field.1 field.2 context) context

def unbindContextvars (keys : List String) (context : EventDict) : EventDict :=
  keys.foldl (fun context key => del key context) context

/-- What the processors read or write by name. -/
def processedKeys : List String :=
  ["logger", "level", "event", "positional_args", "timestamp", "stack", "stack_info", "_record", "_from_structlog",
    "exc_info", "exception"]

section
variable {key : String} {context : EventDict}

theorem get?_unbindContextvars {keys : List String} (kept : key ∉ keys) :
    get? key (unbindContextvars keys context) = get? key context := by
  induction keys generalizing context with
  | nil => rfl
  | cons first rest ih =>
    obtain ⟨different, later⟩ := List.ne_and_not_mem_of_not_mem_cons kept
    exact (ih later).trans (get?_del (Ne.symm different) context)

end

/-! ### Through the chain -/

section
variable {runtime : Runtime} {lib : Structlog} {args : LoggingArgs} {call : LogCall} {key : String} {d out : EventDict}

theorem formatter_get? (documented : lib.Documented) (free : key ∉ processedKeys)
    (ran : runChain (formatterProcessors lib args call) d = some out) : get? key out = get? key d := by
  have other (name : String) (processed : name ∈ processedKeys) : name ≠ key := fun same => free (same ▸ processed)
  have unmarked : get? key (del "_from_structlog" (del "_record" d)) = get? key d := by
    rw [get?_del (other _ (by decide)), get?_del (other _ (by decide))]
  unfold formatterProcessors at ran
  cases format : args.logFormat with
  | json =>
    simp only [format, runChain, List.foldlM_cons, List.foldlM_nil, documented.removeProcessorsMeta,
      documented.dictTracebacks, Option.bind_eq_bind, Option.bind_some, Option.pure_def, Option.some.injEq] at ran
    rw [← ran, ← unmarked]
    unfold renderTraceback
    split
    · rw [get?_setItem (other _ (by decide)), get?_del (other _ (by decide))]
    · rw [get?_del (other _ (by decide))]
  | console =>
    simp only [format, runChain, List.foldlM_cons, List.foldlM_nil, documented.removeProcessorsMeta,
      Option.bind_eq_bind, Option.bind_some, Option.pure_def, Option.some.injEq] at ran
    rw [← ran, unmarked]

theorem addMeta_get? (free : key ∉ processedKeys) : get? key (addMeta call d) = get? key d := by
  have other (name : String) (processed : name ∈ processedKeys) : name ≠ key := fun same => free (same ▸ processed)
  unfold addMeta
  rw [get?_setItem (other _ (by decide)), get?_setItem (other _ (by decide))]

/-- Whatever is handed over has passed redaction, and what follows leaves the other keys alone. -/
theorem handed_redacted (documented : lib.Documented) (handed : handedToRenderer runtime lib args call = some out) :
    ∃ d, prepared lib args call = some d ∧ ∀ key ∉ processedKeys,
      get? key out = get? key (redact runtime.lower (sensitiveKeyFragments runtime args) d) := by
  have shared : runChain (sharedProcessors runtime lib args call) (started call) = _ := runChain_shared documented
  unfold started at shared
  cases source : call.fromStructlog with
  | true =>
    simp only [source, if_true] at shared
    simp only [handedToRenderer, source, if_true, runChain_append, shared, Option.bind_eq_bind] at handed
    cases built : prepared lib args call with
    | none => simp [built] at handed
    | some d =>
      refine ⟨d, rfl, fun key free => ?_⟩
      simp only [built, Option.map_some, Option.bind_some] at handed
      obtain ⟨marked, filtered, formatted⟩ := Option.bind_eq_some_iff.mp handed
      obtain ⟨passed, level, same⟩ := Option.bind_eq_some_iff.mp filtered
      cases same
      rw [formatter_get? documented free formatted, documented.withMeta, addMeta_get? free]
      simp only [documented.filterByLevel] at level
      split at level
      · cases level
        rfl
      · cases level
  | false =>
    simp only [source, Bool.false_eq_true, if_false] at shared
    simp only [handedToRenderer, source, Bool.false_eq_true, if_false, documented.withMeta, shared,
      Option.bind_eq_bind] at handed
    cases built : prepared lib args call with
    | none => simp [built] at handed
    | some d =>
      refine ⟨d, rfl, fun key free => ?_⟩
      simp only [built, Option.map_some, Option.bind_some] at handed
      exact formatter_get? documented free handed

theorem prepared_get? (documented : lib.Documented) (free : key ∉ processedKeys)
    (ran : prepared lib args call = some d) : get? key d = (bound key call).or (get? key (staticFields args)) := by
  have other (name : String) (processed : name ∈ processedKeys) : name ≠ key := fun same => free (same ▸ processed)
  obtain ⟨format, positional⟩ := documented.positionalArgumentsFormatter
  obtain ⟨formatted, labelled, rfl⟩ := Option.map_eq_some_iff.mp ran
  rw [positional] at labelled
  rw [get?_setdefaults, renderStackInfo_get? (other _ (by decide)) (other _ (by decide)), get?_setItem (other _ (by decide)),
    formatArguments_get? (other _ (by decide)) (other _ (by decide)) labelled,
    labelled_get? (other _ (by decide)) (other _ (by decide)) (other _ (by decide)) (other _ (by decide))]

/-- What is handed over under a key is what the call, its context or the static fields have under it. -/
theorem handed_get? (documented : lib.Documented) (free : key ∉ processedKeys)
    (handed : handedToRenderer runtime lib args call = some out) :
    get? key out = ((bound key call).or (get? key (staticFields args))).map
      (redactUnder runtime.lower (sensitiveKeyFragments runtime args) (.str key)) := by
  obtain ⟨d, built, same⟩ := handed_redacted documented handed
  rw [same key free, redact_eq, redactEntries_get?, prepared_get? documented free built]

end

end PetBackend.Config
