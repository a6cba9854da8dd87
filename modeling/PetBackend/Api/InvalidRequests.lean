import PetBackend.Api.ExceptionHandlers
import PetBackend.Library.Outcome

/-!
# Reporting an invalid request

The handler echoes the offending value into an encoder that is stricter than the decoder it came
through.
-/

namespace PetBackend.Api
open Auth

/-- An error of pydantic. Its texts are well formed, its input is whatever was sent. -/
structure ErrorDetail where
  type : String
  loc : List String
  msg : String
  input : PyJson
  /-- The exception of a validator. -/
  error : Option ValidationError := none

def ErrorDetail.toDict (detail : ErrorDetail) : RawError :=
  .dict ([(ofString "type", .str (ofString detail.type)),
    (ofString "loc", .list (detail.loc.map fun part => .str (ofString part))),
    (ofString "msg", .str (ofString detail.msg)),
    (ofString "input", .ofJson detail.input)] ++
    (detail.error.map fun error => (ofString "ctx", .dict [(ofString "error", .object error)])).toList)

/-- The value of the field, and the whole body where there is none. -/
def offending (field : String) : PyJson → PyJson
  | .dict entries => (entries.lookup (ofString field)).getD (.dict entries)
  | body => body

structure Framework.Documented (framework : Framework) : Prop where
  reports : ∀ field validator body errors, framework.validateBody field validator body = .error errors →
    ∃ details : List ErrorDetail, errors = details.map ErrorDetail.toDict ∧ details ≠ [] ∧
      ∀ detail ∈ details, detail.input = offending field body
  encodes : ∀ custom value,
    framework.jsonableEncoder custom value = value.replace fun object => .str (custom object)
  renders : ∀ value, (∃ body, framework.render value = .ok body) ↔ Renderable value

/-- A 422 problem response that carries the errors as the encoder has them. -/
def Reported (framework : Framework) (request : Request) (errors : List RawError) : Prop :=
  ∃ response, validationErrorHandler framework request errors = .ok response ∧
    response.statusCode = 422 ∧ response.mediaType = problemMediaType ∧
    (ofString "errors", jsonableValidationErrors framework errors) ∈ response.content

/-! ### Replacement -/

section
variable {E F G : Type}

theorem replaceItems_eq (f : E → PyValue F) (items : List (PyValue E)) :
    replaceItems f items = items.map (PyValue.replace f) := by
  induction items with
  | nil => rfl
  | cons item rest ih =>
    rw [replaceItems, ih]
    rfl

theorem replaceEntries_eq (f : E → PyValue F) (entries : List (PyText × PyValue E)) :
    replaceEntries f entries = entries.map fun entry => (entry.1, entry.2.replace f) := by
  induction entries with
  | nil => rfl
  | cons entry rest ih =>
    obtain ⟨key, value⟩ := entry
    rw [replaceEntries, ih]
    rfl

theorem replace_ofJson (f : E → PyJson) (value : PyJson) : (PyValue.ofJson value).replace f = value := by
  unfold PyValue.ofJson
  induction value using PyValue.induct with
  | null | bool _ | int _ | float _ | str _ => rfl
  | list items ih =>
    rw [PyValue.replace, PyValue.replace, replaceItems_eq, replaceItems_eq, List.map_map]
    congr 1
    exact (List.map_congr_left fun item inside => ih item inside).trans (List.map_id items)
  | dict entries ih =>
    rw [PyValue.replace, PyValue.replace, replaceEntries_eq, replaceEntries_eq, List.map_map]
    congr 1
    refine (List.map_congr_left (g := id) fun entry inside => ?_).trans (List.map_id entries)
    exact Prod.ext rfl (ih entry.1 entry.2 inside)
  | object e => exact nomatch e

end

/-! ### What can be rendered -/

theorem renderable_list {items : List PyJson} : Renderable (.list items) ↔ ∀ v ∈ items, Renderable v := by
  refine ⟨fun renderable => ?_, .list⟩
  cases renderable with
  | list each => exact each

theorem renderable_dict {entries : List (PyText × PyJson)} :
    Renderable (.dict entries) ↔ ∀ entry ∈ entries, Encodable entry.1 ∧ Renderable entry.2 := by
  refine ⟨fun renderable entry member => ?_, fun each => ?_⟩
  · cases renderable with
    | dict keys values => exact ⟨keys _ _ member, values _ _ member⟩
  · exact .dict (fun k v member => (each (k, v) member).1) fun k v member => (each (k, v) member).2

theorem text_renderable (value : String) : Renderable (text value) := .str (ofString_encodable value)

theorem member_renderable (name : String) (value : PyJson) :
    (∀ entry ∈ [(ofString name, value)], Encodable entry.1 ∧ Renderable entry.2) ↔ Renderable value := by
  rw [List.forall_mem_singleton]
  exact and_iff_right (ofString_encodable name)

theorem optional_renderable {α : Type} (name : String) (value : α → PyJson) (held : Option α) :
    (∀ entry ∈ (held.map fun a => (ofString name, value a)).toList, Encodable entry.1 ∧ Renderable entry.2) ↔
      ∀ a, held = some a → Renderable (value a) := by
  cases held with
  | none => simp
  | some a =>
    refine (member_renderable name (value a)).trans ⟨fun renderable b same => ?_, fun each => each a rfl⟩
    cases same
    exact renderable

theorem payload_renderable {p : Problem} {errors : PyJson} (carries : p.errors = some errors)
    (detail : ∀ detail, p.detail = some detail → Encodable detail) :
    Renderable (.dict p.payload) ↔ Renderable errors := by
  rw [renderable_dict]
  unfold Problem.payload
  rw [carries]
  simp only [List.forall_mem_append, List.forall_mem_cons (a := (ofString "type", text p.type)),
    optional_renderable]
  constructor
  · rintro ⟨⟨_, reported⟩, _⟩
    exact reported errors rfl
  · intro renderable
    refine ⟨⟨⟨⟨⟨?_, fun detail' held => .str (detail detail' held)⟩, fun _ _ => text_renderable _⟩,
      fun _ _ => text_renderable _⟩, ?_⟩, fun _ _ => text_renderable _⟩
    · refine ⟨⟨ofString_encodable _, text_renderable _⟩, fun entry member => ?_⟩
      rcases List.mem_cons.mp member with rfl | last
      · exact ⟨ofString_encodable _, text_renderable _⟩
      · cases List.mem_singleton.mp last
        exact ⟨ofString_encodable _, .int _⟩
    · intro held same
      cases same
      exact renderable

/-! ### The errors as the encoder has them -/

def ErrorDetail.encoded (detail : ErrorDetail) : PyJson :=
  .dict ([(ofString "type", text detail.type), (ofString "loc", .list (detail.loc.map text)),
    (ofString "msg", text detail.msg), (ofString "input", detail.input)] ++
    (detail.error.map fun error => (ofString "ctx", .dict [(ofString "error", text error.message)])).toList)

theorem toDict_encoded (detail : ErrorDetail) :
    detail.toDict.replace (fun raised => .str (ofString raised.message)) = detail.encoded := by
  obtain ⟨type, loc, msg, input, error⟩ := detail
  have locs : replaceItems (fun raised : ValidationError => .str (ofString raised.message))
      (loc.map fun part => .str (ofString part)) = loc.map text := by
    rw [replaceItems_eq, List.map_map]
    rfl
  unfold ErrorDetail.toDict ErrorDetail.encoded
  rw [PyValue.replace, replaceEntries_eq, List.map_append]
  simp only [List.map_cons, List.map_nil, PyValue.replace, replace_ofJson, locs]
  cases error <;> rfl

theorem encoded_renderable (detail : ErrorDetail) : Renderable detail.encoded ↔ Renderable detail.input := by
  have locs : Renderable (.list (detail.loc.map text)) := by
    refine renderable_list.mpr fun part member => ?_
    obtain ⟨name, -, rfl⟩ := List.mem_map.mp member
    exact text_renderable name
  unfold ErrorDetail.encoded
  rw [renderable_dict, List.forall_mem_append, optional_renderable]
  constructor
  · rintro ⟨held, -⟩
    exact (held (ofString "input", detail.input) (by simp)).2
  · intro renderable
    refine ⟨?_, fun error _ => ?_⟩
    · simp only [List.forall_mem_cons]
      exact ⟨⟨ofString_encodable _, text_renderable _⟩, ⟨ofString_encodable _, locs⟩,
        ⟨ofString_encodable _, text_renderable _⟩, ⟨ofString_encodable _, renderable⟩, nofun⟩
    · exact renderable_dict.mpr ((member_renderable "error" _).mpr (text_renderable _))

/-! ### The handler -/

section
variable {framework : Framework}

theorem jsonable_encoded (documented : framework.Documented) (details : List ErrorDetail) :
    jsonableValidationErrors framework (details.map ErrorDetail.toDict) =
      .list (details.map ErrorDetail.encoded) := by
  unfold jsonableValidationErrors
  rw [documented.encodes, PyValue.replace, replaceItems_eq, List.map_map]
  exact congrArg PyValue.list (List.map_congr_left fun detail _ => toDict_encoded detail)

/-- The detail is the handler's own text or the message of a validator. -/
theorem validationDetail_encoded (framework : Framework) (details : List ErrorDetail) : ∃ message,
    validationDetail framework (.list (details.map ErrorDetail.encoded)) = .ok (ofString message) := by
  rcases details with _ | ⟨detail, _ | ⟨other, rest⟩⟩
  · exact ⟨_, rfl⟩
  · obtain ⟨type, loc, msg, input, error⟩ := detail
    cases error with
    | none => exact ⟨"Request validation failed", rfl⟩
    | some error => exact ⟨error.message, rfl⟩
  · exact ⟨_, rfl⟩

theorem problem_ok (documented : framework.Documented) (p : Problem) :
    (∃ response, problem framework p = .ok response) ↔ Renderable (.dict p.payload) := by
  rw [← documented.renders]
  unfold problem
  cases framework.render (.dict p.payload) with
  | error raised => exact iff_of_false nofun nofun
  | ok body => exact iff_of_true ⟨_, rfl⟩ ⟨_, rfl⟩

theorem problem_response {p : Problem} {response : JSONResponse} (answered : problem framework p = .ok response) :
    response.statusCode = p.status ∧ response.mediaType = problemMediaType ∧ response.content = p.payload := by
  unfold problem at answered
  cases rendered : framework.render (.dict p.payload) with
  | error raised =>
    rw [rendered] at answered
    cases answered
  | ok body =>
    rw [rendered] at answered
    cases answered
    exact ⟨rfl, rfl, rfl⟩

/-- What the handler hands to `problem`. -/
def validationProblem (request : Request) (message : String) (errors : PyJson) : Problem where
  status := 422
  title := validationErrorTitle
  detail := some (ofString message)
  code := some AppErrorCode.validation.value
  errors := some errors
  instancePath := some request.path
  requestId := requestId request

theorem handler_problem (documented : framework.Documented) (request : Request) (details : List ErrorDetail) :
    ∃ message, validationErrorHandler framework request (details.map ErrorDetail.toDict) =
      problem framework (validationProblem request message (.list (details.map ErrorDetail.encoded))) := by
  obtain ⟨message, detail⟩ := validationDetail_encoded framework details
  refine ⟨message, ?_⟩
  simp only [validationErrorHandler, jsonable_encoded documented, detail]
  rfl

theorem errors_renderable {details : List ErrorDetail} {input : PyJson} (nonempty : details ≠ [])
    (inputs : ∀ detail ∈ details, detail.input = input) :
    Renderable (.list (details.map ErrorDetail.encoded)) ↔ Renderable input := by
  rw [renderable_list, List.forall_mem_map]
  constructor
  · intro all
    obtain ⟨detail, member⟩ := List.exists_mem_of_ne_nil details nonempty
    rw [← inputs detail member]
    exact (encoded_renderable detail).mp (all detail member)
  · intro renderable detail member
    rw [encoded_renderable, inputs detail member]
    exact renderable

/-- Reporting an invalid body succeeds exactly if the value that it echoes can be rendered. -/
theorem invalid_request_reported (documented : framework.Documented) {u : UnicodeData} {body : PyJson}
    {errors : List RawError} (failed : createOrgDtoIn framework u body = .error errors) (request : Request) :
    Reported framework request errors ↔ Renderable (offending "name" body) := by
  obtain ⟨details, rfl, nonempty, inputs⟩ := documented.reports _ _ _ _ failed
  obtain ⟨message, handled⟩ := handler_problem documented request details
  have payload : Renderable (.dict (validationProblem request message
      (.list (details.map ErrorDetail.encoded))).payload) ↔ Renderable (.list (details.map ErrorDetail.encoded)) :=
    payload_renderable rfl fun text same => by
      cases same
      exact ofString_encodable message
  rw [← errors_renderable nonempty inputs, ← payload, ← problem_ok documented]
  unfold Reported
  rw [handled, jsonable_encoded documented]
  constructor
  · rintro ⟨response, answered, -⟩
    exact ⟨response, answered⟩
  · rintro ⟨response, answered⟩
    obtain ⟨status, mediaType, content⟩ := problem_response answered
    refine ⟨response, answered, status, mediaType, ?_⟩
    rw [content]
    simp [Problem.payload, validationProblem]

end

/-! ### The libraries on this model -/

/-- Validation of the field's value: strict, then by the validator. -/
def valueErrors (field : String) (validator : String → Except ValidationError String) :
    PyJson → Except (List ErrorDetail) String
  | .str value =>
    match encodeUtf8 value with
    | .error _ => .error [⟨"string_unicode", ["body", field],
        "Input should be a valid string, unable to parse raw data as a unicode string", .str value, none⟩]
    | .ok decoded =>
      match validator decoded with
      | .error raised => .error [⟨"value_error", ["body", field], "Value error, " ++ raised.message,
          .str value, some raised⟩]
      | .ok accepted => .ok accepted
  | value => .error [⟨"string_type", ["body", field], "Input should be a valid string", value, none⟩]

def bodyErrors (field : String) (validator : String → Except ValidationError String) :
    PyJson → Except (List ErrorDetail) String
  | .null => .error [⟨"missing", ["body"], "Field required", .null, none⟩]
  | .dict entries =>
    match entries.lookup (ofString field) with
    | none => .error [⟨"missing", ["body", field], "Field required", .dict entries, none⟩]
    | some value => valueErrors field validator value
  | body => .error [⟨"model_attributes_type", ["body"],
      "Input should be a valid dictionary or object to extract fields from", body, none⟩]

def fastapi : Framework where
  validateBody field validator body := (bodyErrors field validator body).mapError (·.map ErrorDetail.toDict)
  jsonableEncoder custom value := value.replace fun object => .str (custom object)
  render value := dumps (fun x => toString x) value >>= encodeUtf8
  str _ := []

section
variable {field : String} {validator : String → Except ValidationError String} {body value : PyJson}
  {details : List ErrorDetail}

theorem valueErrors_input (failed : valueErrors field validator value = .error details) :
    ∃ detail, details = [detail] ∧ detail.input = value := by
  unfold valueErrors at failed
  split at failed
  · split at failed
    · cases failed
      exact ⟨_, rfl, rfl⟩
    · split at failed
      · cases failed
        exact ⟨_, rfl, rfl⟩
      · cases failed
  · cases failed
    exact ⟨_, rfl, rfl⟩

theorem bodyErrors_input (failed : bodyErrors field validator body = .error details) :
    ∃ detail, details = [detail] ∧ detail.input = offending field body := by
  unfold bodyErrors at failed
  split at failed
  · cases failed
    exact ⟨_, rfl, rfl⟩
  · rename_i entries
    cases held : entries.lookup (ofString field) with
    | none =>
      simp only [held] at failed
      cases failed
      exact ⟨_, rfl, by simp [offending, held]⟩
    | some value =>
      simp only [held] at failed
      obtain ⟨detail, same, input⟩ := valueErrors_input failed
      exact ⟨detail, same, by simp [offending, held, input]⟩
  · rename_i notNull notDict
    cases failed
    refine ⟨_, rfl, ?_⟩
    cases body with
    | dict entries => exact (notDict entries rfl).elim
    | _ => rfl

end

theorem fastapi_documented : fastapi.Documented where
  reports field validator body errors failed := by
    cases outcome : bodyErrors field validator body with
    | ok accepted =>
      have returned : fastapi.validateBody field validator body = .ok accepted := by
        show (bodyErrors field validator body).mapError _ = _
        rw [outcome, Outcome.mapError_ok]
      cases returned.symm.trans failed
    | error details =>
      have returned : fastapi.validateBody field validator body = .error (details.map ErrorDetail.toDict) := by
        show (bodyErrors field validator body).mapError _ = _
        rw [outcome, Outcome.mapError_error]
      cases returned.symm.trans failed
      obtain ⟨detail, rfl, input⟩ := bodyErrors_input outcome
      refine ⟨[detail], rfl, nofun, fun other member => ?_⟩
      rw [List.mem_singleton.mp member]
      exact input
  encodes custom value := rfl
  renders value := by
    rw [← dumps_rendered fun x => toString x]
    constructor
    · rintro ⟨body, rendered⟩
      obtain ⟨text, dumped, encoded⟩ := Outcome.bind_ok.mp rendered
      exact ⟨text, dumped, encodeUtf8_ok.mp ⟨body, encoded⟩⟩
    · rintro ⟨text, dumped, encodable⟩
      obtain ⟨body, encoded⟩ := encodeUtf8_ok.mpr encodable
      exact ⟨body, Outcome.bind_ok.mpr ⟨text, dumped, encoded⟩⟩

/-! ### Two names -/

def named (value : PyJson) : PyJson := .dict [(ofString "name", value)]

theorem named_fails (value : PyJson) (notText : ∀ text, value ≠ .str text) (u : UnicodeData) :
    ∃ errors, createOrgDtoIn fastapi u (named value) = .error errors := by
  cases value with
  | str text => exact (notText text rfl).elim
  | object e => exact nomatch e
  | _ => exact ⟨_, rfl⟩

def orgsRequest : Request := { path := "/orgs/", stateRequestId := some "0" }

theorem invalid_request_reported_sample : ∃ errors,
    createOrgDtoIn fastapi ⟨id, id⟩ (named (.int 123)) = .error errors ∧ Reported fastapi orgsRequest errors := by
  obtain ⟨errors, failed⟩ := named_fails (.int 123) nofun ⟨id, id⟩
  exact ⟨errors, failed, (invalid_request_reported fastapi_documented failed orgsRequest).mpr (.int 123)⟩

/-- A name that is `NaN` fails validation, and reporting that fails. -/
theorem nan_unreported : fastapi.Documented ∧ ∃ errors,
    createOrgDtoIn fastapi ⟨id, id⟩ (named (.float .nan)) = .error errors ∧
    ¬ Reported fastapi orgsRequest errors ∧ validationErrorHandler fastapi orgsRequest errors =
      .error (.valueError "Out of range float values are not JSON compliant") := by
  refine ⟨fastapi_documented, _, rfl, ?_, rfl⟩
  rintro ⟨response, answered, -⟩
  cases answered

end PetBackend.Api
