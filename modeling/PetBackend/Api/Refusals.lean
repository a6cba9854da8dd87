import PetBackend.Api.Responses
import PetBackend.Auth.Lookups

/-!
# Every refusal is told

Whatever a route raises ends in a problem response under the id of the request, and a credential that is
refused in a challenge that reads back.
-/

namespace PetBackend.Api
open Auth Persistence Outcome

/-! ### Header values -/

def Latin1 (value : PyText) : Prop := ∀ c ∈ value, c.val < 256

theorem latin1_append {first second : PyText} : Latin1 (first ++ second) ↔ Latin1 first ∧ Latin1 second :=
  List.forall_mem_append

theorem ofString_latin1 {text : String} (narrow : text.toList.all (fun c => c.toNat < 256) = true) :
    Latin1 (ofString text) := by
  intro c member
  obtain ⟨char, inside, rfl⟩ := List.mem_map.mp member
  exact of_decide_eq_true (List.all_eq_true.mp narrow char inside)

theorem latin1_intercalate {separator : PyText} {parts : List PyText} (between : Latin1 separator)
    (each : ∀ part ∈ parts, Latin1 part) : Latin1 (separator.intercalate parts) := by
  induction parts with
  | nil => exact List.forall_mem_nil _
  | cons first rest ih =>
    obtain ⟨here, later⟩ := List.forall_mem_cons.mp each
    cases rest with
    | nil =>
      rw [List.intercalate_singleton]
      exact here
    | cons next rest =>
      rw [List.intercalate_cons_cons]
      exact latin1_append.mpr ⟨latin1_append.mpr ⟨here, between⟩, ih later⟩

theorem latin1_replace {value new : PyText} {old : CodePoint} (latin : Latin1 value) (replacing : Latin1 new) :
    Latin1 (replace value old new) := by
  intro c member
  obtain ⟨d, inside, became⟩ := List.mem_flatMap.mp member
  split at became
  · exact replacing c became
  · rw [List.mem_singleton.mp became]
    exact latin d inside

theorem ofChar_ofNat {c : CodePoint} (latin : c.val < 256) : ofChar (Char.ofNat c.val) = c := by
  have valid : c.val.isValidChar := Or.inl (by omega)
  apply Fin.ext
  show (Char.ofNat c.val).toNat = c.val
  rw [Char.ofNat, dif_pos valid]
  rfl

theorem encodeLatin1_ok {value : PyText} (latin : Latin1 value) :
    ∃ encoded, encodeLatin1 value = .ok encoded ∧ ofString encoded = value := by
  refine ⟨String.ofList (value.map fun c => Char.ofNat c.val), ?_, ?_⟩
  · exact if_pos (List.all_eq_true.mpr fun c member => decide_eq_true (latin c member))
  · unfold ofString
    rw [String.toList_ofList, List.map_map]
    exact (List.map_congr_left fun c member => ofChar_ofNat (latin c member)).trans (List.map_id value)

theorem encodeLatin1_error {value : PyText} (wide : ¬ Latin1 value) :
    encodeLatin1 value = .error (.other "UnicodeEncodeError") := by
  refine if_neg fun all => wide fun c member => ?_
  exact of_decide_eq_true (List.all_eq_true.mp all c member)

theorem challenge_latin1 {error : AuthError} {issuerUrl : PyText} (realm : Latin1 (lastSegment issuerUrl))
    (code : Latin1 error.errorCode) (description : Latin1 error.description) :
    Latin1 (wwwAuthenticateHeader error issuerUrl) := by
  have param (name value : PyText) (named : Latin1 name) (held : Latin1 value) :
      Latin1 (name ++ value ++ ofString "\"") :=
    latin1_append.mpr ⟨latin1_append.mpr ⟨named, held⟩, ofString_latin1 (by decide)⟩
  have escaped : Latin1 (escapeQuoted error.description) :=
    latin1_replace (latin1_replace description (ofString_latin1 (by decide))) (ofString_latin1 (by decide))
  have realmPart := param (ofString "Bearer realm=\"") _ (ofString_latin1 (by decide)) realm
  have codePart := param (ofString "error=\"") _ (ofString_latin1 (by decide)) code
  have descriptionPart := param (ofString "error_description=\"") _ (ofString_latin1 (by decide)) escaped
  refine latin1_intercalate (ofString_latin1 (by decide)) ?_
  split <;> intro part member
  · rcases List.mem_cons.mp member with rfl | member
    · exact realmPart
    · rw [List.mem_singleton.mp member]
      exact codePart
  · rcases List.mem_cons.mp member with rfl | member
    · exact realmPart
    · rcases List.mem_cons.mp member with rfl | member
      · exact codePart
      · rw [List.mem_singleton.mp member]
        exact descriptionPart

/-! ### What a refused credential is told -/

/-- Nothing of the token is among them. -/
def refusalTexts : List String := [
  "Authorization header with a Bearer token is required",
  "Token verification is temporarily unavailable",
  "Empty Token",
  "Malformed token header",
  "Token header is missing 'kid'",
  "Disallowed token algorithm",
  "Token signed by an unknown key",
  "Token has expired",
  "Token is not yet valid",
  "Invalid token issuer",
  "Invalid token signature",
  "Token is missing required claims",
  "Invalid token",
  "Invalid token audience",
  "Token missing required claim: 'sub'",
  "Token missing required claim: 'iss'",
  "Token missing required claim: 'preferred_username'",
  "Token missing required claim: 'email'",
  "Token claim 'given_name' must be a string",
  "Token claim 'family_name' must be a string",
  "Token verification failed"]

section
variable {α β K : Type}

/-- Code outside the auth layer raises none of its errors. -/
def Unrelated (outcome : Except PyExc α) : Prop := ∀ error, outcome ≠ .error (.authentication error)

structure UnrelatedJwt (jwt : Jwt K) : Prop where
  header : ∀ rawToken, Unrelated (jwt.getUnverifiedHeader rawToken)
  decode : ∀ rawToken key algorithms issuer leeway required,
    Unrelated (jwt.decode rawToken key algorithms issuer leeway required)

def Told (outcome : Except PyExc α) : Prop :=
  ∀ error, outcome = .error (.authentication error) → error.description ∈ refusalTexts

theorem Unrelated.told {outcome : Except PyExc α} (unrelated : Unrelated outcome) : Told outcome :=
  fun error failed => (unrelated error failed).elim

theorem told_ok (value : α) : Told (.ok value) := nofun

theorem told_invalidToken {description : String} (listed : description ∈ refusalTexts) :
    Told (.error (invalidToken description) : Except PyExc α) := by
  rintro error ⟨⟩
  exact listed

theorem told_bind {first : Except PyExc α} {rest : α → Except PyExc β} (told : Told first)
    (follows : ∀ value, Told (rest value)) : Told (first >>= rest) := by
  cases first with
  | error raised => exact fun error failed => told error (congrArg Except.error (Except.error.inj failed))
  | ok value => exact follows value

theorem requireStrClaim_told (claims : JsonObject) {name : String}
    (listed : s!"Token missing required claim: '{name}'" ∈ refusalTexts) : Told (requireStrClaim claims name) := by
  unfold requireStrClaim
  split
  · split
    · exact told_invalidToken listed
    · exact told_ok _
  · exact told_invalidToken listed

theorem optionalStrClaim_told (claims : JsonObject) {name : String}
    (listed : s!"Token claim '{name}' must be a string" ∈ refusalTexts) : Told (optionalStrClaim claims name) := by
  unfold optionalStrClaim
  split
  · exact told_ok _
  · exact told_ok _
  · exact told_invalidToken listed

theorem buildPrincipal_told (claims : JsonObject) : Told (buildPrincipal claims) := by
  unfold buildPrincipal
  apply told_bind (requireStrClaim_told claims (by decide))
  intro subject
  apply told_bind (requireStrClaim_told claims (by decide))
  intro issuer
  apply told_bind (requireStrClaim_told claims (by decide))
  intro username
  apply told_bind (requireStrClaim_told claims (by decide))
  intro email
  apply told_bind (optionalStrClaim_told claims (by decide))
  intro firstName
  apply told_bind (optionalStrClaim_told claims (by decide))
  intro lastName
  exact told_ok _

theorem unverifiedHeader_told {jwt : Jwt K} (unrelated : UnrelatedJwt jwt) (rawToken : String) :
    Told (unverifiedHeader jwt rawToken) := by
  unfold unverifiedHeader
  split
  · exact told_invalidToken (by decide)
  · exact (unrelated.header rawToken).told

theorem decodeClaims_told {jwt : Jwt K} (unrelated : UnrelatedJwt jwt) (v : KeycloakVerifier) (rawToken : String)
    (key : K) : Told (decodeClaims v jwt rawToken key) := by
  unfold decodeClaims
  split
  · rename_i raised _
    cases raised with
    | other className => exact nofun
    | _ => exact told_invalidToken (by decide)
  · exact (unrelated.decode rawToken key _ _ _ _).told

theorem signingKeyFor_told (v : KeycloakVerifier) {getSigningKey : String → Except PyExc (PyJWK K)}
    (unrelated : ∀ kid, Unrelated (getSigningKey kid)) (header : JsonObject) :
    Told (signingKeyFor v getSigningKey header) := by
  unfold signingKeyFor
  split
  · split
    · split
      · exact told_invalidToken (by decide)
      · split
        · exact told_invalidToken (by decide)
        · rintro error ⟨⟩
          decide
        · exact (unrelated _).told
    · exact told_invalidToken (by decide)
  · exact told_invalidToken (by decide)

theorem validateAudience_told (v : KeycloakVerifier) (claims : JsonObject) : Told (validateAudience v claims) := by
  unfold validateAudience
  split
  · exact told_ok _
  · exact told_invalidToken (by decide)

theorem verify_told {jwt : Jwt K} (jwtUnrelated : UnrelatedJwt jwt) (v : KeycloakVerifier)
    {getSigningKey : String → Except PyExc (PyJWK K)} (unrelated : ∀ kid, Unrelated (getSigningKey kid))
    (rawToken : String) : Told (verify v jwt getSigningKey rawToken) := by
  unfold verify
  split
  · exact told_invalidToken (by decide)
  · apply told_bind (unverifiedHeader_told jwtUnrelated rawToken)
    intro header
    apply told_bind (signingKeyFor_told v unrelated header)
    intro key
    apply told_bind (decodeClaims_told jwtUnrelated v rawToken key.key)
    intro claims
    apply told_bind (validateAudience_told v claims)
    intro _
    exact buildPrincipal_told claims

theorem getCurrentPrincipal_told {jwt : Jwt K} (jwtUnrelated : UnrelatedJwt jwt) (v : KeycloakVerifier)
    {getSigningKey : String → Except PyExc (PyJWK K)} (unrelated : ∀ kid, Unrelated (getSigningKey kid))
    (credentials : Option String) : Told (getCurrentPrincipal v jwt getSigningKey credentials) := by
  unfold getCurrentPrincipal
  split
  · rintro error ⟨⟩
    decide
  · rename_i rawToken
    have told := verify_told jwtUnrelated v unrelated rawToken
    split
    · exact told_ok _
    · rename_i failed
      rintro error ⟨⟩
      exact told _ failed
    · exact told_invalidToken (by decide)

end

/-! ### Problem responses -/

section
variable {framework : Framework}

theorem plain_renderable {p : Problem} (none : p.errors = none)
    (detail : ∀ detail, p.detail = some detail → Encodable detail) : Renderable (.dict p.payload) := by
  have carrying : Renderable (.dict { p with errors := some .null : Problem }.payload) :=
    (payload_renderable (p := { p with errors := some .null }) rfl detail).mpr .null
  rw [renderable_dict] at carrying ⊢
  intro entry member
  refine carrying entry ?_
  simp only [Problem.payload, none, Option.map_none, Option.toList_none, List.append_nil,
    List.mem_append] at member ⊢
  tauto

theorem problem_headers {p : Problem} {response : JSONResponse} (answered : problem framework p = .ok response) :
    response.headers = p.headers := by
  unfold problem at answered
  obtain ⟨body, -, built⟩ := bind_ok.mp answered
  cases built
  rfl

theorem requestId_state {r : Request} {id : String} (state : r.stateRequestId = some id) (nonempty : id ≠ "") :
    requestId r = some id := by
  unfold requestId
  rw [state]
  split
  · rename_i missing
    cases missing
  · rename_i empty
    exact (nonempty (Option.some.inj empty)).elim
  · rename_i same
    exact same.symm ▸ rfl

/-- The problem as it is sent, under the id of the request. -/
structure Shows (response : Response) (requestId : String) (p : Problem) : Prop where
  status : response.statusCode = p.status
  body : response.body = .problem p.payload
  echoed : (ofString "request_id", text requestId) ∈ p.payload
  identified : ("X-Request-ID", requestId) ∈ response.headers
  headers : ∀ header ∈ p.headers.getD [], headerKey header.1 ≠ headerKey "X-Request-ID" → header ∈ response.headers

theorem problem_shows {p : Problem} {json : JSONResponse} {id : String}
    (answered : problem framework p = .ok json) (same : p.requestId = some id) :
    Shows (json.toResponse.setHeader "X-Request-ID" id) id p := by
  obtain ⟨status, -, content⟩ := problem_response answered
  constructor
  · exact status
  · exact congrArg Body.problem content
  · simp [Problem.payload, same]
  · exact List.mem_append_right _ (List.mem_singleton.mpr rfl)
  · intro header member other
    refine List.mem_append_left _ (List.mem_filter.mpr ⟨?_, decide_eq_true other⟩)
    show header ∈ json.headers.getD []
    rw [problem_headers answered]
    exact member

/-! ### Handlers -/

def RouteExc.status : RouteExc → Nat
  | .app error => getHttpStatusForError error.code
  | .http error => error.statusCode
  | .validation _ => 422
  | .authentication _ => 401
  | .authorization _ => 403
  | .unhandled _ => 500

/-- What the handler of an exception needs for a response of its own. -/
def Presentable (framework : Framework) (issuerUrl : PyText) : RouteExc → Prop
  | .app _ | .authorization _ => True
  | .http error => ∀ header ∈ error.headers.getD [], Latin1 (ofString header.2)
  | .authentication error => Latin1 (wwwAuthenticateHeader (authError error) issuerUrl)
  | .validation errors => Renderable (jsonableValidationErrors framework errors) ∧
    ∃ detail, validationDetail framework (jsonableValidationErrors framework errors) = .ok detail ∧ Encodable detail
  | .unhandled _ => False

/-- How a handler ends: with the response to a problem of its own, or by raising. -/
def Handled (framework : Framework) (r : Request) (issuerUrl : PyText) (raised : RouteExc) : Prop :=
  ∃ p json, handle framework r issuerUrl raised = .ok json ∧ problem framework p = .ok json ∧
    p.status = raised.status ∧ p.requestId = requestId r

theorem handled_problem (p : Problem) {r : Request} {issuerUrl : PyText} {raised : RouteExc}
    (documented : framework.Documented) (hands : handle framework r issuerUrl raised = problem framework p)
    (renderable : Renderable (.dict p.payload)) (status : p.status = raised.status)
    (same : p.requestId = requestId r) : Handled framework r issuerUrl raised := by
  obtain ⟨json, answered⟩ := (problem_ok documented p).mpr renderable
  exact ⟨p, json, hands.trans answered, answered, status, same⟩

theorem encodeLatin1_iff {value : PyText} : (∃ encoded, encodeLatin1 value = .ok encoded) ↔ Latin1 value := by
  constructor
  · rintro ⟨encoded, same⟩
    by_contra wide
    rw [encodeLatin1_error wide] at same
    cases same
  · intro latin
    obtain ⟨encoded, same, -⟩ := encodeLatin1_ok latin
    exact ⟨encoded, same⟩

theorem headers_encoded (headers : List (String × String)) :
    (∃ encoded, headers.mapM (fun header => do return (header.1, ← encodeLatin1 (ofString header.2))) = .ok encoded) ↔
      ∀ header ∈ headers, Latin1 (ofString header.2) := by
  induction headers with
  | nil => exact iff_of_true ⟨[], rfl⟩ (List.forall_mem_nil _)
  | cons header rest ih =>
    rw [List.forall_mem_cons, ← ih, ← encodeLatin1_iff, List.mapM_cons]
    constructor
    · rintro ⟨encoded, same⟩
      obtain ⟨first, here, same⟩ := bind_ok.mp same
      obtain ⟨value, latin, -⟩ := bind_ok.mp here
      obtain ⟨others, later, -⟩ := bind_ok.mp same
      exact ⟨⟨value, latin⟩, others, later⟩
    · rintro ⟨⟨value, latin⟩, others, later⟩
      rw [latin, later]
      exact ⟨(header.1, value) :: others, rfl⟩

theorem encodable_detail {detail : String} : ∀ held, some (ofString detail) = some held → Encodable held := by
  rintro held ⟨⟩
  exact ofString_encodable detail

theorem presentable_handled (documented : framework.Documented) {r : Request} {issuerUrl : PyText}
    {raised : RouteExc} (presentable : Presentable framework issuerUrl raised) :
    Handled framework r issuerUrl raised := by
  cases raised with
  | app error =>
    refine handled_problem _ documented rfl (plain_renderable rfl fun held same => ?_) rfl rfl
    obtain ⟨detail, -, rfl⟩ := Option.map_eq_some_iff.mp same
    exact ofString_encodable detail
  | http error =>
    obtain ⟨encoded, same⟩ := (headers_encoded _).mpr presentable
    refine handled_problem {
      title := "HTTPException"
      status := error.statusCode
      detail := ofString error.detail
      instancePath := r.path
      code := "http_error"
      requestId := requestId r
      headers := encoded } documented ?_ (plain_renderable rfl encodable_detail) rfl rfl
    simp only [handle, httpErrorHandler, same]
    rfl
  | validation errors =>
    obtain ⟨renderable, detail, found, encodable⟩ := presentable
    refine handled_problem {
      status := 422
      title := validationErrorTitle
      detail := detail
      code := AppErrorCode.validation.value
      errors := jsonableValidationErrors framework errors
      instancePath := r.path
      requestId := requestId r } documented ?_ ((payload_renderable rfl ?_).mpr renderable) rfl rfl
    · simp only [handle, validationErrorHandler, found]
      rfl
    · rintro held ⟨⟩
      exact encodable
  | authentication error =>
    obtain ⟨challenge, same, -⟩ := encodeLatin1_ok presentable
    refine handled_problem {
      status := 401
      title := "Unauthorized"
      detail := ofString error.description
      code := error.errorCode
      instancePath := r.path
      requestId := requestId r
      headers := some [("WWW-Authenticate", challenge)] } documented ?_ (plain_renderable rfl encodable_detail) rfl rfl
    simp only [handle, onAuthn, same]
    rfl
  | authorization error => exact handled_problem _ documented rfl (plain_renderable rfl encodable_detail) rfl rfl
  | unhandled raised => exact presentable.elim

theorem handled_presentable (documented : framework.Documented) {r : Request} {issuerUrl : PyText}
    {raised : RouteExc} {json : JSONResponse} (handled : handle framework r issuerUrl raised = .ok json) :
    Presentable framework issuerUrl raised := by
  cases raised with
  | app error => trivial
  | authorization error => trivial
  | unhandled raised => cases handled
  | http error =>
    obtain ⟨encoded, same, -⟩ := bind_ok.mp handled
    exact (headers_encoded _).mp ⟨encoded, same⟩
  | authentication error =>
    obtain ⟨challenge, same, -⟩ := bind_ok.mp handled
    exact encodeLatin1_iff.mp ⟨challenge, same⟩
  | validation errors =>
    obtain ⟨detail, found, answered⟩ := bind_ok.mp handled
    have renderable := (problem_ok documented _).mp ⟨json, answered⟩
    have reported := renderable_dict.mp renderable
    refine ⟨(reported (ofString "errors", jsonableValidationErrors framework errors) ?_).2, detail, found, ?_⟩
    · simp [Problem.payload]
    · have shown := (reported (ofString "detail", .str detail) (by simp [Problem.payload])).2
      cases shown with
      | str encodable => exact encodable

/-! ### The middleware -/

theorem unexpected_problem (documented : framework.Documented) (path : String) (id : Option String) :
    ∃ json, problem framework (unexpectedError path id) = .ok json :=
  (problem_ok documented _).mpr (plain_renderable rfl encodable_detail)

theorem loggingMiddleware_caught {path id : String} {json : JSONResponse}
    (unexpected : problem framework (unexpectedError path (some id)) = .ok json) (raised : PyExc) :
    loggingMiddleware framework path id (.error raised) = .ok (json.toResponse.setHeader "X-Request-ID" id) := by
  unfold loggingMiddleware
  rw [unexpected]
  rfl

/-- The middleware never raises, so the handler for `Exception` is never asked. -/
theorem loggingMiddleware_ok (documented : framework.Documented) (path id : String) (inner : Except PyExc Response) :
    ∃ response, loggingMiddleware framework path id inner = .ok response := by
  cases inner with
  | ok response => exact ⟨_, rfl⟩
  | error raised =>
    obtain ⟨json, unexpected⟩ := unexpected_problem documented path (some id)
    exact ⟨_, loggingMiddleware_caught unexpected raised⟩

/-- What is sent for what a route returned or raised. -/
structure Answered (framework : Framework) (issuerUrl : PyText) (path : String) (headerRequestId : Option String)
    (id : String) (outcome : Except RouteExc Response) (response : Response) : Prop where
  sent : respond framework issuerUrl path headerRequestId id outcome = .ok response
  identified : ("X-Request-ID", id) ∈ response.headers
  returned : ∀ value, outcome = .ok value → response = value.setHeader "X-Request-ID" id
  presented : ∀ raised, outcome = .error raised → Presentable framework issuerUrl raised →
    ∃ p, Shows response id p ∧ p.status = raised.status ∧ ∃ json : JSONResponse,
      handle framework ⟨path, some id, headerRequestId⟩ issuerUrl raised = .ok json ∧
      problem framework p = .ok json
  covered : ∀ raised, outcome = .error raised → ¬ Presentable framework issuerUrl raised →
    Shows response id (unexpectedError path (some id))

section
variable {issuerUrl : PyText} {path : String} {headerRequestId : Option String} {id : String}

theorem value_answered (framework : Framework) (issuerUrl : PyText) (path : String) (headerRequestId : Option String)
    (id : String) (value : Response) : Answered framework issuerUrl path headerRequestId id (.ok value)
      (value.setHeader "X-Request-ID" id) := by
  refine ⟨rfl, List.mem_append_right _ (List.mem_singleton.mpr rfl), ?_, nofun, nofun⟩
  rintro returned ⟨⟩
  rfl

theorem presentable_answered (documented : framework.Documented) (nonempty : id ≠ "") {raised : RouteExc}
    (presentable : Presentable framework issuerUrl raised) :
    ∃ response, Answered framework issuerUrl path headerRequestId id (.error raised) response := by
  have same : requestId ⟨path, some id, headerRequestId⟩ = some id := requestId_state rfl nonempty
  obtain ⟨p, json, handled, answered, status, echoed⟩ :=
    presentable_handled (r := ⟨path, some id, headerRequestId⟩) documented presentable
  have shows' := problem_shows answered (echoed.trans same)
  refine ⟨json.toResponse.setHeader "X-Request-ID" id, ?_, shows'.identified, nofun, ?_, ?_⟩
  · simp only [respond, handled]
    rfl
  · rintro other ⟨⟩ -
    exact ⟨p, shows', status, json, handled, answered⟩
  · rintro other ⟨⟩ hidden
    exact (hidden presentable).elim

theorem hidden_answered (documented : framework.Documented) {raised : RouteExc}
    (hidden : ¬ Presentable framework issuerUrl raised) :
    ∃ response, Answered framework issuerUrl path headerRequestId id (.error raised) response := by
  obtain ⟨fallback, unexpected⟩ := unexpected_problem documented path (some id)
  have fails : ∃ inner, handle framework ⟨path, some id, headerRequestId⟩ issuerUrl raised = .error inner := by
    cases handled : handle framework ⟨path, some id, headerRequestId⟩ issuerUrl raised with
    | error inner => exact ⟨inner, rfl⟩
    | ok json => exact (hidden (handled_presentable documented handled)).elim
  obtain ⟨inner, failed⟩ := fails
  have shows' : Shows (fallback.toResponse.setHeader "X-Request-ID" id) id (unexpectedError path (some id)) :=
    problem_shows unexpected rfl
  refine ⟨fallback.toResponse.setHeader "X-Request-ID" id, ?_, shows'.identified, nofun, ?_, ?_⟩
  · have raises : JSONResponse.toResponse <$> (.error inner : Except PyExc JSONResponse) = .error inner := rfl
    simp only [respond, failed, raises, loggingMiddleware_caught unexpected]
  · rintro other ⟨⟩ shown
    exact (hidden shown).elim
  · rintro other ⟨⟩ -
    exact shows'

end

/-- Every request is answered under its id: with what the route returned, with the problem that belongs to
what it raised, or, exactly if that cannot be presented, with one that says nothing. -/
theorem every_outcome_answered (documented : framework.Documented) (issuerUrl : PyText) (path : String)
    (headerRequestId : Option String) {id : String} (nonempty : id ≠ "") (outcome : Except RouteExc Response) :
    ∃ response, Answered framework issuerUrl path headerRequestId id outcome response := by
  cases outcome with
  | ok value => exact ⟨_, value_answered framework issuerUrl path headerRequestId id value⟩
  | error raised =>
    by_cases presentable : Presentable framework issuerUrl raised
    · exact presentable_answered documented nonempty presentable
    · exact hidden_answered documented presentable

/-! ### Refused credentials -/

theorem refusalTexts_plain : refusalTexts.all (fun text =>
    !text.toList.isEmpty && text.toList.all fun c => c.toNat < 256) = true := by decide +kernel

theorem refusal_plain {description : String} (listed : description ∈ refusalTexts) :
    ofString description ≠ [] ∧ Latin1 (ofString description) := by
  obtain ⟨full, narrow⟩ := Bool.and_eq_true_iff.mp (List.all_eq_true.mp refusalTexts_plain description listed)
  refine ⟨fun empty => ?_, ofString_latin1 narrow⟩
  rw [List.map_eq_nil_iff.mp empty] at full
  cases full

theorem errorCode_latin1 (error : AuthenticationError) : Latin1 (ofString error.errorCode) := by
  cases error with
  | missingToken => exact ofString_latin1 (by decide)
  | invalidToken description =>
    show Latin1 (ofString "invalid_token")
    exact ofString_latin1 (by decide)
  | tokenVerificationUnavailable => exact ofString_latin1 (by decide)

/-- A 401 under the id of the request, with a challenge that reads back as the realm, the code and the text. -/
structure Challenged (framework : Framework) (issuerUrl : PyText) (path : String) (headerRequestId : Option String)
    (id : String) (error : AuthenticationError) (response : Response) (challenge : String) : Prop where
  sent : respond framework issuerUrl path headerRequestId id (.error (.authentication error)) = .ok response
  status : response.statusCode = 401
  identified : ("X-Request-ID", id) ∈ response.headers
  header : ("WWW-Authenticate", challenge) ∈ response.headers
  parses : bearerParams (ofString challenge) = some [(ofString "realm", lastSegment issuerUrl),
    (ofString "error", ofString error.errorCode), (ofString "error_description", ofString error.description)]

theorem refusal_challenged (documented : framework.Documented) {issuerUrl : PyText}
    (quiet : Quiet (lastSegment issuerUrl)) (realm : Latin1 (lastSegment issuerUrl)) (path : String)
    (headerRequestId : Option String) {id : String} (nonempty : id ≠ "") {error : AuthenticationError}
    (listed : error.description ∈ refusalTexts) :
    ∃ response challenge, Challenged framework issuerUrl path headerRequestId id error response challenge := by
  have latin : Latin1 (wwwAuthenticateHeader (authError error) issuerUrl) :=
    challenge_latin1 realm (errorCode_latin1 error) (refusal_plain listed).2
  have shown : Presentable framework issuerUrl (.authentication error) := latin
  obtain ⟨response, answered⟩ :
      ∃ response, Answered framework issuerUrl path headerRequestId id (.error (.authentication error)) response :=
    presentable_answered documented nonempty shown
  obtain ⟨p, shows', status, json, handled, same⟩ := answered.presented _ rfl latin
  obtain ⟨challenge, encoded, built⟩ := bind_ok.mp handled
  have headers : p.headers = some [("WWW-Authenticate", challenge)] :=
    (problem_headers same).symm.trans (problem_headers built)
  obtain ⟨other, encodes, reads⟩ := encodeLatin1_ok latin
  cases encodes.symm.trans encoded
  refine ⟨response, challenge, answered.sent, shows'.status.trans status, shows'.identified, ?_, ?_⟩
  · apply shows'.headers
    · rw [headers]
      exact List.mem_singleton.mpr rfl
    · show headerKey "WWW-Authenticate" ≠ headerKey "X-Request-ID"
      decide
  · rw [reads, challenge_parses _ _ quiet (errorCode_token error)]
    exact congrArg some (congrArg (_ ++ ·) (if_neg (refusal_plain listed).1))

variable {K : Type} {p : JWKSProvider} {fromDict : JsonObject → Except PyExc (List (PyJWK K))} {s : System K}

/-- Neither the JWKS server's answers nor the parser of its payload raise an error of the auth layer. -/
def UnrelatedRefreshes (p : JWKSProvider) (fromDict : JsonObject → Except PyExc (List (PyJWK K))) (log : Log K) :
    Prop :=
  ∀ ticket exchange, .refreshFailed ticket (some exchange) ∈ log →
    Unrelated (getJson exchange >>= parseJwks p fromDict)

end

/-! ### What a database error tells -/

/-- All that an answer depends on: the kind of the error, whether it is the taken name, and the column that is
null. -/
def disclosed (e : PersistenceError) : PersistenceErrorKind × Bool × Option String :=
  (e.kind,
    match e.kind with
    | .unique => (e.constraintName = some "uq_organizations_name_canonical", none)
    | .notNull => (false, e.columnName)
    | _ => (false, none))

theorem translated_disclosed {e e' : PersistenceError} (same : disclosed e = disclosed e') :
    (translateDbError e).title = (translateDbError e').title ∧
      (translateDbError e).code = (translateDbError e').code ∧
      (translateDbError e).detail = (translateDbError e').detail := by
  have kinds : e.kind = e'.kind := congrArg Prod.fst same
  have rest := congrArg Prod.snd same
  unfold translateDbError
  simp only [disclosed, kinds] at rest ⊢
  cases kind : e'.kind with
  | unique =>
    simp only [kind, Prod.mk.injEq, decide_eq_decide, and_true] at rest
    by_cases taken : e'.constraintName = some "uq_organizations_name_canonical"
    · rw [if_pos (rest.mpr taken), if_pos taken]
      exact ⟨rfl, rfl, rfl⟩
    · rw [if_neg (taken ∘ rest.mp), if_neg taken]
      exact ⟨rfl, rfl, rfl⟩
  | notNull =>
    simp only [kind, Prod.mk.injEq, true_and] at rest
    rw [rest]
    exact ⟨rfl, rfl, rfl⟩
  | _ => exact ⟨rfl, rfl, rfl⟩

def sampleIssuer : PyText := ofString "https://id.example/realms/pet"

theorem sampleIssuer_segment : lastSegment sampleIssuer = ofString "pet" := by decide

theorem every_outcome_answered_sample : ∃ response, Answered fastapi sampleIssuer "/orgs/" none "0"
    (.error (.http { statusCode := 405, detail := "Method Not Allowed", headers := some [("Allow", "POST")] }))
    response :=
  every_outcome_answered fastapi_documented _ _ _ (by decide) _

/-- A `jwt` that finds every token expired. -/
def expiredJwt : Jwt JsonObject where
  getUnverifiedHeader _ := .ok [("kid", .str "k1"), ("alg", .str "RS256")]
  decode _ _ _ _ _ _ := .error (.jwt .expiredSignature)

def sampleUnique (text constraintName : String) : PersistenceError where
  kind := .unique
  constraintName := constraintName
  cause := some { errorClass := .integrityError, text := text }

end PetBackend.Api
