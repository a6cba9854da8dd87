import PetBackend.Api.PyJson
import PetBackend.Library.Pieces
import PetBackend.Library.QuotedParams

/-!
# The challenge of a refused request

`_www_authenticate_header` and `_escape_quoted` of `api/exception_handlers.py`, and a reader of the header.
-/

namespace PetBackend.Api
open Library Auth

/-- What the handlers read of an `AuthError`. -/
structure AuthError where
  errorCode : PyText
  description : PyText

/-- `issuer_url.split("/")[-1]`. -/
def lastSegment (issuerUrl : PyText) : PyText :=
  (issuerUrl.splitOn (ofChar '/')).getLast (List.splitOn_ne_nil _ _)

/-- `value.replace(old, new)` for one character. -/
def replace (value : PyText) (old : CodePoint) (new : PyText) : PyText := substitute old new value

def escapeQuoted (value : PyText) : PyText :=
  replace (replace value (ofChar '\\') (ofString "\\\\")) (ofChar '"') (ofString "\\\"")

def wwwAuthenticateHeader (error : AuthError) (issuerUrl : PyText) : PyText :=
  let realm := lastSegment issuerUrl
  let parts := [ofString "Bearer realm=\"" ++ realm ++ ofString "\""]
  let parts := parts ++ [ofString "error=\"" ++ error.errorCode ++ ofString "\""]
  let parts :=
    if error.description = [] then parts
    else parts ++ [ofString "error_description=\"" ++ escapeQuoted error.description ++ ofString "\""]
  (ofString ", ").intercalate parts

/-! ### Reading a challenge -/

def between (first last : Char) (c : CodePoint) : Bool := first.toNat ≤ c.val && c.val ≤ last.toNat

def isTokenChar (c : CodePoint) : Bool :=
  between '0' '9' c || between 'A' 'Z' c || between 'a' 'z' c || (ofString "!#$%&'*+-.^_\x60|~").contains c

def challengeMarks : Marks CodePoint where
  quote := ofChar '"'
  escape := ofChar '\\'
  equals := ofChar '='
  comma := ofChar ','
  space := ofChar ' '
  isName := isTokenChar
  quote_escape := by decide
  comma_space := by decide
  equals_apart := by decide
  space_apart := by decide

/-- The parameters of a `Bearer` challenge that takes up the whole header. -/
def bearerParams (header : PyText) : Option (List (PyText × PyText)) := do
  let rest ← (ofString "Bearer ").isPrefixOf? header
  challengeMarks.params rest

/-- Neither a double quote nor a backslash is in the text. -/
def Quiet (text : PyText) : Prop := ∀ c ∈ text, c ≠ ofChar '"' ∧ c ≠ ofChar '\\'

def Token (text : PyText) : Prop := ∀ c ∈ text, isTokenChar c

theorem lastSegment_iff {issuerUrl segment : PyText} :
    lastSegment issuerUrl = segment ↔ LastPiece (ofChar '/') issuerUrl segment := getLast_splitOn

theorem Token.quiet {text : PyText} (token : Token text) : Quiet text := by
  intro c member
  constructor
  · rintro rfl
    exact absurd (token _ member) (by decide)
  · rintro rfl
    exact absurd (token _ member) (by decide)

theorem escapeQuoted_quoted (value : PyText) : challengeMarks.Quoted (escapeQuoted value) value :=
  Marks.quoted_substitute challengeMarks value

section
variable {error : AuthError} {issuerUrl : PyText}

def realmParam (quiet : Quiet (lastSegment issuerUrl)) : Written challengeMarks where
  name := ofString "realm"
  raw := lastSegment issuerUrl
  value := lastSegment issuerUrl
  nonempty := by decide
  named := List.all_eq_true.mp (by decide)
  quoted := Marks.quoted_self quiet

def errorParam (token : Token error.errorCode) : Written challengeMarks where
  name := ofString "error"
  raw := error.errorCode
  value := error.errorCode
  nonempty := by decide
  named := List.all_eq_true.mp (by decide)
  quoted := Marks.quoted_self token.quiet

def descriptionParam (description : PyText) : Written challengeMarks where
  name := ofString "error_description"
  raw := escapeQuoted description
  value := description
  nonempty := by decide
  named := List.all_eq_true.mp (by decide)
  quoted := escapeQuoted_quoted description

/-- The parameters after the realm. -/
def errorParams (token : Token error.errorCode) : List (Written challengeMarks) :=
  errorParam token :: if error.description = [] then [] else [descriptionParam error.description]

theorem intercalate_append (separator start first : PyText) (rest : List PyText) :
    separator.intercalate ((start ++ first) :: rest) = start ++ separator.intercalate (first :: rest) := by
  cases rest with
  | nil => simp
  | cons next rest => rw [List.intercalate_cons_cons, List.intercalate_cons_cons, List.append_assoc, List.append_assoc,
      List.append_assoc]

theorem header_written (quiet : Quiet (lastSegment issuerUrl)) (token : Token error.errorCode) :
    wwwAuthenticateHeader error issuerUrl = ofString "Bearer " ++
      [challengeMarks.comma, challengeMarks.space].intercalate
        ((realmParam quiet :: errorParams token).map Written.text) := by
  rw [List.map_cons, ← intercalate_append]
  unfold wwwAuthenticateHeader errorParams
  dsimp only
  by_cases empty : error.description = []
  · rw [if_pos empty, if_pos empty]
    rfl
  · rw [if_neg empty, if_neg empty]
    rfl

theorem bearerParams_append (rest : PyText) : bearerParams (ofString "Bearer " ++ rest) = challengeMarks.params rest := by
  have stripped : (ofString "Bearer ").isPrefixOf? (ofString "Bearer " ++ rest) = some rest :=
    List.isPrefixOf?_eq_some_iff_append_eq.mpr rfl
  unfold bearerParams
  rw [stripped]
  rfl

end

/-- The header reads back as what was put in. -/
theorem challenge_parses (error : AuthError) (issuerUrl : PyText) (quiet : Quiet (lastSegment issuerUrl))
    (token : Token error.errorCode) :
    bearerParams (wwwAuthenticateHeader error issuerUrl) =
      some ([(ofString "realm", lastSegment issuerUrl), (ofString "error", error.errorCode)] ++
        if error.description = [] then [] else [(ofString "error_description", error.description)]) := by
  rw [header_written quiet token, bearerParams_append, Marks.params_written]
  unfold errorParams
  by_cases empty : error.description = []
  · rw [if_pos empty, if_pos empty]
    rfl
  · rw [if_neg empty, if_neg empty]
    rfl

def authError (error : AuthenticationError) : AuthError :=
  { errorCode := ofString error.errorCode, description := ofString error.description }

theorem literal_token (text : String) (tokens : (ofString text).all isTokenChar = true) : Token (ofString text) :=
  List.all_eq_true.mp tokens

theorem errorCode_token (error : AuthenticationError) : Token (ofString error.errorCode) := by
  cases error with
  | missingToken => exact literal_token "invalid_request" (by decide)
  | invalidToken description => exact literal_token "invalid_token" (by decide)
  | tokenVerificationUnavailable => exact literal_token "temporarily_unavailable" (by decide)

theorem challenge_parses_sample :
    bearerParams (wwwAuthenticateHeader (authError (.invalidToken "a \"b\\\\\", c=d\\"))
      (ofString "https://id.example/realms/pet")) =
        some [(ofString "realm", ofString "pet"), (ofString "error", ofString "invalid_token"),
          (ofString "error_description", ofString "a \"b\\\\\", c=d\\")] := by
  have segment : lastSegment (ofString "https://id.example/realms/pet") = ofString "pet" := by decide
  have token : Token (ofString "pet") := literal_token "pet" (by decide)
  rw [challenge_parses _ _ (segment ▸ token.quiet) (errorCode_token _), segment]
  rfl

end PetBackend.Api
