import Mathlib.Data.List.Basic
import PetBackend.Library.Scanning
import PetBackend.PyString

/-!
# Health checks in the access log

The filter of `config/logging.py` on the records of Uvicorn: it reads the path of a request from the arguments of the
record, or else from its text.
-/

namespace PetBackend.Config
open Library

/-! ### The path of a URL -/

/-- `urllib.parse.urlsplit` on a scheme. -/
def dropScheme (url : List Char) : List Char :=
  let scheme := url.takeWhile fun c => c ≠ ':'
  match url.dropWhile fun c => c ≠ ':' with
  | _ :: rest =>
    if scheme.head?.any Char.isAlpha && scheme.all fun c => c.isAlphanum || c ∈ ['+', '-', '.'] then rest else url
  | [] => url

/-- `urlsplit(url).path`. `checkNetloc` is what it raises for an authority, which is a `ValueError`. -/
def urlsplitPath (checkNetloc : List Char → Except String Unit) (url : List Char) : Except String (List Char) :=
  let stripped := (url.dropWhile fun c => c ≤ ' ').filter fun c => c ∉ ['\t', '\r', '\n']
  let pathOf (rest : List Char) := (rest.takeWhile fun c => c ≠ '#').takeWhile fun c => c ≠ '?'
  match dropScheme stripped with
  | '/' :: '/' :: rest => do
    checkNetloc (rest.takeWhile fun c => c ∉ ['/', '?', '#'])
    return pathOf (rest.dropWhile fun c => c ∉ ['/', '?', '#'])
  | rest => .ok (pathOf rest)

/-! ### The request line -/

section
variable (decimal : Char → Option Nat)

/-- `\d(?:\.\d)?"`. -/
def endsRequest : List Char → Bool
  | d :: '.' :: e :: '"' :: _ => (decimal d).isSome && (decimal e).isSome
  | d :: '"' :: _ => (decimal d).isSome
  | _ => false

def isVisible (c : Char) : Bool := !PyString.isSpace c

/-- `_UVICORN_ACCESS_REQUEST_RE` at the front of a text. Each class leaves out the character that has to follow it, so
there is nothing to backtrack to. -/
def matchRequest (text : List Char) : Option (List Char) := do
  let text ← ['"'].isPrefixOf? text
  let (_, text) ← readWord Char.isUpper text
  let text ← [' '].isPrefixOf? text
  let (path, text) ← readWord isVisible text
  let text ← " HTTP/".toList.isPrefixOf? text
  if endsRequest decimal text then some path else none

end

/-! ### The filter -/

inductive LogArg where
  | str (value : List Char)
  | other

structure AccessRecord where
  name : String
  /-- The arguments, if they are a tuple. -/
  args : Option (List LogArg)
  /-- `getMessage()`. -/
  message : List Char

def skipAccessLogPaths : List (List Char) := ["/healthz".toList, "/readyz".toList]

section
variable (checkNetloc : List Char → Except String Unit) (decimal : Char → Option Nat)

def normalizePath (path : List Char) : Except String (List Char) := urlsplitPath checkNetloc path

def extractUvicornAccessPath (record : AccessRecord) : Except String (Option (List Char)) :=
  match record.args with
  | some (_ :: _ :: .str target :: _) => some <$> normalizePath checkNetloc target
  | _ =>
    match search (matchRequest decimal) record.message with
    | none => .ok none
    | some target => some <$> normalizePath checkNetloc target

/-- `_UvicornAccessHealthcheckFilter.filter`. -/
def accessFilter (record : AccessRecord) : Except String Bool :=
  if record.name ≠ "uvicorn.access" then .ok true
  else do
    let path ← extractUvicornAccessPath checkNetloc decimal record
    return path.all fun path => path ∉ skipAccessLogPaths

end

/-! ### Requests -/

/-- One digit, or two with a dot between them. -/
inductive HttpVersion (decimal : Char → Option Nat) : List Char → Prop where
  | major {d : Char} (digit : (decimal d).isSome) : HttpVersion decimal [d]
  | minor {d e : Char} (digit : (decimal d).isSome) (digit' : (decimal e).isSome) : HttpVersion decimal [d, '.', e]

/-- What the expression says of a text that begins with a request line. -/
structure RequestLine (decimal : Char → Option Nat) (text path method version rest : List Char) : Prop where
  reads : text = '"' :: (method ++ ' ' :: (path ++ (" HTTP/".toList ++ (version ++ '"' :: rest))))
  method : Word Char.isUpper method
  path : Word isVisible path
  version : HttpVersion decimal version

def HasRequestLine (decimal : Char → Option Nat) (text target : List Char) : Prop :=
  ∃ method version rest, RequestLine decimal text target method version rest

/-- The target of the first request line in a text. -/
def FirstTarget (decimal : Char → Option Nat) (text target : List Char) : Prop :=
  ∃ skipped rest, text = skipped ++ rest ∧ HasRequestLine decimal rest target ∧
    ∀ before c after other, skipped = before ++ c :: after → ¬ HasRequestLine decimal (c :: after ++ rest) other

/-- A request, as Uvicorn has it logged. -/
structure AccessRequest where
  client : List Char
  method : List Char
  path : List Char
  /-- The query with its question mark, or nothing. -/
  query : List Char
  version : List Char
  status : List Char

def AccessRequest.target (request : AccessRequest) : List Char := request.path ++ request.query

/-- `%s - "%s %s HTTP/%s" %d`. -/
def AccessRequest.message (request : AccessRequest) : List Char :=
  (request.client ++ " - ".toList) ++ '"' :: (request.method ++ ' ' :: (request.target ++
    (" HTTP/".toList ++ (request.version ++ '"' :: (' ' :: request.status)))))

structure AccessRequest.WellFormed (decimal : Char → Option Nat) (request : AccessRequest) : Prop where
  client : '"' ∉ request.client
  method : Word Char.isUpper request.method
  path : ∃ rest, request.path = '/' :: rest ∧ rest.head? ≠ some '/'
  visible : ∀ c ∈ request.target, isVisible c
  plain : ∀ c ∈ request.path, c ≠ '?' ∧ c ≠ '#'
  query : request.query = [] ∨ request.query.head? = some '?'
  version : HttpVersion decimal request.version

/-- There is no text where Uvicorn has the target. -/
def AccessRecord.Untargeted (record : AccessRecord) : Prop :=
  ∀ client method target more, record.args ≠ some (client :: method :: .str target :: more)

/-- The request is in the arguments, or else in the message. -/
inductive AccessRequest.LoggedAs (request : AccessRequest) : AccessRecord → Prop where
  | args {client method : LogArg} {more : List LogArg} {message : List Char} : AccessRequest.LoggedAs request
    ⟨"uvicorn.access", some (client :: method :: .str request.target :: more), message⟩
  | rendered {args : Option (List LogArg)}
    (untargeted : AccessRecord.Untargeted ⟨"uvicorn.access", args, request.message⟩) : AccessRequest.LoggedAs request
    ⟨"uvicorn.access", args, request.message⟩

section
variable {checkNetloc : List Char → Except String Unit} {decimal : Char → Option Nat} {text path : List Char}

theorem endsRequest_iff : endsRequest decimal text = true ↔
    ∃ version rest, text = version ++ '"' :: rest ∧ HttpVersion decimal version := by
  constructor
  · intro ends
    unfold endsRequest at ends
    split at ends
    · rename_i d e rest
      obtain ⟨digit, digit'⟩ := Bool.and_eq_true_iff.mp ends
      exact ⟨[d, '.', e], rest, rfl, .minor digit digit'⟩
    · rename_i d rest
      exact ⟨[d], rest, rfl, .major ends⟩
    · cases ends
  · rintro ⟨version, rest, rfl, digit | ⟨digit, digit'⟩⟩
    · exact digit
    · exact Bool.and_eq_true_iff.mpr ⟨digit, digit'⟩

theorem matchRequest_iff : matchRequest decimal text = some path ↔ HasRequestLine decimal text path := by
  unfold matchRequest
  constructor
  · intro found
    obtain ⟨text, quoted, found⟩ := Option.bind_eq_some_iff.mp found
    obtain ⟨⟨method, text⟩, methodRead, found⟩ := Option.bind_eq_some_iff.mp found
    obtain ⟨text, spaced, found⟩ := Option.bind_eq_some_iff.mp found
    obtain ⟨⟨path, text⟩, pathRead, found⟩ := Option.bind_eq_some_iff.mp found
    obtain ⟨text, protocol, found⟩ := Option.bind_eq_some_iff.mp found
    split at found
    · cases found
      rename_i ends
      obtain ⟨version, rest, rfl, version⟩ := endsRequest_iff.mp ends
      rw [List.isPrefixOf?_eq_some_iff_append_eq] at quoted spaced protocol
      obtain ⟨rfl, method, -⟩ := readWord_iff.mp methodRead
      obtain ⟨rfl, path, -⟩ := readWord_iff.mp pathRead
      subst quoted spaced protocol
      exact ⟨_, _, rest, rfl, method, path, version⟩
    · cases found
  · rintro ⟨method, version, rest, rfl, upper, visible, digits⟩
    have quoted (after : List Char) : ['"'].isPrefixOf? ('"' :: after) = some after :=
      List.isPrefixOf?_eq_some_iff_append_eq.mpr rfl
    have spaced (after : List Char) : [' '].isPrefixOf? (' ' :: after) = some after :=
      List.isPrefixOf?_eq_some_iff_append_eq.mpr rfl
    have protocol (after : List Char) : " HTTP/".toList.isPrefixOf? (" HTTP/".toList ++ after) = some after :=
      List.isPrefixOf?_eq_some_iff_append_eq.mpr rfl
    have methodRead (after : List Char) :
        readWord Char.isUpper (method ++ ' ' :: after) = some (method, ' ' :: after) :=
      readWord_iff.mpr ⟨rfl, upper, by rintro _ ⟨⟩; decide⟩
    have pathRead (after : List Char) :
        readWord isVisible (path ++ (" HTTP/".toList ++ after)) = some (path, " HTTP/".toList ++ after) :=
      readWord_iff.mpr ⟨rfl, visible, by rintro _ ⟨⟩; decide⟩
    have ends := endsRequest_iff.mpr ⟨version, rest, rfl, digits⟩
    simp only [quoted, methodRead, spaced, pathRead, protocol, ends, Option.bind_eq_bind, Option.bind_some, if_true]

theorem matchRequest_none : matchRequest decimal text = none ↔ ∀ target, ¬ HasRequestLine decimal text target := by
  simp only [Option.eq_none_iff_forall_ne_some, ne_eq, matchRequest_iff]

theorem search_firstTarget :
    search (matchRequest decimal) text = some path ↔ FirstTarget decimal text path := by
  rw [search_iff]
  constructor
  · rintro ⟨skipped, rest, same, found, earlier⟩
    refine ⟨skipped, rest, same, matchRequest_iff.mp found, fun before c after other split => ?_⟩
    exact matchRequest_none.mp (earlier before c after split) other
  · rintro ⟨skipped, rest, same, found, earlier⟩
    refine ⟨skipped, rest, same, matchRequest_iff.mpr found, fun before c after split => ?_⟩
    exact matchRequest_none.mpr fun other => earlier before c after other split

/-- The first request line of the message is the request's own. -/
theorem message_firstTarget {request : AccessRequest} (wellFormed : request.WellFormed decimal) :
    FirstTarget decimal request.message request.target := by
  obtain ⟨rest, slash, -⟩ := wellFormed.path
  have nonempty : request.target ≠ [] := by
    rw [AccessRequest.target, slash]
    nofun
  refine ⟨_, _, rfl, ⟨_, _, _, rfl, wellFormed.method, ⟨nonempty, wellFormed.visible⟩, wellFormed.version⟩, ?_⟩
  rintro before c after other same ⟨method, version, more, line⟩
  obtain rfl : c = '"' := (List.cons.inj line.reads).1
  have quoted : '"' ∈ request.client ++ " - ".toList := same ▸ List.mem_append_right before List.mem_cons_self
  rcases List.mem_append.mp quoted with client | dash
  · exact wellFormed.client client
  · revert dash
    decide

theorem dropScheme_slash (rest : List Char) : dropScheme ('/' :: rest) = '/' :: rest := by
  unfold dropScheme
  split
  · exact if_neg (by simp)
  · rfl

theorem visible_stripped {rest : List Char} (visible : ∀ c ∈ '/' :: rest, isVisible c) :
    ((('/' :: rest).dropWhile fun c => c ≤ ' ').filter fun c => c ∉ ['\t', '\r', '\n']) = '/' :: rest := by
  have dropped : (('/' :: rest).dropWhile fun c => c ≤ ' ') = '/' :: rest := List.dropWhile_cons_of_neg (by decide)
  rw [dropped, List.filter_eq_self]
  intro c member
  have seen := visible c member
  rw [decide_eq_true_iff]
  intro space
  simp only [List.mem_cons, List.not_mem_nil, or_false] at space
  rcases space with rfl | rfl | rfl <;> revert seen <;> decide

theorem normalizePath_target {request : AccessRequest} (wellFormed : request.WellFormed decimal) :
    normalizePath checkNetloc request.target = .ok request.path := by
  obtain ⟨rest, slash, single⟩ := wellFormed.path
  have target : request.target = '/' :: (rest ++ request.query) := by
    rw [AccessRequest.target, slash]
    rfl
  have visible := wellFormed.visible
  rw [target] at visible
  -- up to the first `#`, and then up to the first `?`
  have path : ((request.target.takeWhile fun c => c ≠ '#').takeWhile fun c => c ≠ '?') = request.path := by
    have before : ∀ c ∈ request.path, decide (c ≠ '#') = true := fun c member =>
      decide_eq_true (wellFormed.plain c member).2
    have before' : ∀ c ∈ request.path, decide (c ≠ '?') = true := fun c member =>
      decide_eq_true (wellFormed.plain c member).1
    rw [AccessRequest.target, List.takeWhile_append_of_pos before, List.takeWhile_append_of_pos before']
    rcases wellFormed.query with none | mark
    · rw [none]
      exact List.append_nil _
    · obtain ⟨query, same⟩ := List.head?_eq_some_iff.mp mark
      rw [same]
      exact List.append_nil _
  rw [target] at path
  unfold normalizePath urlsplitPath
  rw [target]
  simp only [visible_stripped visible, dropScheme_slash]
  split
  · rename_i other same
    have after : rest ++ request.query = '/' :: other := (List.cons.inj same).2
    cases rest with
    | nil =>
      rcases wellFormed.query with none | mark
      · cases none.symm.trans after
      · rw [show request.query = '/' :: other from after] at mark
        cases mark
    | cons c rest =>
      cases after
      exact (single rfl).elim
  · exact congrArg Except.ok path

theorem extract_untargeted {record : AccessRecord} (untargeted : record.Untargeted) :
    extractUvicornAccessPath checkNetloc decimal record = match search (matchRequest decimal) record.message with
      | none => .ok none
      | some target => some <$> normalizePath checkNetloc target := by
  unfold extractUvicornAccessPath
  split
  · rename_i present
    exact (untargeted _ _ _ _ present).elim
  · rfl

/-- What becomes of a request for this target. -/
def keepsTarget (checkNetloc : List Char → Except String Unit) (target : List Char) : Except String Bool :=
  (normalizePath checkNetloc target).map fun path => path ∉ skipAccessLogPaths

theorem accessFilter_target {record : AccessRecord} {target : List Char} (name : record.name = "uvicorn.access")
    (extracted : extractUvicornAccessPath checkNetloc decimal record = some <$> normalizePath checkNetloc target) :
    accessFilter checkNetloc decimal record = keepsTarget checkNetloc target := by
  unfold accessFilter keepsTarget
  rw [if_neg (not_not.mpr name), extracted]
  cases normalizePath checkNetloc target <;> rfl

theorem accessFilter_found {record : AccessRecord} {target : List Char} (name : record.name = "uvicorn.access")
    (untargeted : record.Untargeted) (first : FirstTarget decimal record.message target) :
    accessFilter checkNetloc decimal record = keepsTarget checkNetloc target := by
  refine accessFilter_target name ?_
  rw [extract_untargeted untargeted, search_firstTarget.mpr first]

theorem normalizePath_error {url : List Char} {message : String}
    (failed : normalizePath checkNetloc url = .error message) : ∃ netloc, checkNetloc netloc = .error message := by
  unfold normalizePath urlsplitPath at failed
  simp only at failed
  split at failed
  · rename_i rest _
    cases checked : checkNetloc (rest.takeWhile fun c => c ∉ ['/', '?', '#']) with
    | ok =>
      rw [checked] at failed
      cases failed
    | error raised =>
      rw [checked] at failed
      cases failed
      exact ⟨_, checked⟩
  · cases failed

/-- The filter on every record. What is not of the access log stays, and what is no request. A request stays unless its
path is a health check's, whichever way it is logged. Only an authority can be in the way. -/
structure SkipsHealthchecks (checkNetloc : List Char → Except String Unit) (decimal : Char → Option Nat) : Prop where
  others : ∀ record, record.name ≠ "uvicorn.access" → accessFilter checkNetloc decimal record = .ok true
  given : ∀ client method target more message, accessFilter checkNetloc decimal
    ⟨"uvicorn.access", some (client :: method :: .str target :: more), message⟩ = keepsTarget checkNetloc target
  found : ∀ record target, record.name = "uvicorn.access" → record.Untargeted →
    FirstTarget decimal record.message target → accessFilter checkNetloc decimal record = keepsTarget checkNetloc target
  missing : ∀ record, record.name = "uvicorn.access" → record.Untargeted →
    (∀ target, ¬ FirstTarget decimal record.message target) → accessFilter checkNetloc decimal record = .ok true
  requests : ∀ (request : AccessRequest) record, request.WellFormed decimal → request.LoggedAs record →
    accessFilter checkNetloc decimal record = .ok (decide (request.path ∉ skipAccessLogPaths))
  raises : ∀ target message, keepsTarget checkNetloc target = .error message →
    ∃ netloc, checkNetloc netloc = .error message

end

example : accessFilter (fun _ => .ok ()) (fun c => if c.isDigit then some (c.toNat - 48) else none)
    ⟨"uvicorn.access", some [], "127.0.0.1:42124 - \"GET /readyz?probe=1 HTTP/1.1\" 200".toList⟩ = .ok false := rfl

end PetBackend.Config
