import PetBackend.Domain.Models
import PetBackend.Library.Trimming
import PetBackend.PyInt

/-!
# Request ids

`_parse_request_id` of `api/middleware/http_logging.py`, with the parser and the two texts of `uuid.UUID`.
-/

namespace PetBackend.Api
open Library

/-- `text.replace(pattern, "")`. The number counts what is left of an occurrence. -/
def removeFrom (pattern : List Char) : Nat → List Char → List Char
  | _, [] => []
  | skip + 1, _ :: rest => removeFrom pattern skip rest
  | 0, c :: rest =>
    if pattern.isPrefixOf (c :: rest) then removeFrom pattern (pattern.length - 1) rest
    else c :: removeFrom pattern 0 rest

def isBrace (c : Char) : Bool := c = '\x7b' || c = '\x7d'

section
variable (decimal : Char → Option Nat)

/-- `UUID(hex)`. None is `ValueError`. -/
def parseUuid (hex : String) : Option UUID := do
  let hex := removeFrom "uuid:".toList 0 (removeFrom "urn:".toList 0 hex.toList)
  let hex := (trim isBrace hex).filter (· ≠ '-')
  if hex.length ≠ 32 then none
  else
    let int ← PyInt.int16 decimal hex
    if 0 ≤ int ∧ int < 2 ^ 128 then some (BitVec.ofInt 128 int) else none

/-- `uuid.hex`. -/
def uuidHex (id : UUID) : String := String.ofList (hexNumeral 32 id.toNat)

/-- `str(uuid)`. -/
def uuidStr (id : UUID) : String :=
  let x := hexNumeral 32 id.toNat
  String.ofList (x.take 8 ++ ['-'] ++ (x.drop 8).take 4 ++ ['-'] ++ (x.drop 12).take 4 ++ ['-'] ++
    (x.drop 16).take 4 ++ ['-'] ++ x.drop 20)

/-- `fresh` is the value that `uuid4()` would return. -/
def parseRequestId (raw : Option String) (fresh : UUID) : String :=
  match raw with
  | none | some "" => uuidHex fresh
  | some raw =>
    match parseUuid decimal raw with
    | some id => uuidStr id
    | none => uuidHex fresh

end

/-! ### Spellings -/

/-- The digits of the id, in either case and with hyphens anywhere, between braces and after a prefix. -/
structure Spells (id : UUID) (text : String) : Prop where
  parts : ∃ head ∈ ["", "urn:", "uuid:", "urn:uuid:"], ∃ left body right : List Char,
    text.toList = head.toList ++ (left ++ body ++ right) ∧
    (∀ c ∈ left, isBrace c) ∧ (∀ c ∈ right, isBrace c) ∧ (∀ c ∈ body, isHex c ∨ c = '-') ∧
    (body.filter (· ≠ '-')).length = 32 ∧ hexFold 0 (body.filter (· ≠ '-')) = id.toNat

section
variable {decimal : Char → Option Nat} {id : UUID}

theorem removeFrom_none {pattern : List Char} {first : Char} {text : List Char}
    (starts : pattern.head? = some first) (absent : first ∉ text) : removeFrom pattern 0 text = text := by
  induction text with
  | nil => rfl
  | cons c rest ih =>
    obtain ⟨other, later⟩ := List.ne_and_not_mem_of_not_mem_cons absent
    have differs : ¬ pattern.isPrefixOf (c :: rest) := by
      intro prefixed
      cases pattern with
      | nil => cases starts
      | cons d pattern =>
        cases starts
        exact other (of_decide_eq_true (Bool.and_eq_true_iff.mp prefixed).1)
    rw [removeFrom, if_neg differs, ih later]

theorem removeFrom_skip (pattern skipped rest : List Char) :
    removeFrom pattern skipped.length (skipped ++ rest) = removeFrom pattern 0 rest := by
  induction skipped with
  | nil => rfl
  | cons c skipped ih => exact ih

theorem removeFrom_head {first : Char} {pattern rest : List Char} :
    removeFrom (first :: pattern) 0 (first :: pattern ++ rest) = removeFrom (first :: pattern) 0 rest := by
  have prefixed : (first :: pattern).isPrefixOf (first :: (pattern ++ rest)) :=
    List.isPrefixOf_iff_prefix.mpr ⟨rest, rfl⟩
  show removeFrom (first :: pattern) 0 (first :: (pattern ++ rest)) = _
  rw [removeFrom, if_pos prefixed]
  exact removeFrom_skip _ pattern rest

/-- No prefix starts inside a spelling. -/
theorem heads_removed {head : String} (known : head ∈ ["", "urn:", "uuid:", "urn:uuid:"]) {text : List Char}
    (absent : 'u' ∉ text) :
    removeFrom "uuid:".toList 0 (removeFrom "urn:".toList 0 (head.toList ++ text)) = text := by
  have urn : "urn:".toList = ['u', 'r', 'n', ':'] := rfl
  have uuid : "uuid:".toList = ['u', 'u', 'i', 'd', ':'] := rfl
  have plain (pattern : List Char) (starts : pattern.head? = some 'u') : removeFrom pattern 0 text = text :=
    removeFrom_none starts absent
  have kept : removeFrom ['u', 'r', 'n', ':'] 0 (['u', 'u', 'i', 'd', ':'] ++ text) =
      ['u', 'u', 'i', 'd', ':'] ++ text := by
    have rest : removeFrom ['u', 'r', 'n', ':'] 0 text = text := plain _ rfl
    simp [removeFrom, rest, List.isPrefixOf]
  simp only [List.mem_cons, List.not_mem_nil, or_false] at known
  rw [urn, uuid]
  rcases known with rfl | rfl | rfl | rfl
  · rw [String.toList_empty, List.nil_append, plain _ rfl, plain _ rfl]
  · rw [urn, removeFrom_head, plain _ rfl, plain _ rfl]
  · rw [uuid, kept, removeFrom_head, plain _ rfl]
  · have both : "urn:uuid:".toList = ['u', 'r', 'n', ':'] ++ ['u', 'u', 'i', 'd', ':'] := rfl
    rw [both, List.append_assoc, removeFrom_head, kept, removeFrom_head, plain _ rfl]

theorem body_char {c : Char} (plain : isHex c ∨ c = '-') : ¬ isBrace c ∧ c ≠ 'u' := by
  refine ⟨fun brace => ?_, ?_⟩
  · simp only [isBrace, Bool.or_eq_true, decide_eq_true_eq] at brace
    rcases brace with rfl | rfl <;> exact absurd plain (by decide)
  · rintro rfl
    exact absurd plain (by decide)

theorem trim_braces {left body right : List Char} (before : ∀ c ∈ left, isBrace c) (after : ∀ c ∈ right, isBrace c)
    (plain : ∀ c ∈ body, ¬ isBrace c) (nonempty : body ≠ []) : trim isBrace (left ++ body ++ right) = body := by
  have start : (left ++ (body ++ right)).dropWhile isBrace = body ++ right := by
    rw [List.dropWhile_append_of_pos before]
    cases body with
    | nil => exact (nonempty rfl).elim
    | cons c rest => exact List.dropWhile_cons_of_neg (plain c List.mem_cons_self)
  have final : (right.reverse ++ body.reverse).dropWhile isBrace = body.reverse := by
    rw [List.dropWhile_append_of_pos fun c member => after c (List.mem_reverse.mp member)]
    cases reversed : body.reverse with
    | nil => exact (nonempty (List.reverse_eq_nil_iff.mp reversed)).elim
    | cons c rest =>
      have inside : c ∈ body := List.mem_reverse.mp (reversed ▸ List.mem_cons_self)
      exact List.dropWhile_cons_of_neg (plain c inside)
  unfold trim List.rdropWhile
  rw [List.append_assoc, start, List.reverse_append, final, List.reverse_reverse]

theorem spells_parses {text : String} (spells : Spells id text) : parseUuid decimal text = some id := by
  obtain ⟨head, known, left, body, right, written, before, after, plain, length, value⟩ := spells.parts
  have nonempty : body.filter (· ≠ '-') ≠ [] := by
    intro empty
    rw [empty] at length
    cases length
  have bodyNonempty : body ≠ [] := by
    rintro rfl
    exact nonempty rfl
  have absent : 'u' ∉ left ++ body ++ right := by
    intro member
    rcases List.mem_append.mp member with member | last
    · rcases List.mem_append.mp member with first | inside
      · exact absurd (before 'u' first) (by decide)
      · exact (body_char (plain 'u' inside)).2 rfl
    · exact absurd (after 'u' last) (by decide)
  have hex : ∀ c ∈ body.filter (· ≠ '-'), isHex c := by
    intro c member
    obtain ⟨inside, other⟩ := List.mem_filter.mp member
    exact (plain c inside).resolve_right (of_decide_eq_true other)
  have bounds : (0 : Int) ≤ id.toNat ∧ (id.toNat : Int) < 2 ^ 128 :=
    ⟨Int.natCast_nonneg _, by exact_mod_cast id.isLt⟩
  have back : BitVec.ofInt 128 id.toNat = id := by
    rw [BitVec.ofInt_natCast, BitVec.ofNat_toNat, BitVec.setWidth_eq]
  have trimmed : trim isBrace (left ++ body ++ right) = body :=
    trim_braces before after (fun c inside => (body_char (plain c inside)).1) bodyNonempty
  simp only [parseUuid, written, heads_removed known absent, trimmed]
  rw [if_neg (not_not_intro length), PyInt.int16_hex hex nonempty, value, Option.bind_eq_bind, Option.bind_some,
    if_pos bounds, back]

/-! ### The two texts -/

theorem hexNumeral_value (id : UUID) : hexFold 0 (hexNumeral 32 id.toNat) = id.toNat := by
  rw [hexFold_hexNumeral, Nat.mod_eq_of_lt]
  exact id.isLt

theorem uuidHex_spells (id : UUID) : Spells id (uuidHex id) := by
  have hex : ∀ c ∈ hexNumeral 32 id.toNat, isHex c := fun c member => hexNumeral_isHex member
  have kept : (hexNumeral 32 id.toNat).filter (· ≠ '-') = hexNumeral 32 id.toNat := by
    refine List.filter_eq_self.mpr fun c member => decide_eq_true ?_
    rintro rfl
    exact absurd (hex '-' member) (by decide)
  refine ⟨"", by simp, [], hexNumeral 32 id.toNat, [], by simp [uuidHex], nofun, nofun, ?_, ?_, ?_⟩
  · exact fun c member => Or.inl (hex c member)
  · rw [kept, hexNumeral_length]
  · rw [kept, hexNumeral_value]

theorem uuidStr_toList (id : UUID) : ∃ a b c d e : List Char, hexNumeral 32 id.toNat = a ++ b ++ c ++ d ++ e ∧
    (uuidStr id).toList = a ++ ['-'] ++ b ++ ['-'] ++ c ++ ['-'] ++ d ++ ['-'] ++ e := by
  refine ⟨_, _, _, _, _, ?_, String.toList_ofList⟩
  have split (l : List Char) (n : Nat) : l.take n ++ l.drop n = l := List.take_append_drop n l
  have rest (n m : Nat) : ((hexNumeral 32 id.toNat).drop n).take m ++ (hexNumeral 32 id.toNat).drop (n + m) =
      (hexNumeral 32 id.toNat).drop n := by
    rw [← List.drop_drop]
    exact split _ m
  rw [List.append_assoc, rest 16 4, List.append_assoc, rest 12 4, List.append_assoc, rest 8 4, split]

theorem uuidStr_spells (id : UUID) : Spells id (uuidStr id) := by
  have hex : ∀ c ∈ hexNumeral 32 id.toNat, isHex c := fun c member => hexNumeral_isHex member
  obtain ⟨a, b, c, d, e, whole, written⟩ := uuidStr_toList id
  have kept {part : List Char} (inside : ∀ c ∈ part, c ∈ hexNumeral 32 id.toNat) :
      part.filter (· ≠ '-') = part := by
    refine List.filter_eq_self.mpr fun c member => decide_eq_true ?_
    rintro rfl
    exact absurd (hex '-' (inside '-' member)) (by decide)
  have hyphen : ['-'].filter (· ≠ '-') = [] := rfl
  have filtered : (a ++ ['-'] ++ b ++ ['-'] ++ c ++ ['-'] ++ d ++ ['-'] ++ e).filter (· ≠ '-') =
      hexNumeral 32 id.toNat := by
    simp only [List.filter_append, hyphen, List.append_nil]
    rw [kept, kept, kept, kept, kept, whole] <;> (intro c member; rw [whole]; simp [member])
  rw [← written] at filtered
  refine ⟨"", by simp, [], (uuidStr id).toList, [], by simp, nofun, nofun, ?_, ?_, ?_⟩
  · intro c member
    by_cases other : c = '-'
    · exact Or.inr other
    · refine Or.inl (hex c ?_)
      rw [← filtered]
      exact List.mem_filter.mpr ⟨member, decide_eq_true other⟩
  · rw [filtered, hexNumeral_length]
  · rw [filtered, hexNumeral_value]

/-! ### The id of a request -/

def idAlphabet : List Char := "0123456789abcdef-".toList

theorem hexNumeral_alphabet {width n : Nat} {c : Char} (member : c ∈ hexNumeral width n) : c ∈ idAlphabet := by
  obtain ⟨d, small, rfl⟩ := mem_hexNumeral member
  have all : ∀ d < 16, Nat.digitChar d ∈ idAlphabet := by decide
  exact all d small

theorem uuidHex_alphabet (id : UUID) : ∀ c ∈ (uuidHex id).toList, c ∈ idAlphabet := by
  intro c member
  rw [uuidHex, String.toList_ofList] at member
  exact hexNumeral_alphabet member

theorem uuidStr_alphabet (id : UUID) : ∀ c ∈ (uuidStr id).toList, c ∈ idAlphabet := by
  obtain ⟨a, b, c, d, e, whole, written⟩ := uuidStr_toList id
  intro char member
  have digits : ∀ char ∈ a ++ b ++ c ++ d ++ e, char ∈ idAlphabet := fun char inside =>
    hexNumeral_alphabet (whole ▸ inside)
  have hyphen : '-' ∈ idAlphabet := by decide
  simp only [written, List.mem_append, List.mem_singleton] at member
  simp only [List.mem_append] at digits
  rcases member with (((((((first | rfl) | second) | rfl) | third) | rfl) | fourth) | rfl) | fifth
  · exact digits char (Or.inl (Or.inl (Or.inl (Or.inl first))))
  · exact hyphen
  · exact digits char (Or.inl (Or.inl (Or.inl (Or.inr second))))
  · exact hyphen
  · exact digits char (Or.inl (Or.inl (Or.inr third)))
  · exact hyphen
  · exact digits char (Or.inl (Or.inr fourth))
  · exact hyphen
  · exact digits char (Or.inr fifth)

theorem Spells.nonempty {text : String} (spells : Spells id text) : text ≠ "" := by
  rintro rfl
  obtain ⟨head, known, left, body, right, written, before, after, plain, length, value⟩ := spells.parts
  have empty : body = [] := by
    have none := (List.append_eq_nil_iff.mp written.symm).2
    exact (List.append_eq_nil_iff.mp (List.append_eq_nil_iff.mp none).1).2
  rw [empty] at length
  cases length

theorem parseRequestId_spells {sent : String} (spells : Spells id sent) (fresh : UUID) :
    parseRequestId decimal (some sent) fresh = uuidStr id := by
  unfold parseRequestId
  split
  · rename_i missing
    cases missing
  · rename_i empty
    exact (spells.nonempty (Option.some.inj empty)).elim
  · rename_i raw _ same
    cases same
    rw [spells_parses spells]

theorem parseRequestId_cases (decimal : Char → Option Nat) (raw : Option String) (fresh : UUID) :
    (∃ id, parseRequestId decimal raw fresh = uuidStr id) ∨ parseRequestId decimal raw fresh = uuidHex fresh := by
  unfold parseRequestId
  split
  · exact Or.inr rfl
  · exact Or.inr rfl
  · split
    · exact Or.inl ⟨_, rfl⟩
    · exact Or.inr rfl

theorem parseRequestId_nonempty (decimal : Char → Option Nat) (raw : Option String) (fresh : UUID) :
    parseRequestId decimal raw fresh ≠ "" := by
  rcases parseRequestId_cases decimal raw fresh with ⟨id, same⟩ | same
  · rw [same]
    exact (uuidStr_spells id).nonempty
  · rw [same]
    exact (uuidHex_spells fresh).nonempty

/-- Upper case, braces and the prefix of a URN go. -/
example : parseRequestId (fun _ => none) (some "urn:uuid:{0000000000000000000000000000ABCD}") 0 =
    "00000000-0000-0000-0000-00000000abcd" := by decide

end

end PetBackend.Api
