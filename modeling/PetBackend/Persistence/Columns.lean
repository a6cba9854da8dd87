import PetBackend.Domain.OrgNames
import PetBackend.Persistence.UnitOfWork

/-!
# What the columns accept

The text columns of `users`, and `organizations.name` with its check constraints and its generated
column, from `infra/sqla/db/models.py`.
-/

namespace PetBackend.Persistence
open Library

/-- PostgreSQL `text` holds every string without U+0000. -/
def Storable (text : String) : Prop := '\x00' ∉ text.toList

instance (text : String) : Decidable (Storable text) :=
  inferInstanceAs (Decidable ('\x00' ∉ text.toList))

/-- A `Text` column, or a `String(n)` one. -/
structure TextColumn where
  name : String
  maxLength : Option Nat := none
  nullable : Bool := false

def TextColumn.Accepts (column : TextColumn) : Option String → Prop
  | none => column.nullable = true
  | some text => Storable text ∧ ∀ n ∈ column.maxLength, text.length ≤ n

instance (column : TextColumn) (value : Option String) : Decidable (column.Accepts value) :=
  match value with
  | none => inferInstanceAs (Decidable (column.nullable = true))
  | some text => inferInstanceAs (Decidable (Storable text ∧ ∀ n ∈ column.maxLength, text.length ≤ n))

/-! ### `users` -/

def userColumns : List (TextColumn × (UserValues → Option String)) := [
  ({ name := "username" }, fun values => some values.username),
  ({ name := "first_name", maxLength := some 128, nullable := true }, UserValues.firstName),
  ({ name := "last_name", maxLength := some 128, nullable := true }, UserValues.lastName),
  ({ name := "email" }, fun values => some values.email),
  ({ name := "auth_issuer" }, fun values => some values.authIssuer),
  ({ name := "auth_subject" }, fun values => some values.authSubject)]

/-- Every text column accepts its value. The other columns of an insert are never null. -/
def ValuesFit (values : UserValues) : Prop :=
  ∀ entry ∈ userColumns, entry.1.Accepts (entry.2 values)

instance (values : UserValues) : Decidable (ValuesFit values) :=
  inferInstanceAs (Decidable (∀ entry ∈ userColumns, entry.1.Accepts (entry.2 values)))

/-! ### `organizations.name` -/

/-- The functions of PostgreSQL that the constraints call. -/
structure PgText where
  normalize : String → String
  casefold : String → String
  charLength : String → Nat

/-- Hypothesis: they are what Python's are. -/
structure PgText.Agrees (pg : PgText) (u : UnicodeData) : Prop where
  normalize : ∀ text, pg.normalize text = u.nfc text
  casefold : ∀ text, pg.casefold text = u.casefold text
  charLength : ∀ text, pg.charLength text = text.length

/-- `btrim` drops spaces only. -/
def btrim (text : String) : String := String.ofList (trim (· == ' ') text.toList)

section
variable (pg : PgText)

/-- `ORG_NAME_CANONICAL_SQL`. -/
def orgNameCanonicalSql (name : String) : String := pg.normalize (pg.casefold (pg.normalize name))

def nameColumn : TextColumn := { name := "name", maxLength := some orgNameMaxLen }

def nameChecks : List (String × (String → Bool)) := [
  ("name_trimmed", fun name => name == btrim name),
  ("name_nfc_normalized", fun name => pg.normalize name == name),
  ("name_min_len", fun name => orgNameMinLen ≤ pg.charLength name),
  ("name_casefold_max_len", fun name => pg.charLength (orgNameCanonicalSql pg name) ≤ orgNameMaxLen)]

/-- Why an insert of a name is refused, uniqueness apart. -/
inductive Refusal where
  /-- An invalid byte sequence, which no branch of `determine_exc` classifies. -/
  | invalidText
  | rightTruncation
  | checkViolation (constraint : String)
  deriving DecidableEq

def nameRefusals (name : String) : List Refusal :=
  (if Storable name then [] else [.invalidText]) ++
  (if name.length ≤ orgNameMaxLen then [] else [.rightTruncation]) ++
  ((nameChecks pg).filter fun check => !check.2 name).map fun check => .checkViolation check.1

/-- The storage rules of a name, with the canonical form that is generated for it. -/
structure NameStored (name canonical : String) : Prop where
  column : nameColumn.Accepts (some name)
  checks : ∀ constraint check, (constraint, check) ∈ nameChecks pg → check name = true
  generated : orgNameCanonicalSql pg name = canonical

end

section
variable {pg : PgText} {u : UnicodeData} {v w : String}

theorem btrim_fixed (trimmed : TrimmedString w) : btrim w = w := by
  have spaces : Trimmed (· == ' ') w.toList := trimmed.mono fun c space => by
    cases beq_iff_eq.mp space
    decide
  unfold btrim
  rw [trim_fixed spaces, String.ofList_toList]

theorem generated_eq (agrees : pg.Agrees u) (laws : u.NfcLaws) (validated : Validated u v w) :
    orgNameCanonicalSql pg w = canonicalizeOrgName u w := by
  unfold orgNameCanonicalSql canonicalizeOrgName
  rw [agrees.normalize, agrees.casefold, agrees.normalize, validated.fixed laws.idempotent]

theorem checks_pass (agrees : pg.Agrees u) (laws : u.NfcLaws) (validated : Validated u v w)
    (constraint : String) (check : String → Bool) (among : (constraint, check) ∈ nameChecks pg) :
    check w = true := by
  simp only [nameChecks, List.mem_cons, Prod.mk.injEq, List.not_mem_nil, or_false] at among
  rcases among with ⟨-, rfl⟩ | ⟨-, rfl⟩ | ⟨-, rfl⟩ | ⟨-, rfl⟩
  · exact beq_iff_eq.mpr (btrim_fixed (validated.trimmed laws.trimmed)).symm
  · refine beq_iff_eq.mpr ?_
    rw [agrees.normalize, validated.fixed laws.idempotent]
  · refine decide_eq_true ?_
    rw [agrees.charLength]
    exact validated.minLen
  · refine decide_eq_true ?_
    rw [generated_eq agrees laws validated, agrees.charLength]
    exact validated.canonicalMaxLen

/-- What is stored of an accepted name is what was validated, unless it holds U+0000. -/
theorem names_agree (agrees : pg.Agrees u) (laws : u.NfcLaws) (accepted : validateOrgName u v = .ok w) :
    (NameStored pg w (canonicalizeOrgName u w) ↔ Storable v) ∧
    nameRefusals pg w = if Storable v then [] else [.invalidText] := by
  have validated := validateOrgName_ok accepted
  have storable : Storable w ↔ Storable v := not_congr (validated.nul laws)
  have checks := checks_pass agrees laws validated
  refine ⟨⟨fun stored => storable.mp stored.column.1, fun storableV => ?_⟩, ?_⟩
  · refine ⟨⟨storable.mpr storableV, fun n limit => ?_⟩, checks, generated_eq agrees laws validated⟩
    cases limit
    exact validated.maxLen
  · have passed : (nameChecks pg).filter (fun check => !check.2 w) = [] := by
      refine List.filter_eq_nil_iff.mpr fun check among => ?_
      rw [checks check.1 check.2 among]
      decide
    unfold nameRefusals
    rw [passed, if_pos validated.maxLen, List.map_nil, List.append_nil, List.append_nil]
    by_cases kept : Storable v
    · rw [if_pos kept, if_pos (storable.mpr kept)]
    · rw [if_neg kept, if_neg fun inside => kept (storable.mp inside)]

end

/-! ### Names without combining marks -/

def plainUnicode : UnicodeData := ⟨id, id⟩

def plainPg : PgText := ⟨id, id, String.length⟩

theorem plainPg_agrees : plainPg.Agrees plainUnicode := ⟨fun _ => rfl, fun _ => rfl, fun _ => rfl⟩

theorem plainUnicode_laws : plainUnicode.NfcLaws :=
  ⟨fun _ => rfl, fun _ trimmed => trimmed, fun _ => Iff.rfl⟩

theorem names_agree_sample :
    NameStored plainPg "Acme" (canonicalizeOrgName plainUnicode "Acme") ∧ nameRefusals plainPg "Acme" = [] := by
  have accepted : validateOrgName plainUnicode " Acme " = .ok "Acme" := by rfl
  have storable : Storable " Acme " := by decide
  obtain ⟨stored, refusals⟩ := names_agree plainPg_agrees plainUnicode_laws accepted
  rw [if_pos storable] at refusals
  exact ⟨stored.mpr storable, refusals⟩

/-- U+0000 is neither whitespace nor counted out. -/
theorem nul_refused : validateOrgName plainUnicode "a\x00bc" = .ok "a\x00bc" ∧
    ¬ NameStored plainPg "a\x00bc" (canonicalizeOrgName plainUnicode "a\x00bc") ∧
    nameRefusals plainPg "a\x00bc" = [.invalidText] := by
  have accepted : validateOrgName plainUnicode "a\x00bc" = .ok "a\x00bc" := by rfl
  have lost : ¬ Storable "a\x00bc" := by decide
  refine ⟨accepted, fun stored => lost stored.column.1, by decide +kernel⟩

end PetBackend.Persistence
