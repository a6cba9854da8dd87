import PetBackend.Domain.Models
import PetBackend.Library.Trimming

/-!
# Organization names

What `validate_org_name` guarantees of the name that it returns.
-/

namespace PetBackend
open Library

def TrimmedString (text : String) : Prop := Trimmed PyString.isSpace text.toList

/-- Hypotheses on `unicodedata.normalize("NFC", _)`. -/
structure UnicodeData.NfcLaws (u : UnicodeData) : Prop where
  idempotent : ∀ text, u.nfc (u.nfc text) = u.nfc text
  trimmed : ∀ text, TrimmedString text → TrimmedString (u.nfc text)
  /-- U+0000 neither composes nor decomposes. -/
  nul : ∀ text, '\x00' ∈ (u.nfc text).toList ↔ '\x00' ∈ text.toList

theorem strip_toList (text : String) :
    (PyString.strip text).toList = trim PyString.isSpace text.toList := by
  unfold PyString.strip
  rw [String.toList_ofList]
  rfl

theorem strip_trimmed (text : String) : TrimmedString (PyString.strip text) := by
  unfold TrimmedString
  rw [strip_toList]
  exact trim_trimmed _ _

theorem strip_nul (text : String) : '\x00' ∈ (PyString.strip text).toList ↔ '\x00' ∈ text.toList := by
  rw [strip_toList]
  exact mem_trim (by decide)

variable {u : UnicodeData} {v w : String}

/-- The rules that an accepted name meets. -/
structure Validated (u : UnicodeData) (v w : String) : Prop where
  normalized : w = normalizeOrgName u v
  minLen : orgNameMinLen ≤ w.length
  maxLen : w.length ≤ orgNameMaxLen
  canonicalMaxLen : (canonicalizeOrgName u w).length ≤ orgNameMaxLen

theorem validateOrgName_ok (accepted : validateOrgName u v = .ok w) : Validated u v w := by
  simp only [validateOrgName] at accepted
  split at accepted
  · cases accepted
  · split at accepted
    · cases accepted
    · split at accepted
      · cases accepted
      · split at accepted <;> cases accepted
        exact ⟨rfl, not_lt.mp ‹_›, not_lt.mp ‹_›, not_lt.mp ‹_›⟩

theorem Validated.fixed (idempotent : ∀ text, u.nfc (u.nfc text) = u.nfc text) (validated : Validated u v w) :
    u.nfc w = w := by
  rw [validated.normalized]
  exact idempotent _

theorem Validated.trimmed (trimmed : ∀ text, TrimmedString text → TrimmedString (u.nfc text))
    (validated : Validated u v w) : TrimmedString w := by
  rw [validated.normalized]
  exact trimmed _ (strip_trimmed v)

theorem Validated.nul (laws : u.NfcLaws) (validated : Validated u v w) :
    '\x00' ∈ w.toList ↔ '\x00' ∈ v.toList := by
  rw [validated.normalized]
  exact (laws.nul _).trans (strip_nul v)

/-! ### Validating twice -/

/-- Hypotheses on `unicodedata.normalize("NFC", _)`: whitespace characters neither arise from others nor
vanish into them. -/
structure UnicodeData.SpaceLaws (u : UnicodeData) : Prop where
  idempotent : ∀ text, u.nfc (u.nfc text) = u.nfc text
  spaces : ∀ text, Rewritten PyString.isSpace text.toList (u.nfc text).toList

theorem UnicodeData.SpaceLaws.trimmed (laws : u.SpaceLaws) (text : String) (trimmed : TrimmedString text) :
    TrimmedString (u.nfc text) := (laws.spaces text).trimmed.mp trimmed

/-- A name that meets every rule and is validated as it stands. -/
structure FixedName (u : UnicodeData) (w : String) : Prop where
  nfc : u.nfc w = w
  trimmed : TrimmedString w
  minLen : orgNameMinLen ≤ w.length
  maxLen : w.length ≤ orgNameMaxLen
  canonicalMaxLen : (canonicalizeOrgName u w).length ≤ orgNameMaxLen
  validated : validateOrgName u w = .ok w

theorem strip_fixed (trimmed : TrimmedString w) : PyString.strip w = w := by
  rw [← String.toList_inj, strip_toList]
  exact trim_fixed trimmed

theorem normalizeOrgName_fixed (nfc : u.nfc w = w) (trimmed : TrimmedString w) : normalizeOrgName u w = w := by
  unfold normalizeOrgName
  rw [strip_fixed trimmed, nfc]

/-- Nothing else is asked of a name. -/
theorem validateOrgName_iff : validateOrgName u v = .ok w ↔ Validated u v w := by
  refine ⟨validateOrgName_ok, ?_⟩
  rintro ⟨rfl, minLen, maxLen, canonicalMaxLen⟩
  have nonempty : normalizeOrgName u v ≠ "" := by
    intro empty
    rw [empty] at minLen
    exact absurd minLen (by decide)
  simp only [validateOrgName]
  rw [if_neg nonempty, if_neg (not_lt.mpr minLen), if_neg (not_lt.mpr maxLen),
    if_neg (not_lt.mpr canonicalMaxLen)]

theorem validateOrgName_fixed (laws : u.SpaceLaws) (accepted : validateOrgName u v = .ok w) : FixedName u w := by
  have validated := validateOrgName_ok accepted
  have nfc := validated.fixed laws.idempotent
  have trimmed := validated.trimmed laws.trimmed
  have same := normalizeOrgName_fixed nfc trimmed
  exact {
    nfc := nfc
    trimmed := trimmed
    minLen := validated.minLen
    maxLen := validated.maxLen
    canonicalMaxLen := validated.canonicalMaxLen
    validated := validateOrgName_iff.mpr ⟨same.symm, validated.minLen, validated.maxLen,
      validated.canonicalMaxLen⟩ }

theorem Name.create_ok (accepted : validateOrgName u v = .ok w) :
    Name.create u v = .ok ⟨w, v, accepted⟩ := by
  unfold Name.create
  split
  · rename_i result
    cases accepted.symm.trans result
    rfl
  · rename_i result
    cases accepted.symm.trans result

/-- Creating a name from the value of a name. -/
theorem Name.create_value (laws : u.SpaceLaws) (name : Name u) : Name.create u name.value = .ok name := by
  obtain ⟨value, raw, accepted⟩ := name
  exact Name.create_ok (validateOrgName_fixed laws accepted).validated

end PetBackend
