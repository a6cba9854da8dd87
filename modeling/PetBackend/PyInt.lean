import PetBackend.Library.Hexadecimal
import PetBackend.PyString

/-!
# `int(value, 16)`

As CPython reads it: Unicode digits and spaces are made ASCII first, spaces may surround the number, and
a sign, a `0x` and single underscores may stand in it.
-/

namespace PetBackend.PyInt
open Library

/-- `isspace` of C. -/
def isSpace (c : Char) : Bool := c ∈ [' ', '\t', '\n', '\x0b', '\x0c', '\r']

section
variable (decimal : Char → Option Nat)

/-- `decimal` is `unicodedata.decimal`. What is neither a digit nor a space ends the text. -/
def toAscii : List Char → List Char
  | [] => []
  | c :: rest =>
    if c.toNat < 127 then c :: toAscii rest
    else if PyString.isSpace c then ' ' :: toAscii rest
    else match decimal c with
      | some digit => Nat.digitChar digit :: toAscii rest
      | none => ['?']

/-- The number at the start of a text and what follows it. `previous` is the character before, an underscore
at the start of the number. -/
def readDigits (acc : Nat) (previous : Char) : List Char → Option (Nat × List Char)
  | [] => if previous = '_' then none else some (acc, [])
  | c :: rest =>
    match hexValue c with
    | some digit => readDigits (16 * acc + digit) c rest
    | none =>
      if previous = '_' then none
      else if c = '_' then readDigits acc c rest
      else some (acc, c :: rest)

def readSign : List Char → Int × List Char
  | '+' :: rest => (1, rest)
  | '-' :: rest => (-1, rest)
  | text => (1, text)

def dropBase : List Char → List Char
  | '0' :: 'x' :: '_' :: rest | '0' :: 'X' :: '_' :: rest => rest
  | '0' :: 'x' :: rest | '0' :: 'X' :: rest => rest
  | text => text

/-- None is `ValueError`. -/
def int16 (value : List Char) : Option Int := do
  let (sign, text) := readSign ((toAscii decimal value).dropWhile isSpace)
  let (n, rest) ← readDigits 0 '_' (dropBase text)
  if rest.dropWhile isSpace = [] then some (sign * n) else none

end

/-! ### Texts of digits -/

section
variable {decimal : Char → Option Nat} {digits : List Char}

theorem isHex_cases {c : Char} (hex : isHex c) :
    ('0' ≤ c ∧ c ≤ '9') ∨ ('a' ≤ c ∧ c ≤ 'f') ∨ ('A' ≤ c ∧ c ≤ 'F') := by
  unfold isHex hexValue at hex
  split at hex
  · exact Or.inl ‹_›
  · split at hex
    · exact Or.inr (Or.inl ‹_›)
    · split at hex
      · exact Or.inr (Or.inr ‹_›)
      · cases hex

theorem isHex_ascii {c : Char} (hex : isHex c) : c.toNat < 127 := by
  have below {last : Char} (atMost : c ≤ last) (small : last.toNat < 127) : c.toNat < 127 :=
    Nat.lt_of_le_of_lt atMost small
  rcases isHex_cases hex with ⟨-, high⟩ | ⟨-, high⟩ | ⟨-, high⟩
  · exact below high (by decide)
  · exact below high (by decide)
  · exact below high (by decide)

theorem toAscii_hex (hex : ∀ c ∈ digits, isHex c) : toAscii decimal digits = digits := by
  induction digits with
  | nil => rfl
  | cons c rest ih =>
    obtain ⟨here, later⟩ := List.forall_mem_cons.mp hex
    rw [toAscii, if_pos (isHex_ascii here), ih later]

theorem readDigits_hex (hex : ∀ c ∈ digits, isHex c) (acc : Nat) {previous : Char}
    (nonempty : digits ≠ [] ∨ previous ≠ '_') :
    readDigits acc previous digits = some (hexFold acc digits, []) := by
  induction digits generalizing acc previous with
  | nil =>
    rw [readDigits, if_neg (nonempty.resolve_left (not_not_intro rfl))]
    rfl
  | cons c rest ih =>
    obtain ⟨here, later⟩ := List.forall_mem_cons.mp hex
    obtain ⟨digit, value⟩ := Option.isSome_iff_exists.mp here
    have other : c ≠ '_' := by
      rintro rfl
      exact absurd here (by decide)
    have folds : hexFold acc (c :: rest) = hexFold (16 * acc + digit) rest := by
      show hexFold (16 * acc + (hexValue c).getD 0) rest = _
      rw [value]
      rfl
    rw [folds, readDigits, value]
    exact ih later _ (Or.inr other)

theorem readSign_hex (hex : ∀ c ∈ digits, isHex c) : readSign digits = (1, digits) := by
  unfold readSign
  split
  · exact absurd (hex '+' List.mem_cons_self) (by decide)
  · exact absurd (hex '-' List.mem_cons_self) (by decide)
  · rfl

theorem dropBase_hex (hex : ∀ c ∈ digits, isHex c) : dropBase digits = digits := by
  have second {mark : Char} {rest : List Char} (other : ¬ isHex mark) : digits ≠ '0' :: mark :: rest := by
    rintro rfl
    exact other (hex mark (List.mem_cons_of_mem _ List.mem_cons_self))
  unfold dropBase
  split
  · exact (second (by decide) rfl).elim
  · exact (second (by decide) rfl).elim
  · exact (second (by decide) rfl).elim
  · exact (second (by decide) rfl).elim
  · rfl

theorem int16_hex (hex : ∀ c ∈ digits, isHex c) (nonempty : digits ≠ []) :
    int16 decimal digits = some ((hexFold 0 digits : Nat) : Int) := by
  have start : digits.dropWhile isSpace = digits := by
    cases digits with
    | nil => rfl
    | cons c rest =>
      refine List.dropWhile_cons_of_neg fun space => ?_
      have here := hex c List.mem_cons_self
      simp only [isSpace, List.mem_cons, List.not_mem_nil, or_false, decide_eq_true_eq] at space
      rcases space with rfl | rfl | rfl | rfl | rfl | rfl <;> exact absurd here (by decide)
  have read : readDigits 0 '_' digits = some (hexFold 0 digits, []) := readDigits_hex hex 0 (Or.inl nonempty)
  unfold int16
  rw [toAscii_hex hex, start, readSign_hex hex]
  dsimp only
  rw [dropBase_hex hex, read]
  show (if ([] : List Char).dropWhile isSpace = [] then some ((1 : Int) * (hexFold 0 digits : Nat)) else none) = _
  rw [List.dropWhile_nil, if_pos rfl, Int.one_mul]

end

end PetBackend.PyInt
