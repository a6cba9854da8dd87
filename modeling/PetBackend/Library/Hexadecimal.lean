import Mathlib.Data.Nat.Digits.Defs

/-!
# Hexadecimal numerals

Numerals of a fixed width, most significant digit first, and the value of a text of digits of either case.
-/

namespace PetBackend.Library

def hexValue (c : Char) : Option Nat :=
  if '0' ≤ c ∧ c ≤ '9' then some (c.toNat - '0'.toNat)
  else if 'a' ≤ c ∧ c ≤ 'f' then some (c.toNat - 'a'.toNat + 10)
  else if 'A' ≤ c ∧ c ≤ 'F' then some (c.toNat - 'A'.toNat + 10)
  else none

def isHex (c : Char) : Bool := (hexValue c).isSome

/-- The last `width` digits of a number. -/
def hexNumeral : Nat → Nat → List Char
  | 0, _ => []
  | width + 1, n => hexNumeral width (n / 16) ++ [Nat.digitChar (n % 16)]

/-- The value of a text of digits, after those that stand for `acc`. -/
def hexFold (acc : Nat) (digits : List Char) : Nat :=
  digits.foldl (fun acc c => 16 * acc + (hexValue c).getD 0) acc

theorem hexValue_digitChar {d : Nat} (small : d < 16) : hexValue (Nat.digitChar d) = some d := by
  have all : ∀ d < 16, hexValue (Nat.digitChar d) = some d := by decide
  exact all d small

theorem hexNumeral_length (width n : Nat) : (hexNumeral width n).length = width := by
  induction width generalizing n with
  | zero => rfl
  | succ width ih => rw [hexNumeral, List.length_append, ih, List.length_singleton]

theorem mem_hexNumeral {width n : Nat} {c : Char} (member : c ∈ hexNumeral width n) :
    ∃ d < 16, c = Nat.digitChar d := by
  induction width generalizing n with
  | zero => cases member
  | succ width ih =>
    rcases List.mem_append.mp member with earlier | last
    · exact ih earlier
    · exact ⟨n % 16, Nat.mod_lt n (by decide), List.mem_singleton.mp last⟩

theorem hexNumeral_isHex {width n : Nat} {c : Char} (member : c ∈ hexNumeral width n) : isHex c := by
  obtain ⟨d, small, rfl⟩ := mem_hexNumeral member
  unfold isHex
  rw [hexValue_digitChar small]
  rfl

theorem hexFold_append (acc : Nat) (first second : List Char) :
    hexFold acc (first ++ second) = hexFold (hexFold acc first) second := List.foldl_append

/-- A numeral stands for the number, up to what does not fit the width. -/
theorem hexFold_hexNumeral (width n : Nat) : hexFold 0 (hexNumeral width n) = n % 16 ^ width := by
  induction width generalizing n with
  | zero => rw [Nat.pow_zero, Nat.mod_one]; rfl
  | succ width ih =>
    have small : n % 16 < 16 := Nat.mod_lt n (by decide)
    have last (acc : Nat) : hexFold acc [Nat.digitChar (n % 16)] = 16 * acc + n % 16 := by
      show 16 * acc + (hexValue (Nat.digitChar (n % 16))).getD 0 = _
      rw [hexValue_digitChar small]
      rfl
    rw [hexNumeral, hexFold_append, ih, last, Nat.pow_succ', Nat.mod_mul]
    omega

end PetBackend.Library
