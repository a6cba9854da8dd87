import Mathlib.Algebra.Order.Field.Basic
import Mathlib.Algebra.Order.Floor.Semiring
import Mathlib.Tactic.Linarith
import Mathlib.Tactic.Ring

/-!
# Events a minimum gap apart

Times listed newest first, any two of them at least `gap` apart, are few in any window.
-/

namespace Spacing

variable {F : Type*} [Field F] [LinearOrder F] [IsStrictOrderedRing F]

/-- Newest first, each at least `gap` after every older one. -/
def Spaced (gap : F) (times : List F) : Prop :=
  times.Pairwise (fun newer older => gap ≤ newer - older)

omit [IsStrictOrderedRing F] in
theorem spaced_nil (gap : F) : Spaced gap [] := List.Pairwise.nil

omit [IsStrictOrderedRing F] in
theorem spaced_cons {gap time : F} {times : List F} (after : ∀ older ∈ times, gap ≤ time - older)
    (spaced : Spaced gap times) : Spaced gap (time :: times) :=
  List.Pairwise.cons after spaced

theorem spaced_push {gap time newest : F} {times : List F} (positive : 0 < gap)
    (spaced : Spaced gap (newest :: times)) (after : gap ≤ time - newest) :
    ∀ older ∈ newest :: times, gap ≤ time - older := by
  intro older member
  rcases List.mem_cons.mp member with rfl | member
  · exact after
  · have apart := (List.pairwise_cons.mp spaced).1 older member
    linarith

theorem spaced_span {gap start newest : F} {times : List F} (spaced : Spaced gap (newest :: times))
    (later : ∀ time ∈ newest :: times, start ≤ time) : times.length * gap ≤ newest - start := by
  induction times generalizing newest with
  | nil => simpa using later newest (by simp)
  | cons next rest ih =>
    have tail := (List.pairwise_cons.mp spaced).2
    have apart := (List.pairwise_cons.mp spaced).1 next (by simp)
    have shorter := ih tail (fun time member => later time (List.mem_cons_of_mem _ member))
    calc ((next :: rest).length : F) * gap = rest.length * gap + gap := by
          rw [List.length_cons, Nat.cast_succ]
          ring
      _ ≤ (next - start) + (newest - next) := add_le_add shorter apart
      _ = newest - start := by ring

/-- A closed window of length `width` holds at most `⌊width / gap⌋ + 1` events. -/
theorem spaced_window [FloorSemiring F] {gap : F} {times : List F} (positive : 0 < gap)
    (spaced : Spaced gap times) (start width : F) :
    (times.filter (fun time => start ≤ time ∧ time ≤ start + width)).length ≤
      ⌊width / gap⌋₊ + 1 := by
  have inside : ∀ time ∈ times.filter (fun time => start ≤ time ∧ time ≤ start + width),
      start ≤ time ∧ time ≤ start + width := fun time member => by
    simpa using (List.mem_filter.mp member).2
  have sparse : Spaced gap (times.filter (fun time => start ≤ time ∧ time ≤ start + width)) :=
    spaced.sublist List.filter_sublist
  cases kept : times.filter (fun time => start ≤ time ∧ time ≤ start + width) with
  | nil => simp
  | cons newest rest =>
    rw [kept] at inside sparse
    have span := spaced_span sparse (fun time member => (inside time member).1)
    have last := (inside newest (by simp)).2
    have fits : (rest.length : F) ≤ width / gap := by
      rw [le_div_iff₀ positive]
      linarith
    simpa using Nat.le_floor fits

end Spacing
