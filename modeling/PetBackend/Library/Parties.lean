import Mathlib.Data.DFinsupp.WellFounded
import Mathlib.Order.Fin.Basic

/-!
# Parties that come to an end

Finitely many parties take steps in any order. If each step leaves one of them with less to do, and somebody can
go on as long as the end is not reached, then it is reached on every way.
-/

namespace PetBackend.Library

section
variable {S : Type} {may will : S → S → Prop} {final : S → Prop}

/-- Nobody has to wait for a step that cannot be had, and whichever steps happen, the end comes. What stops a
party from outside may happen, but it is not what the others wait for. -/
inductive Inevitable (may will : S → S → Prop) (final : S → Prop) : S → Prop where
  | now {s : S} (reached : final s) : Inevitable may will final s
  | later {s t : S} (enabled : will s t) (all : ∀ t, may s t → Inevitable may will final t) :
      Inevitable may will final s

theorem inevitable_of {inv : S → Prop} (kept : ∀ s t, inv s → may s t → inv t)
    (progress : ∀ s, inv s → ¬ final s → ∃ t, will s t) {s : S} (ends : Acc (fun t s => inv s ∧ may s t) s)
    (valid : inv s) : Inevitable may will final s := by
  induction ends with
  | intro s _ ih =>
    by_cases reached : final s
    · exact .now reached
    · obtain ⟨t, enabled⟩ := progress s valid reached
      exact .later enabled fun t moved => ih t ⟨valid, moved⟩ (kept s t valid moved)

end

section
variable {α : Type} {n : Nat}

/-- One party has less to do than before, the others as much as before. -/
def Lowers (less : α → α → Prop) (after before : Fin n → α) : Prop :=
  ∃ i, less (after i) (before i) ∧ ∀ j, j ≠ i → after j = before j

theorem lowers_wellFounded {less : α → α → Prop} (ends : WellFounded less) :
    WellFounded (Lowers less (n := n)) := by
  have lexical := Pi.Lex.wellFounded (fun i j : Fin n => i < j) (s := fun _ => less) fun _ => ends
  refine Subrelation.wf ?_ lexical
  rintro after before ⟨i, lower, others⟩
  exact ⟨i, fun j earlier => others j (ne_of_lt earlier), lower⟩

variable {S : Type} {may will : S → S → Prop} {final : S → Prop}

/-- The parties are the first `n` of a system, and `left` is what each has left to do. -/
theorem parties_end {less : α → α → Prop} (ends : WellFounded less) (inv : S → Prop) (left : S → Fin n → α)
    (kept : ∀ s t, inv s → may s t → inv t) (lowers : ∀ s t, inv s → may s t → Lowers less (left t) (left s))
    (progress : ∀ s, inv s → ¬ final s → ∃ t, will s t) {s : S} (valid : inv s) :
    Inevitable may will final s := by
  refine inevitable_of kept progress ?_ valid
  refine Subrelation.accessible ?_ (InvImage.accessible left ((lowers_wellFounded ends).apply (left s)))
  rintro t s ⟨valid, moved⟩
  exact lowers s t valid moved

end

end PetBackend.Library
