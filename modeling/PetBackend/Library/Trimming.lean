import Mathlib.Data.List.DropRight
import Mathlib.Data.List.TakeWhile

/-!
# Trimming a list at both ends

And what a rewriting of the list does to its ends.
-/

namespace PetBackend.Library

variable {α : Type} {p q : α → Bool} {l : List α} {a : α}

/-- Neither the first nor the last element is one to drop. -/
structure Trimmed (p : α → Bool) (l : List α) : Prop where
  first : ∀ nonempty : l ≠ [], ¬ p (l.head nonempty)
  last : ∀ nonempty : l ≠ [], ¬ p (l.getLast nonempty)

def trim (p : α → Bool) (l : List α) : List α := (l.dropWhile p).rdropWhile p

theorem dropWhile_head (nonempty : l.dropWhile p ≠ []) : ¬ p ((l.dropWhile p).head nonempty) := by
  have bound : 0 < (l.dropWhile p).length := List.length_pos_of_ne_nil nonempty
  rw [List.head_eq_getElem]
  exact List.dropWhile_get_zero_not p l bound

theorem trim_trimmed (p : α → Bool) (l : List α) : Trimmed p (trim p l) where
  first nonempty := by
    have start := List.rdropWhile_prefix p (l := l.dropWhile p)
    have inner : l.dropWhile p ≠ [] := start.ne_nil nonempty
    have same : (trim p l).head nonempty = (l.dropWhile p).head inner := start.head nonempty
    rw [same]
    exact dropWhile_head inner
  last nonempty := List.rdropWhile_last_not p _ nonempty

theorem trim_fixed (trimmed : Trimmed p l) : trim p l = l := by
  have start : l.dropWhile p = l := by
    refine List.dropWhile_eq_self_iff.mpr fun bound => ?_
    have nonempty : l ≠ [] := List.ne_nil_of_length_pos bound
    rw [← List.head_eq_getElem nonempty]
    exact trimmed.first nonempty
  unfold trim
  rw [start]
  exact List.rdropWhile_eq_self_iff.mpr trimmed.last

theorem Trimmed.mono (fewer : ∀ a, q a = true → p a = true) (trimmed : Trimmed p l) : Trimmed q l where
  first nonempty drops := trimmed.first nonempty (fewer _ drops)
  last nonempty drops := trimmed.last nonempty (fewer _ drops)

theorem mem_dropWhile (kept : ¬ p a) : a ∈ l.dropWhile p ↔ a ∈ l := by
  constructor
  · exact fun member => (List.dropWhile_sublist p).subset member
  · intro member
    rw [← List.takeWhile_append_dropWhile (p := p) (l := l)] at member
    rcases List.mem_append.mp member with dropped | rest
    · exact (kept (List.mem_takeWhile_imp dropped)).elim
    · exact rest

/-- Trimming loses no element but those to drop. -/
theorem mem_trim (kept : ¬ p a) : a ∈ trim p l ↔ a ∈ l := by
  unfold trim List.rdropWhile
  rw [List.mem_reverse, mem_dropWhile kept, List.mem_reverse, mem_dropWhile kept]

theorem trimmed_iff : Trimmed p l ↔ l.head?.map p ≠ some true ∧ l.getLast?.map p ≠ some true := by
  by_cases empty : l = []
  · subst empty
    exact iff_of_true ⟨fun nonempty => (nonempty rfl).elim, fun nonempty => (nonempty rfl).elim⟩ (by simp)
  · rw [List.head?_eq_some_head empty, List.getLast?_eq_some_getLast empty]
    constructor
    · intro trimmed
      exact ⟨by simpa using trimmed.first empty, by simpa using trimmed.last empty⟩
    · rintro ⟨first, last⟩
      exact ⟨fun _ => by simpa using first, fun _ => by simpa using last⟩

/-! ### Rewriting block by block -/

/-- The first list becomes the second block by block: what is to drop remains so, and nothing else
comes to be. -/
inductive Rewritten (p : α → Bool) : List α → List α → Prop where
  | nil : Rewritten p [] []
  | block {before after rest rest' : List α} (drops : Bool) (nonempty : before ≠ []) (nonempty' : after ≠ [])
      (kind : ∀ a ∈ before, p a = drops) (kind' : ∀ a ∈ after, p a = drops) (more : Rewritten p rest rest') :
      Rewritten p (before ++ rest) (after ++ rest')

variable {l' : List α}

theorem head_kind {drops : Bool} (nonempty : l ≠ []) (kind : ∀ a ∈ l, p a = drops) : l.head?.map p = some drops := by
  rw [List.head?_eq_some_head nonempty]
  exact congrArg some (kind _ (List.head_mem nonempty))

theorem last_kind {drops : Bool} (nonempty : l ≠ []) (kind : ∀ a ∈ l, p a = drops) :
    l.getLast?.map p = some drops := by
  rw [List.getLast?_eq_some_getLast nonempty]
  exact congrArg some (kind _ (List.getLast_mem nonempty))

theorem Rewritten.head (rewritten : Rewritten p l l') : l.head?.map p = l'.head?.map p := by
  cases rewritten with
  | nil => rfl
  | block drops nonempty nonempty' kind kind' _ =>
    rw [List.head?_append, List.head?_append, Option.map_or, Option.map_or, head_kind nonempty kind,
      head_kind nonempty' kind', Option.some_or, Option.some_or]

theorem Rewritten.last (rewritten : Rewritten p l l') : l.getLast?.map p = l'.getLast?.map p := by
  induction rewritten with
  | nil => rfl
  | block drops nonempty nonempty' kind kind' _ ih =>
    rw [List.getLast?_append, List.getLast?_append, Option.map_or, Option.map_or, ih, last_kind nonempty kind,
      last_kind nonempty' kind']

theorem Rewritten.trimmed (rewritten : Rewritten p l l') : Trimmed p l ↔ Trimmed p l' := by
  rw [trimmed_iff, trimmed_iff, rewritten.head, rewritten.last]

/-- A rewriting one by one. -/
theorem rewritten_map {f : α → α} (kept : ∀ a, p (f a) = p a) (l : List α) : Rewritten p l (l.map f) := by
  induction l with
  | nil => exact .nil
  | cons a rest ih =>
    refine .block (p a) (List.cons_ne_nil a []) (List.cons_ne_nil (f a) []) ?_ ?_ ih
    · simp
    · simpa using kept a

end PetBackend.Library
