import Mathlib.Data.List.Basic

/-!
# Pieces of a list between separators

Which lists `List.splitOnP` yields.
-/

namespace PetBackend.Library

variable {α : Type} {p : α → Bool} {x : α} {xs v w : List α}

/-- A stretch without separators that neither side continues. -/
structure Piece (p : α → Bool) (xs w : List α) : Prop where
  unbroken : ∀ a ∈ w, ¬ p a
  placed : ∃ before after, xs = before ++ w ++ after ∧ (∀ a ∈ before.getLast?, p a) ∧
    ∀ a ∈ after.head?, p a

/-- The piece that the list starts with. -/
def FirstPiece (p : α → Bool) (xs w : List α) : Prop :=
  (∀ a ∈ w, ¬ p a) ∧ ∃ after, xs = w ++ after ∧ ∀ a ∈ after.head?, p a

/-- A piece that follows a separator. -/
def LaterPiece (p : α → Bool) (xs w : List α) : Prop :=
  ∃ before separator rest, xs = before ++ separator :: rest ∧ p separator ∧ FirstPiece p rest w

theorem piece_iff : Piece p xs w ↔ FirstPiece p xs w ∨ LaterPiece p xs w := by
  constructor
  · rintro ⟨unbroken, before, after, rfl, closed, opened⟩
    rcases List.eq_nil_or_concat before with rfl | ⟨earlier, separator, rfl⟩
    · exact .inl ⟨unbroken, after, rfl, opened⟩
    · refine .inr ⟨earlier, separator, w ++ after, by simp, ?_, unbroken, after, rfl, opened⟩
      exact closed separator (by simp)
  · rintro (⟨unbroken, after, rfl, opened⟩ | ⟨before, separator, rest, rfl, separates, unbroken, after, rfl, opened⟩)
    · exact ⟨unbroken, [], after, rfl, by simp, opened⟩
    · exact ⟨unbroken, before ++ [separator], after, by simp, by simpa using separates, opened⟩

theorem firstPiece_nil : FirstPiece p [] w ↔ w = [] := by
  constructor
  · rintro ⟨-, after, whole, -⟩
    exact (List.append_eq_nil_iff.mp whole.symm).1
  · rintro rfl
    exact ⟨by simp, [], rfl, by simp⟩

theorem firstPiece_separator (separates : p x) : FirstPiece p (x :: xs) w ↔ w = [] := by
  constructor
  · rintro ⟨unbroken, after, whole, -⟩
    cases w with
    | nil => rfl
    | cons a rest =>
      cases whole
      exact (unbroken x List.mem_cons_self separates).elim
  · rintro rfl
    exact ⟨by simp, x :: xs, rfl, by simpa using separates⟩

theorem firstPiece_cons (inside : ¬ p x) :
    FirstPiece p (x :: xs) w ↔ ∃ v, w = x :: v ∧ FirstPiece p xs v := by
  constructor
  · rintro ⟨unbroken, after, whole, opened⟩
    cases w with
    | nil =>
      rw [List.nil_append] at whole
      subst whole
      exact (inside (opened x rfl)).elim
    | cons a rest =>
      cases whole
      exact ⟨rest, rfl, fun b member => unbroken b (List.mem_cons_of_mem _ member), after, rfl, opened⟩
  · rintro ⟨v, rfl, unbroken, after, rfl, opened⟩
    refine ⟨fun a member => ?_, after, rfl, opened⟩
    rcases List.mem_cons.mp member with rfl | later
    · exact inside
    · exact unbroken a later

theorem laterPiece_cons :
    LaterPiece p (x :: xs) w ↔ (p x ∧ FirstPiece p xs w) ∨ LaterPiece p xs w := by
  constructor
  · rintro ⟨before, separator, rest, whole, separates, first⟩
    cases before with
    | nil =>
      cases whole
      exact .inl ⟨separates, first⟩
    | cons a earlier =>
      cases whole
      exact .inr ⟨earlier, separator, rest, rfl, separates, first⟩
  · rintro (⟨separates, first⟩ | ⟨before, separator, rest, rfl, separates, first⟩)
    · exact ⟨[], x, xs, rfl, separates, first⟩
    · exact ⟨x :: before, separator, rest, rfl, separates, first⟩

theorem splitOnP_pieces (p : α → Bool) (xs : List α) : ∃ first later, xs.splitOnP p = first :: later ∧
    (∀ w, FirstPiece p xs w ↔ w = first) ∧ ∀ w, LaterPiece p xs w ↔ w ∈ later := by
  induction xs with
  | nil =>
    refine ⟨[], [], List.splitOnP_nil, fun w => firstPiece_nil, fun w => ?_⟩
    simp [LaterPiece]
  | cons x xs ih =>
    obtain ⟨first, later, split, firsts, laters⟩ := ih
    rw [List.splitOnP_cons_eq_if_modifyHead, split]
    by_cases separates : p x
    · rw [if_pos separates]
      refine ⟨[], first :: later, rfl, fun w => firstPiece_separator separates, fun w => ?_⟩
      rw [laterPiece_cons, firsts, laters, List.mem_cons]
      simp [separates]
    · rw [if_neg separates]
      refine ⟨x :: first, later, rfl, fun w => ?_, fun w => ?_⟩
      · rw [firstPiece_cons separates]
        simp [firsts]
      · rw [laterPiece_cons, laters]
        simp [separates]

theorem mem_splitOnP : w ∈ xs.splitOnP p ↔ Piece p xs w := by
  obtain ⟨first, later, split, firsts, laters⟩ := splitOnP_pieces p xs
  rw [split, piece_iff, firsts, laters, List.mem_cons]

/-- The piece that the list ends with. -/
def LastPiece (separator : α) (xs w : List α) : Prop :=
  separator ∉ w ∧ (xs = w ∨ ∃ before, xs = before ++ separator :: w)

section
variable [DecidableEq α] {separator : α}

theorem lastPiece_exists (separator : α) (xs : List α) : ∃ w, LastPiece separator xs w := by
  induction xs with
  | nil => exact ⟨[], by simp, .inl rfl⟩
  | cons x rest ih =>
    obtain ⟨w, unbroken, rfl | ⟨before, rfl⟩⟩ := ih
    · by_cases separates : x = separator
      · exact ⟨rest, unbroken, .inr ⟨[], by rw [separates, List.nil_append]⟩⟩
      · exact ⟨x :: rest, List.not_mem_cons_of_ne_of_not_mem (Ne.symm separates) unbroken, .inl rfl⟩
    · exact ⟨w, unbroken, .inr ⟨x :: before, rfl⟩⟩

theorem LastPiece.splitOn (last : LastPiece separator xs w) :
    (xs.splitOn separator).getLast (List.splitOn_ne_nil separator xs) = w := by
  obtain ⟨unbroken, placed⟩ := last
  have single : w.splitOn separator = [w] := by
    refine List.splitOnP_eq_singleton fun c member => ?_
    exact beq_eq_false_iff_ne.mpr fun same => unbroken (same ▸ member)
  rcases placed with rfl | ⟨before, rfl⟩
  · simp only [single, List.getLast_singleton]
  · have pieces : (before ++ separator :: w).splitOn separator = before.splitOn separator ++ [w] := by
      rw [← single]
      exact List.splitOnP_append_cons before w BEq.rfl
    simp only [pieces, List.getLast_append_singleton]

theorem getLast_splitOn : (xs.splitOn separator).getLast (List.splitOn_ne_nil separator xs) = w ↔
    LastPiece separator xs w := by
  refine ⟨fun same => ?_, LastPiece.splitOn⟩
  obtain ⟨v, last⟩ := lastPiece_exists separator xs
  rw [← same, last.splitOn]
  exact last

end

end PetBackend.Library
