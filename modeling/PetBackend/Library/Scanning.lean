import Mathlib.Data.List.TakeWhile

/-!
# Scanning

Readers of the front of a text, and the search for the first place where one of them finds something.
-/

namespace PetBackend.Library

variable {α β : Type} {p : α → Bool} {word rest text skipped : List α}

/-- Some characters of a class. -/
structure Word (p : α → Bool) (word : List α) : Prop where
  nonempty : word ≠ []
  within : ∀ a ∈ word, p a

/-- The longest word that the text begins with, and what follows. -/
def readWord (p : α → Bool) (text : List α) : Option (List α × List α) :=
  if (text.takeWhile p).isEmpty then none else some (text.takeWhile p, text.dropWhile p)

theorem takeWhile_word (within : ∀ a ∈ word, p a) (ends : ∀ a ∈ rest.head?, ¬ p a) :
    (word ++ rest).takeWhile p = word := by
  rw [List.takeWhile_append_of_pos within]
  cases rest with
  | nil => exact List.append_nil word
  | cons a rest => rw [List.takeWhile_cons_of_neg (ends a rfl), List.append_nil]

theorem dropWhile_word (within : ∀ a ∈ word, p a) (ends : ∀ a ∈ rest.head?, ¬ p a) :
    (word ++ rest).dropWhile p = rest := by
  rw [List.dropWhile_append_of_pos within]
  cases rest with
  | nil => rfl
  | cons a rest => exact List.dropWhile_cons_of_neg (ends a rfl)

theorem readWord_iff : readWord p text = some (word, rest) ↔
    text = word ++ rest ∧ Word p word ∧ ∀ a ∈ rest.head?, ¬ p a := by
  unfold readWord
  constructor
  · intro read
    split at read
    · cases read
    · rename_i found
      cases read
      refine ⟨List.takeWhile_append_dropWhile.symm, ⟨?_, fun a member => List.mem_takeWhile_imp member⟩, ?_⟩
      · exact fun none => found (List.isEmpty_iff.mpr none)
      · intro a first
        have outside := List.head?_dropWhile_not p text
        rw [Option.mem_def.mp first] at outside
        simpa using outside
  · rintro ⟨rfl, word, ends⟩
    rw [takeWhile_word word.within ends, dropWhile_word word.within ends, if_neg]
    exact fun none => word.nonempty (List.isEmpty_iff.mp none)

/-! ### The first place -/

/-- `f` at the first place where it finds something. -/
def search (f : List α → Option β) : List α → Option β
  | [] => f []
  | a :: text => (f (a :: text)).or (search f text)

variable {f : List α → Option β} {b : β}

/-- What is skipped, and what is read after it. -/
structure FirstAt (f : List α → Option β) (b : β) (skipped rest : List α) : Prop where
  found : f rest = some b
  earlier : ∀ before a after, skipped = before ++ a :: after → f (a :: after ++ rest) = none

theorem firstAt_search (first : FirstAt f b skipped rest) : search f (skipped ++ rest) = some b := by
  obtain ⟨found, earlier⟩ := first
  induction skipped with
  | nil =>
    cases rest with
    | nil => exact found
    | cons a rest =>
      show (f (a :: rest)).or _ = some b
      rw [found, Option.some_or]
  | cons a skipped ih =>
    show (f (a :: skipped ++ rest)).or (search f (skipped ++ rest)) = some b
    rw [earlier [] a skipped rfl, Option.none_or]
    exact ih fun before c after same => earlier (a :: before) c after (congrArg (a :: ·) same)

theorem search_iff :
    search f text = some b ↔ ∃ skipped rest, text = skipped ++ rest ∧ FirstAt f b skipped rest := by
  constructor
  · intro read
    induction text with
    | nil => exact ⟨[], [], rfl, read, fun before a after same => by simp at same⟩
    | cons a text ih =>
      rw [search] at read
      cases here : f (a :: text) with
      | some c =>
        rw [here] at read
        cases read
        exact ⟨[], a :: text, rfl, here, fun before a after same => by simp at same⟩
      | none =>
        rw [here] at read
        obtain ⟨skipped, rest, rfl, found, earlier⟩ := ih read
        refine ⟨a :: skipped, rest, rfl, found, fun before c after same => ?_⟩
        cases before with
        | nil =>
          cases same
          exact here
        | cons _ before => exact earlier before c after (List.cons.inj same).2
  · rintro ⟨skipped, rest, rfl, first⟩
    exact firstAt_search first

end PetBackend.Library
