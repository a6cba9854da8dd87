import Mathlib.Data.List.Nodup

/-!
# Association lists

`List.lookup` on entries whose keys are distinct, and through what is done to every entry.
-/

namespace PetBackend.Library

variable {κ α β : Type} [DecidableEq κ] {entries entries' : List (κ × α)} {key : κ} {value : α}

theorem mem_of_lookup (found : entries.lookup key = some value) : (key, value) ∈ entries := by
  induction entries with
  | nil => cases found
  | cons entry rest ih =>
    obtain ⟨k, v⟩ := entry
    rw [List.lookup_cons] at found
    by_cases here : key = k
    · subst here
      simp only [beq_self_eq_true, Option.some.injEq] at found
      rw [found]
      exact List.mem_cons_self
    · have other : (key == k) = false := beq_eq_false_iff_ne.mpr here
      rw [other] at found
      exact List.mem_cons_of_mem _ (ih found)

theorem lookup_of_mem (distinct : (entries.map Prod.fst).Nodup) (member : (key, value) ∈ entries) :
    entries.lookup key = some value := by
  induction entries with
  | nil => cases member
  | cons entry rest ih =>
    obtain ⟨k, v⟩ := entry
    obtain ⟨absent, distinctRest⟩ := List.nodup_cons.mp distinct
    rw [List.lookup_cons]
    rcases List.mem_cons.mp member with same | later
    · cases same
      simp
    · have other : (key == k) = false := by
        refine beq_eq_false_iff_ne.mpr fun same => absent ?_
        show k ∈ rest.map Prod.fst
        rw [← same]
        exact List.mem_map.mpr ⟨(key, value), later, rfl⟩
      rw [other]
      exact ih distinctRest later

theorem lookup_eq_some_iff (distinct : (entries.map Prod.fst).Nodup) :
    entries.lookup key = some value ↔ (key, value) ∈ entries :=
  ⟨mem_of_lookup, lookup_of_mem distinct⟩

/-- The order of the entries does not matter. -/
theorem lookup_perm (distinct : (entries.map Prod.fst).Nodup) (perm : entries.Perm entries') (key : κ) :
    entries.lookup key = entries'.lookup key := by
  have distinct' : (entries'.map Prod.fst).Nodup := (perm.map Prod.fst).nodup_iff.mp distinct
  refine Option.ext fun value => ?_
  rw [lookup_eq_some_iff distinct, lookup_eq_some_iff distinct', perm.mem_iff]

theorem lookup_map (f : κ → α → β) (entries : List (κ × α)) (key : κ) :
    (entries.map fun entry => (entry.1, f entry.1 entry.2)).lookup key = (entries.lookup key).map (f key) := by
  induction entries with
  | nil => rfl
  | cons entry rest ih =>
    obtain ⟨k, v⟩ := entry
    rw [List.map_cons, List.lookup_cons, List.lookup_cons, ih]
    by_cases here : key = k
    · subst here
      simp
    · have other : (key == k) = false := beq_eq_false_iff_ne.mpr here
      rw [other]

theorem lookup_filterMap (f : α → Option β) (distinct : (entries.map Prod.fst).Nodup) (key : κ) :
    (entries.filterMap fun entry => (f entry.2).map (entry.1, ·)).lookup key = (entries.lookup key).bind f := by
  induction entries with
  | nil => rfl
  | cons entry rest ih =>
    obtain ⟨k, v⟩ := entry
    obtain ⟨absent, distinctRest⟩ := List.nodup_cons.mp distinct
    rw [List.filterMap_cons, List.lookup_cons]
    by_cases here : key = k
    · subst here
      have gone : rest.lookup key = none := by
        refine List.lookup_eq_none_iff.mpr fun other member => bne_iff_ne.mpr fun same => absent ?_
        rw [same]
        show other.1 ∈ rest.map Prod.fst
        exact List.mem_map_of_mem member
      cases held : f v with
      | none =>
        have after := ih distinctRest
        rw [gone] at after
        simpa [held] using after
      | some w => simp [held]
    · have other : (key == k) = false := beq_eq_false_iff_ne.mpr here
      cases held : f v with
      | none => simp [other, ih distinctRest]
      | some w => simp [List.lookup_cons, other, ih distinctRest]

end PetBackend.Library
