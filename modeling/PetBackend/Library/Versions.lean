import Mathlib.Order.Basic

/-!
# Versioned tables

A table keeps the committed versions of each row, and apart from them what every open transaction
has written. A transaction sees its own writes over the newest committed versions.
-/

namespace PetBackend.Library

structure Table (ρ : Type) where
  /-- Newest first. -/
  versions : Nat → List ρ
  own : Nat → Nat → Option ρ

namespace Table

variable {ρ ι : Type}

def empty : Table ρ := ⟨fun _ => [], fun _ _ => none⟩

def view (t : Table ρ) (i id : Nat) : Option ρ := (t.own i id).or (t.versions id).head?

def Live (t : Table ρ) (id : Nat) (row : ρ) : Prop := row ∈ t.versions id ∨ ∃ i, t.own i id = some row

def write (t : Table ρ) (i id : Nat) (row : ρ) : Table ρ where
  versions := t.versions
  own j key := if j = i ∧ key = id then some row else t.own j key

def commit (t : Table ρ) (i : Nat) : Table ρ where
  versions id := (t.own i id).toList ++ t.versions id
  own j id := if j = i then none else t.own j id

def discard (t : Table ρ) (i : Nat) : Table ρ where
  versions := t.versions
  own j id := if j = i then none else t.own j id

theorem empty_live (id : Nat) (row : ρ) : ¬ (empty : Table ρ).Live id row := by
  rintro (committed | ⟨i, own⟩)
  · cases committed
  · cases own

theorem view_live {t : Table ρ} {i id : Nat} {row : ρ} (seen : t.view i id = some row) :
    t.Live id row := by
  rcases Option.or_eq_some_iff.mp seen with mine | ⟨_, newest⟩
  · exact Or.inr ⟨i, mine⟩
  · exact Or.inl (List.mem_of_mem_head? newest)

theorem view_committed {t : Table ρ} {i id : Nat} {row : ρ} (seen : t.view i id = some row)
    (unwritten : t.own i id = none) : row ∈ t.versions id := by
  rcases Option.or_eq_some_iff.mp seen with own | ⟨_, newest⟩
  · rw [unwritten] at own
    cases own
  · exact List.mem_of_mem_head? newest

@[simp] theorem discard_own (t : Table ρ) (i : Nat) : (t.discard i).own i = fun _ => none := by
  funext id
  simp [discard]

theorem mem_commit {t : Table ρ} {i id : Nat} {row : ρ} :
    row ∈ (t.commit i).versions id ↔ t.own i id = some row ∨ row ∈ t.versions id := by
  simp [commit]

theorem commit_unwritten {t : Table ρ} {i : Nat} (unwritten : ∀ id, t.own i id = none) :
    (t.commit i).versions = t.versions := by
  funext id
  simp [commit, unwritten]

theorem commit_head {t : Table ρ} {i id : Nat} {row : ρ} (own : t.own i id = some row) :
    ((t.commit i).versions id).head? = some row := by
  simp [commit, own]

theorem write_live {t : Table ρ} {i id key : Nat} {row r : ρ} (live : (t.write i id row).Live key r) :
    (key = id ∧ r = row) ∨ t.Live key r := by
  rcases live with committed | ⟨j, open_⟩
  · exact Or.inr (Or.inl committed)
  · simp only [write] at open_
    split at open_
    · rename_i same
      cases open_
      exact Or.inl ⟨same.2, rfl⟩
    · exact Or.inr (Or.inr ⟨j, open_⟩)

theorem discard_live {t : Table ρ} {i key : Nat} {r : ρ} (live : (t.discard i).Live key r) :
    t.Live key r := by
  rcases live with committed | ⟨j, open_⟩
  · exact Or.inl committed
  · simp only [discard] at open_
    split at open_
    · cases open_
    · exact Or.inr ⟨j, open_⟩

theorem commit_live {t : Table ρ} {i key : Nat} {r : ρ} (live : (t.commit i).Live key r) :
    t.Live key r := by
  rcases live with committed | ⟨j, open_⟩
  · rcases mem_commit.mp committed with mine | older
    · exact Or.inr ⟨i, mine⟩
    · exact Or.inl older
  · simp only [commit] at open_
    split at open_
    · cases open_
    · exact Or.inr ⟨j, open_⟩

/-- Who wrote a version, what no later version of the row may change, and which rows exclude each
other. -/
structure Keys (ρ ι : Type) where
  writer : ρ → Nat
  identity : ρ → ι
  clash : ι → ι → Prop
  symm : ∀ {a b}, clash a b → clash b a

structure Valid (K : Keys ρ ι) (t : Table ρ) : Prop where
  identified : ∀ {id a b}, t.Live id a → t.Live id b → K.identity a = K.identity b
  unique : ∀ {id id' a b}, t.Live id a → t.Live id' b → K.clash (K.identity a) (K.identity b) →
    id = id'
  locked : ∀ {i j id a b}, t.own i id = some a → t.own j id = some b → i = j
  written : ∀ {i id a}, t.own i id = some a → K.writer a = i

section
variable {K : Keys ρ ι} {t : Table ρ} {i : Nat}

theorem empty_valid : Valid K (empty : Table ρ) := by
  constructor
  · intro id a b live
    exact (empty_live id a live).elim
  · intro id id' a b live
    exact (empty_live id a live).elim
  · intro i j id a b open_
    cases open_
  · intro i id a open_
    cases open_

theorem write_valid {id : Nat} {row : ρ} (valid : Valid K t) (mine : K.writer row = i)
    (unlocked : ∀ j a, t.own j id = some a → j = i)
    (same : ∀ a, t.Live id a → K.identity a = K.identity row)
    (apart : ∀ key a, t.Live key a → K.clash (K.identity row) (K.identity a) → id = key) :
    Valid K (t.write i id row) := by
  constructor
  · intro key a b liveA liveB
    rcases write_live liveA with ⟨rfl, rfl⟩ | oldA <;> rcases write_live liveB with ⟨here, rfl⟩ | oldB
    · rfl
    · exact (same b oldB).symm
    · rw [here] at oldA
      exact same a oldA
    · exact valid.identified oldA oldB
  · intro key key' a b liveA liveB clash
    rcases write_live liveA with ⟨rfl, rfl⟩ | oldA <;> rcases write_live liveB with ⟨rfl, rfl⟩ | oldB
    · rfl
    · exact apart key' b oldB clash
    · exact (apart key a oldA (K.symm clash)).symm
    · exact valid.unique oldA oldB clash
  · intro j k key a b openA openB
    simp only [write] at openA openB
    split at openA <;> split at openB
    · rename_i first second
      rw [first.1, second.1]
    · rename_i first _
      obtain ⟨rfl, rfl⟩ := first
      exact (unlocked k b openB).symm
    · rename_i _ second
      obtain ⟨rfl, rfl⟩ := second
      exact unlocked j a openA
    · exact valid.locked openA openB
  · intro j key a open_
    simp only [write] at open_
    split at open_
    · rename_i same
      cases open_
      rw [mine, same.1]
    · exact valid.written open_

/-- The row is new and no live row has one of its keys. An insert waits for an open transaction
that holds one. -/
structure Inserts (K : Keys ρ ι) (t : Table ρ) (id : Nat) (row : ρ) : Prop where
  fresh : ∀ a, ¬ t.Live id a
  unique : ∀ key a, t.Live key a → ¬ K.clash (K.identity row) (K.identity a)

theorem vacant_inserts (vacant : ∀ key a, ¬ t.Live key a) (id : Nat) (row : ρ) : Inserts K t id row :=
  ⟨vacant id, fun key a live => (vacant key a live).elim⟩

theorem Inserts.no_versions {id : Nat} {row : ρ} (inserts : Inserts K t id row) : t.versions id = [] :=
  List.eq_nil_iff_forall_not_mem.mpr fun a committed => inserts.fresh a (Or.inl committed)

theorem Inserts.valid {id : Nat} {row : ρ} (inserts : Inserts K t id row) (valid : Valid K t)
    (mine : K.writer row = i) : Valid K (t.write i id row) := by
  apply write_valid valid mine
  · exact fun j a own => (inserts.fresh a (Or.inr ⟨j, own⟩)).elim
  · exact fun a live => (inserts.fresh a live).elim
  · exact fun key a live clash => (inserts.unique key a live clash).elim

/-- No new versions, and none written that was not. -/
theorem Valid.fewer {t' : Table ρ} (valid : Valid K t)
    (live : ∀ {id a}, t'.Live id a → t.Live id a)
    (kept : ∀ {j id a}, t'.own j id = some a → t.own j id = some a) : Valid K t' := by
  constructor
  · intro id a b liveA liveB
    exact valid.identified (live liveA) (live liveB)
  · intro id id' a b liveA liveB
    exact valid.unique (live liveA) (live liveB)
  · intro j k id a b openA openB
    exact valid.locked (kept openA) (kept openB)
  · intro j id a open_
    exact valid.written (kept open_)

theorem discard_valid (valid : Valid K t) : Valid K (t.discard i) := by
  refine valid.fewer discard_live fun {j id a} open_ => ?_
  simp only [discard] at open_
  split at open_
  · cases open_
  · exact open_

theorem commit_valid (valid : Valid K t) : Valid K (t.commit i) := by
  refine valid.fewer commit_live fun {j id a} open_ => ?_
  simp only [commit] at open_
  split at open_
  · cases open_
  · exact open_

end

/-! ### What the others leave alone -/

/-- From `s` to `t`, transaction `i` wrote nothing: its own writes stay, and the versions committed
since are by others. -/
structure Spares (writer : ρ → Nat) (i : Nat) (s t : Table ρ) : Prop where
  own : t.own i = s.own i
  grown : ∀ id, ∃ newer, t.versions id = newer ++ s.versions id ∧ ∀ row ∈ newer, writer row ≠ i

section
variable {writer : ρ → Nat} {s t : Table ρ} {i j : Nat}

theorem spares_refl (t : Table ρ) : Spares writer i t t :=
  ⟨rfl, fun _ => ⟨[], rfl, fun _ impossible => by cases impossible⟩⟩

theorem spares_trans {r : Table ρ} (first : Spares writer i r s) (second : Spares writer i s t) :
    Spares writer i r t := by
  refine ⟨second.own.trans first.own, fun id => ?_⟩
  obtain ⟨older, before, notOlder⟩ := first.grown id
  obtain ⟨newer, after, notNewer⟩ := second.grown id
  refine ⟨newer ++ older, by rw [after, before, List.append_assoc], fun row member => ?_⟩
  rcases List.mem_append.mp member with inNewer | inOlder
  · exact notNewer row inNewer
  · exact notOlder row inOlder

theorem spares_write {id : Nat} {row : ρ} (other : j ≠ i) : Spares writer j t (t.write i id row) := by
  refine ⟨?_, (spares_refl t).grown⟩
  funext key
  simp [write, other]

theorem spares_discard (other : j ≠ i) : Spares writer j t (t.discard i) := by
  refine ⟨?_, (spares_refl t).grown⟩
  funext key
  simp [discard, other]

theorem spares_commit {K : Keys ρ ι} (valid : Valid K t) (other : j ≠ i) :
    Spares K.writer j t (t.commit i) := by
  refine ⟨?_, fun id => ⟨(t.own i id).toList, rfl, fun row member => ?_⟩⟩
  · funext key
    simp [commit, other]
  · rw [valid.written (Option.mem_toList.mp member)]
    exact Ne.symm other

theorem Spares.mem (spared : Spares writer i s t) {id : Nat} {row : ρ} (committed : row ∈ s.versions id) :
    row ∈ t.versions id := by
  obtain ⟨newer, grown, _⟩ := spared.grown id
  rw [grown]
  exact List.mem_append_right newer committed

theorem Spares.mine (spared : Spares writer i s t) {id : Nat} {row : ρ} (committed : row ∈ t.versions id)
    (mine : writer row = i) : row ∈ s.versions id := by
  obtain ⟨newer, grown, others⟩ := spared.grown id
  rw [grown] at committed
  rcases List.mem_append.mp committed with isNewer | older
  · exact (others row isNewer mine).elim
  · exact older

end

/-! ### Tables whose rows never change -/

def InsertOnly (t : Table ρ) : Prop := ∀ {i id a}, t.own i id = some a → t.versions id = []

section
variable {t : Table ρ} {i : Nat}

theorem write_insertOnly {id : Nat} {row : ρ} (once : InsertOnly t) (fresh : t.versions id = []) :
    InsertOnly (t.write i id row) := by
  intro j key a open_
  simp only [write] at open_
  split at open_
  · rename_i same
    rw [same.2]
    exact fresh
  · exact once open_

theorem discard_insertOnly (once : InsertOnly t) : InsertOnly (t.discard i) := by
  intro j key a open_
  simp only [discard] at open_
  split at open_
  · cases open_
  · exact once open_

theorem commit_insertOnly {K : Keys ρ ι} (valid : Valid K t) (once : InsertOnly t) :
    InsertOnly (t.commit i) := by
  intro j key a open_
  simp only [commit] at open_ ⊢
  split at open_
  · cases open_
  · rename_i other
    have none : t.own i key = none := by
      cases mine : t.own i key with
      | none => rfl
      | some b => exact (other (valid.locked open_ mine)).elim
    rw [none, once open_]
    rfl

end

/-! ### Versions in order -/

section
variable {τ : Type} [Preorder τ] {time : ρ → τ} {t : Table ρ} {i id : Nat} {row older : ρ}

/-- No version is older in time than the ones committed before it. -/
structure Forward (time : ρ → τ) (t : Table ρ) : Prop where
  sorted : ∀ id, (t.versions id).Pairwise fun newer older => time older ≤ time newer
  staged : ∀ {i id row}, t.own i id = some row → ∀ older ∈ t.versions id, time older ≤ time row

theorem empty_forward : Forward time (empty : Table ρ) :=
  ⟨fun _ => .nil, fun own => by cases own⟩

theorem discard_forward (forward : Forward time t) : Forward time (t.discard i) := by
  refine ⟨forward.sorted, fun own => ?_⟩
  simp only [discard] at own
  split at own
  · cases own
  · exact forward.staged own

theorem commit_forward {K : Keys ρ ι} (valid : Valid K t) (forward : Forward time t) :
    Forward time (t.commit i) := by
  refine ⟨fun id => ?_, fun {j id row} own older member => ?_⟩
  · simp only [commit]
    cases own : t.own i id with
    | none => exact forward.sorted id
    | some row => exact .cons (forward.staged own) (forward.sorted id)
  · simp only [commit] at own
    split at own
    · cases own
    · rename_i other
      rcases mem_commit.mp member with mine | committed
      · exact (other (valid.locked own mine)).elim
      · exact forward.staged own older committed

theorem write_forward (forward : Forward time t)
    (later : ∀ older ∈ t.versions id, time older ≤ time row) : Forward time (t.write i id row) := by
  refine ⟨forward.sorted, fun own older member => ?_⟩
  simp only [write] at own
  split at own
  · rename_i same
    cases own
    rw [same.2] at member
    exact later older member
  · exact forward.staged own older member

theorem Forward.newest (forward : Forward time t) (newest : (t.versions id).head? = some row)
    (committed : older ∈ t.versions id) : time older ≤ time row := by
  obtain ⟨rest, shape⟩ := List.head?_eq_some_iff.mp newest
  have sorted := forward.sorted id
  rw [shape] at sorted committed
  rcases List.mem_cons.mp committed with rfl | earlier
  · exact le_refl _
  · exact (List.pairwise_cons.mp sorted).1 older earlier

/-- What a transaction sees is no older than what is committed. -/
theorem Forward.view (forward : Forward time t) (seen : t.view i id = some row)
    (committed : older ∈ t.versions id) : time older ≤ time row := by
  rcases Option.or_eq_some_iff.mp seen with mine | ⟨_, newest⟩
  · exact forward.staged mine older committed
  · exact forward.newest newest committed

end

end Table

end PetBackend.Library
