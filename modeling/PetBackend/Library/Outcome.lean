/-!
# Outcomes of fallible code

Inversion of `Except` computations, and loops that fail on the first bad element.
-/

namespace PetBackend.Outcome

variable {ε α β σ : Type}

theorem bind_ok {first : Except ε α} {rest : α → Except ε β} {result : β} :
    first >>= rest = .ok result ↔ ∃ value, first = .ok value ∧ rest value = .ok result := by
  cases first <;> simp [bind, Except.bind]

theorem bind_error {first : Except ε α} {rest : α → Except ε β} {raised : ε} :
    first >>= rest = .error raised ↔
      first = .error raised ∨ ∃ value, first = .ok value ∧ rest value = .error raised := by
  cases first <;> simp [bind, Except.bind]

theorem pure_ok {value result : α} : (pure value : Except ε α) = .ok result ↔ value = result := by
  simp [pure, Except.pure]

theorem mapError_ok {ε' : Type} (f : ε → ε') (value : α) :
    (.ok value : Except ε α).mapError f = .ok value := rfl

theorem mapError_error {ε' : Type} (f : ε → ε') (raised : ε) :
    (.error raised : Except ε α).mapError f = .error (f raised) := rfl

theorem mapError_ok_iff {ε' : Type} {outcome : Except ε α} {f : ε → ε'} {value : α} :
    outcome.mapError f = .ok value ↔ outcome = .ok value := by
  cases outcome with
  | ok result => rw [mapError_ok, Except.ok.injEq, Except.ok.injEq]
  | error raised => simp [mapError_error]

theorem mapError_error_iff {ε' : Type} {outcome : Except ε α} {f : ε → ε'} {raised : ε'} :
    outcome.mapError f = .error raised ↔ ∃ error, outcome = .error error ∧ f error = raised := by
  cases outcome with
  | ok result => simp [mapError_ok]
  | error error => simp [mapError_error]

/-- A loop whose turns all succeed is a fold of what the turns do. -/
theorem foldlM_ok {turn : σ → α → Except ε σ} {next : σ → α → σ} {items : List α}
    (turns : ∀ acc, ∀ item ∈ items, turn acc item = .ok (next acc item)) (acc : σ) :
    items.foldlM turn acc = .ok (items.foldl next acc) := by
  induction items generalizing acc with
  | nil => rfl
  | cons item rest ih =>
    rw [List.foldlM_cons, turns acc item List.mem_cons_self]
    exact ih (fun acc other member => turns acc other (List.mem_cons_of_mem _ member)) _

/-- A loop that can only fail in one way fails if some element is bad whatever came before it. -/
theorem foldlM_error {turn : σ → α → Except ε σ} {raised : ε} {items : List α} {bad : α}
    (member : bad ∈ items) (fails : ∀ acc, turn acc bad = .error raised)
    (only : ∀ acc item other, turn acc item = .error other → other = raised) (acc : σ) :
    items.foldlM turn acc = .error raised := by
  induction items generalizing acc with
  | nil => cases member
  | cons item rest ih =>
    rw [List.foldlM_cons]
    cases first : turn acc item with
    | error other =>
      rw [only acc item other first]
      rfl
    | ok next =>
      rcases List.mem_cons.mp member with rfl | later
      · simp [fails acc] at first
      · exact ih later next

end PetBackend.Outcome
