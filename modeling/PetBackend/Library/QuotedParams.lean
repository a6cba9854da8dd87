import Mathlib.Data.List.Basic

/-!
# Parameters with quoted values

Lists such as `a="x", b="y"`, read one character at a time.
-/

namespace PetBackend.Library

variable {α : Type}

structure Marks (α : Type) where
  quote : α
  escape : α
  equals : α
  comma : α
  space : α
  isName : α → Bool
  quote_escape : quote ≠ escape
  comma_space : comma ≠ space
  equals_apart : isName equals = false
  space_apart : isName space = false

/-- What the next character belongs to. -/
inductive Stage (α : Type) where
  | start
  | name (name : List α)
  | assigned (name : List α)
  | value (name value : List α)
  | escaped (name value : List α)
  | closed

/-- The parameters read so far, and the stage of the next one. -/
structure Reader (α : Type) where
  found : List (List α × List α)
  stage : Stage α

section
variable [DecidableEq α] (m : Marks α)

def Marks.step (reader : Reader α) (c : α) : Option (Reader α) :=
  match reader.stage with
  | .start =>
    if m.isName c then some { reader with stage := .name [c] }
    else if c = m.space then some reader
    else none
  | .name name =>
    if m.isName c then some { reader with stage := .name (name ++ [c]) }
    else if c = m.equals then some { reader with stage := .assigned name }
    else none
  | .assigned name => if c = m.quote then some { reader with stage := .value name [] } else none
  | .value name value =>
    if c = m.escape then some { reader with stage := .escaped name value }
    else if c = m.quote then some ⟨reader.found ++ [(name, value)], .closed⟩
    else some { reader with stage := .value name (value ++ [c]) }
  | .escaped name value => some { reader with stage := .value name (value ++ [c]) }
  | .closed =>
    if c = m.space then some reader
    else if c = m.comma then some { reader with stage := .start }
    else none

def Marks.read (reader : Reader α) (text : List α) : Option (Reader α) := text.foldlM m.step reader

/-- The parameters of the whole text. -/
def Marks.params (text : List α) : Option (List (List α × List α)) := do
  let reader ← m.read ⟨[], .start⟩ text
  match reader.stage with
  | .closed => some reader.found
  | _ => none

/-- Each occurrence of one element becomes a list. -/
def substitute (old : α) (new : List α) (text : List α) : List α :=
  text.flatMap fun c => if c = old then new else [c]

theorem substitute_cons (old : α) (new : List α) (c : α) (rest : List α) :
    substitute old new (c :: rest) = (if c = old then new else [c]) ++ substitute old new rest := List.flatMap_cons

theorem substitute_append (old : α) (new first second : List α) :
    substitute old new (first ++ second) = substitute old new first ++ substitute old new second :=
  List.flatMap_append

end

/-- The first text, between quotes, stands for the second. -/
inductive Marks.Quoted (m : Marks α) : List α → List α → Prop where
  | nil : m.Quoted [] []
  | plain {c : α} {raw text : List α} (inside : c ≠ m.quote) (unescaped : c ≠ m.escape) (more : m.Quoted raw text) :
      m.Quoted (c :: raw) (c :: text)
  | escaped {c : α} {raw text : List α} (more : m.Quoted raw text) : m.Quoted (m.escape :: c :: raw) (c :: text)

/-- A parameter and how its value is written. -/
structure Written (m : Marks α) where
  name : List α
  raw : List α
  value : List α
  nonempty : name ≠ []
  named : ∀ c ∈ name, m.isName c
  quoted : m.Quoted raw value

namespace Written
variable {m : Marks α}

def text (param : Written m) : List α := param.name ++ [m.equals, m.quote] ++ param.raw ++ [m.quote]

def entry (param : Written m) : List α × List α := (param.name, param.value)

end Written

namespace Marks
variable {m : Marks α} {raw text : List α}

theorem quoted_self (quiet : ∀ c ∈ text, c ≠ m.quote ∧ c ≠ m.escape) : m.Quoted text text := by
  induction text with
  | nil => exact .nil
  | cons c rest ih =>
    obtain ⟨inside, unescaped⟩ := quiet c List.mem_cons_self
    exact .plain inside unescaped (ih fun d member => quiet d (List.mem_cons_of_mem _ member))

variable [DecidableEq α]

/-- The escape mark has to be doubled first. -/
theorem quoted_substitute (m : Marks α) (text : List α) :
    m.Quoted (substitute m.quote [m.escape, m.quote] (substitute m.escape [m.escape, m.escape] text)) text := by
  induction text with
  | nil => exact .nil
  | cons c rest ih =>
    rw [substitute_cons m.escape, substitute_append]
    by_cases doubled : c = m.escape
    · subst doubled
      have kept : substitute m.quote [m.escape, m.quote] [m.escape, m.escape] = [m.escape, m.escape] := by
        simp [substitute, m.quote_escape.symm]
      rw [if_pos rfl, kept]
      exact .escaped ih
    · rw [if_neg doubled, substitute_cons]
      by_cases closing : c = m.quote
      · rw [if_pos closing, closing]
        exact .escaped ih
      · rw [if_neg closing]
        exact .plain closing doubled ih

/-! ### Reading back what is written -/

theorem read_append (m : Marks α) (reader : Reader α) (first second : List α) :
    m.read reader (first ++ second) = (m.read reader first).bind (m.read · second) := List.foldlM_append

theorem read_cons (m : Marks α) (reader : Reader α) (c : α) (rest : List α) :
    m.read reader (c :: rest) = (m.step reader c).bind (m.read · rest) := List.foldlM_cons

theorem read_name {name : List α} (named : ∀ c ∈ name, m.isName c) (found : List (List α × List α)) (before : List α) :
    m.read ⟨found, .name before⟩ name = some ⟨found, .name (before ++ name)⟩ := by
  induction name generalizing before with
  | nil => simp [read]
  | cons c rest ih =>
    obtain ⟨first, later⟩ := List.forall_mem_cons.mp named
    have step : m.step ⟨found, .name before⟩ c = some ⟨found, .name (before ++ [c])⟩ := if_pos first
    rw [read_cons, step, Option.bind_some, ih later, List.append_assoc, List.singleton_append]

theorem read_value (quoted : m.Quoted raw text) (found : List (List α × List α)) (name before : List α) :
    m.read ⟨found, .value name before⟩ raw = some ⟨found, .value name (before ++ text)⟩ := by
  induction quoted generalizing before with
  | nil => simp [read]
  | @plain c raw text inside unescaped _ ih =>
    have step : m.step ⟨found, .value name before⟩ c = some ⟨found, .value name (before ++ [c])⟩ :=
      (if_neg unescaped).trans (if_neg inside)
    rw [read_cons, step, Option.bind_some, ih, List.append_assoc, List.singleton_append]
  | @escaped c raw text _ ih =>
    have opened : m.step ⟨found, .value name before⟩ m.escape = some ⟨found, .escaped name before⟩ := if_pos rfl
    have step : m.step ⟨found, .escaped name before⟩ c = some ⟨found, .value name (before ++ [c])⟩ := rfl
    rw [read_cons, opened, Option.bind_some, read_cons, step, Option.bind_some, ih, List.append_assoc,
      List.singleton_append]

theorem read_written (param : Written m) (found : List (List α × List α)) :
    m.read ⟨found, .start⟩ param.text = some ⟨found ++ [param.entry], .closed⟩ := by
  obtain ⟨name, raw, value, nonempty, named, quoted⟩ := param
  obtain ⟨c, rest, rfl⟩ := List.exists_cons_of_ne_nil nonempty
  obtain ⟨first, later⟩ := List.forall_mem_cons.mp named
  have start : m.read ⟨found, .start⟩ (c :: rest) = some ⟨found, .name (c :: rest)⟩ := by
    have step : m.step ⟨found, .start⟩ c = some ⟨found, .name [c]⟩ := if_pos first
    rw [read_cons, step, Option.bind_some, read_name later, List.singleton_append]
  have opened : m.read ⟨found, .name (c :: rest)⟩ [m.equals, m.quote] = some ⟨found, .value (c :: rest) []⟩ := by
    simp [read, step, m.equals_apart]
  have closed : m.read ⟨found, .value (c :: rest) value⟩ [m.quote] = some ⟨found ++ [(c :: rest, value)], .closed⟩ := by
    simp [read, step, m.quote_escape]
  simp only [Written.text, Written.entry]
  rw [read_append, read_append, read_append, start, Option.bind_some, opened, Option.bind_some, read_value quoted,
    Option.bind_some, List.nil_append, closed]

theorem read_all (first : Written m) (rest : List (Written m)) (found : List (List α × List α)) :
    m.read ⟨found, .start⟩ ([m.comma, m.space].intercalate ((first :: rest).map Written.text)) =
      some ⟨found ++ (first :: rest).map Written.entry, .closed⟩ := by
  induction rest generalizing first found with
  | nil =>
    have alone : [m.comma, m.space].intercalate ([first].map Written.text) = first.text := by simp
    rw [alone, read_written]
    rfl
  | cons next rest ih =>
    have separated (found : List (List α × List α)) :
        m.read ⟨found, .closed⟩ [m.comma, m.space] = some ⟨found, .start⟩ := by
      simp [read, step, m.comma_space, m.space_apart]
    have later := ih next (found ++ [first.entry])
    rw [List.map_cons] at later
    rw [List.map_cons, List.map_cons, List.intercalate_cons_cons, read_append, read_append, read_written,
      Option.bind_some, separated, Option.bind_some, later]
    simp

theorem params_written (first : Written m) (rest : List (Written m)) :
    m.params ([m.comma, m.space].intercalate ((first :: rest).map Written.text)) =
      some ((first :: rest).map Written.entry) := by
  unfold Marks.params
  rw [read_all]
  rfl

end Marks

end PetBackend.Library
