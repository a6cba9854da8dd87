import PetBackend.Auth.Exc
import PetBackend.Json

/-!
# JSON between a decoder and an encoder

What `json.loads` yields, non-finite numbers and strings with lone surrogates included, and
`json.dumps` with `ensure_ascii=False`, `allow_nan=False` and the separators `,` and `:`.
-/

namespace PetBackend.Api
open Auth

abbrev CodePoint := Fin 0x110000

abbrev PyText := List CodePoint

def isSurrogate (c : CodePoint) : Bool := 0xD800 ≤ c.val && c.val ≤ 0xDFFF

/-- A text that UTF-8 can encode. -/
def Encodable (text : PyText) : Prop := ∀ c ∈ text, ¬ isSurrogate c

def ofChar (c : Char) : CodePoint := ⟨c.toNat, by
  rcases c.valid with below | above
  · exact Nat.lt_trans below (by decide)
  · exact above.2⟩

def ofString (text : String) : PyText := text.toList.map ofChar

/-- `text.encode()`. A string stands for its UTF-8 encoding. -/
def encodeUtf8 (text : PyText) : Except PyExc String :=
  if text.any isSurrogate then .error (.other "UnicodeEncodeError")
  else .ok (String.ofList (text.map fun c => Char.ofNat c.val))

/-- A JSON value, or an object of another class where JSON has a value. -/
inductive PyValue (E : Type) where
  | null
  | bool (value : Bool)
  | int (value : Int)
  | float (value : PyFloat)
  | str (text : PyText)
  | list (items : List (PyValue E))
  | dict (entries : List (PyText × PyValue E))
  | object (value : E)

abbrev PyJson := PyValue Empty

theorem PyValue.induct {E : Type} {motive : PyValue E → Prop} (null : motive .null)
    (bool : ∀ b, motive (.bool b)) (int : ∀ n, motive (.int n)) (float : ∀ x, motive (.float x))
    (str : ∀ text, motive (.str text)) (list : ∀ items, (∀ v ∈ items, motive v) → motive (.list items))
    (dict : ∀ entries, (∀ k v, (k, v) ∈ entries → motive v) → motive (.dict entries))
    (object : ∀ e, motive (.object e)) : ∀ value, motive value
  | .null => null
  | .bool b => bool b
  | .int n => int n
  | .float x => float x
  | .str text => str text
  | .list items => list items fun v _ => PyValue.induct null bool int float str list dict object v
  | .dict entries => dict entries fun k v member =>
    have inside := List.sizeOf_lt_of_mem member
    have smaller : sizeOf v < sizeOf (k, v) := by
      simp only [Prod.mk.sizeOf_spec]
      omega
    PyValue.induct null bool int float str list dict object v
  | .object e => object e

/-- Every number is finite and every text encodable. -/
inductive Renderable : PyJson → Prop where
  | null : Renderable .null
  | bool (b : Bool) : Renderable (.bool b)
  | int (n : Int) : Renderable (.int n)
  | float (x : ℚ) : Renderable (.float (.finite x))
  | str {text : PyText} (encodable : Encodable text) : Renderable (.str text)
  | list {items : List PyJson} (each : ∀ v ∈ items, Renderable v) : Renderable (.list items)
  | dict {entries : List (PyText × PyJson)} (keys : ∀ k v, (k, v) ∈ entries → Encodable k)
      (values : ∀ k v, (k, v) ∈ entries → Renderable v) : Renderable (.dict entries)

theorem ofString_encodable (text : String) : Encodable (ofString text) := by
  intro c member surrogate
  obtain ⟨char, -, rfl⟩ := List.mem_map.mp member
  obtain ⟨atLeast, atMost⟩ := Bool.and_eq_true_iff.mp surrogate
  rcases char.valid with below | above
  · exact absurd below (not_lt.mpr (of_decide_eq_true atLeast))
  · exact absurd above.1 (not_lt.mpr (of_decide_eq_true atMost))

theorem encodeUtf8_ok {text : PyText} : (∃ encoded, encodeUtf8 text = .ok encoded) ↔ Encodable text := by
  have clean : text.any isSurrogate = false ↔ Encodable text := List.any_eq_false
  unfold encodeUtf8
  by_cases found : text.any isSurrogate = true
  · rw [if_pos found]
    refine ⟨nofun, fun encodable => ?_⟩
    rw [clean.mpr encodable] at found
    cases found
  · rw [if_neg found]
    exact ⟨fun _ => clean.mp (Bool.eq_false_iff.mpr found), fun _ => ⟨_, rfl⟩⟩

/-! ### `json.dumps` -/

/-- The escapes of a JSON string: the quote, the backslash and the control characters. -/
def escape (c : CodePoint) : PyText :=
  match c.val with
  | 0x22 => ofString "\\\""
  | 0x5C => ofString "\\\\"
  | 0x0A => ofString "\\n"
  | 0x0D => ofString "\\r"
  | 0x09 => ofString "\\t"
  | 0x0C => ofString "\\f"
  | 0x08 => ofString "\\b"
  | code =>
    if code < 0x10 then ofString ("\\u000" ++ String.ofList (Nat.toDigits 16 code))
    else if code < 0x20 then ofString ("\\u00" ++ String.ofList (Nat.toDigits 16 code))
    else [c]

def quote (text : PyText) : PyText := ofString "\"" ++ text.flatMap escape ++ ofString "\""

def joined (parts : List PyText) : PyText := (ofString ",").intercalate parts

section
variable (floatRepr : ℚ → String)

mutual

def dumps : PyJson → Except PyExc PyText
  | .null => .ok (ofString "null")
  | .bool true => .ok (ofString "true")
  | .bool false => .ok (ofString "false")
  | .int value => .ok (ofString (toString value))
  | .float (.finite value) => .ok (ofString (floatRepr value))
  | .float _ => .error (.valueError "Out of range float values are not JSON compliant")
  | .str text => .ok (quote text)
  | .list items => do return ofString "[" ++ joined (← dumpsItems items) ++ ofString "]"
  | .dict entries => do return ofString "\x7b" ++ joined (← dumpsEntries entries) ++ ofString "\x7d"
  | .object value => nomatch value

def dumpsItems : List PyJson → Except PyExc (List PyText)
  | [] => .ok []
  | item :: rest => do return (← dumps item) :: (← dumpsItems rest)

def dumpsEntries : List (PyText × PyJson) → Except PyExc (List PyText)
  | [] => .ok []
  | (key, value) :: rest => do
    return (quote key ++ ofString ":" ++ (← dumps value)) :: (← dumpsEntries rest)

end

end

theorem encodable_append {first second : PyText} :
    Encodable (first ++ second) ↔ Encodable first ∧ Encodable second := List.forall_mem_append

theorem not_surrogate {c : CodePoint} (low : c.val < 0x60) : ¬ isSurrogate c := by
  intro surrogate
  have atLeast := of_decide_eq_true (Bool.and_eq_true_iff.mp surrogate).1
  omega

/-- What is escaped is ASCII, and so is the escape. -/
theorem escape_encodable {c : CodePoint} : Encodable (escape c) ↔ ¬ isSurrogate c := by
  have ascii (text : String) (low : c.val < 0x60) : Encodable (ofString text) ↔ ¬ isSurrogate c :=
    iff_of_true (ofString_encodable text) (not_surrogate low)
  unfold escape
  split
  case h_8 =>
    split
    · exact ascii _ (by omega)
    · split
      · exact ascii _ (by omega)
      · exact List.forall_mem_singleton
  all_goals exact ascii _ (by omega)

theorem quote_encodable {text : PyText} : Encodable (quote text) ↔ Encodable text := by
  unfold quote
  rw [encodable_append, encodable_append]
  have escaped : Encodable (text.flatMap escape) ↔ Encodable text := by
    constructor
    · intro encodable c member
      exact escape_encodable.mp fun d inside => encodable d (List.mem_flatMap.mpr ⟨c, member, inside⟩)
    · intro encodable d member
      obtain ⟨c, inside, among⟩ := List.mem_flatMap.mp member
      exact escape_encodable.mpr (encodable c inside) d among
  rw [escaped]
  exact ⟨fun ⟨⟨_, encodable⟩, _⟩ => encodable,
    fun encodable => ⟨⟨ofString_encodable _, encodable⟩, ofString_encodable _⟩⟩

theorem joined_encodable {parts : List PyText} : Encodable (joined parts) ↔ ∀ part ∈ parts, Encodable part := by
  induction parts with
  | nil => simp [joined, Encodable]
  | cons part rest ih =>
    cases rest with
    | nil => simp [joined]
    | cons next rest =>
      have step : joined (part :: next :: rest) = part ++ (ofString "," ++ joined (next :: rest)) := by
        simp [joined, List.intercalate]
      rw [step, encodable_append, encodable_append, ih, List.forall_mem_cons (l := next :: rest)]
      exact ⟨fun ⟨first, _, later⟩ => ⟨first, later⟩, fun ⟨first, later⟩ => ⟨first, ofString_encodable _, later⟩⟩

/-! ### What `dumps` can render -/

section
variable {floatRepr : ℚ → String}

/-- The outcome is there and UTF-8 can encode all of it. -/
def Rendered (outcome : Except PyExc PyText) : Prop := ∃ text, outcome = .ok text ∧ Encodable text

def RenderedAll (outcome : Except PyExc (List PyText)) : Prop :=
  ∃ texts, outcome = .ok texts ∧ ∀ text ∈ texts, Encodable text

theorem rendered_ok {text : PyText} : Rendered (.ok text) ↔ Encodable text := by
  simp [Rendered]

theorem renderedAll_cons (first : Except PyExc PyText) (rest : Except PyExc (List PyText))
    (entry : PyText → PyText) {P : Prop} (encodable : ∀ text, Encodable (entry text) ↔ P ∧ Encodable text) :
    RenderedAll (do return entry (← first) :: (← rest)) ↔ P ∧ Rendered first ∧ RenderedAll rest := by
  cases first with
  | error raised => simp [Rendered, RenderedAll, bind, Except.bind]
  | ok text =>
    cases rest with
    | error raised => simp [RenderedAll, bind, Except.bind]
    | ok texts => simp [Rendered, RenderedAll, bind, Except.bind, pure, Except.pure, encodable, and_assoc]

theorem rendered_joined {left right : String} {parts : Except PyExc (List PyText)} :
    Rendered (do return ofString left ++ joined (← parts) ++ ofString right) ↔ RenderedAll parts := by
  cases parts with
  | error raised => simp [Rendered, RenderedAll, bind, Except.bind]
  | ok texts =>
    simp [Rendered, RenderedAll, bind, Except.bind, pure, Except.pure, encodable_append, joined_encodable,
      ofString_encodable]

theorem dumpsItems_rendered {items : List PyJson}
    (each : ∀ v ∈ items, Rendered (dumps floatRepr v) ↔ Renderable v) :
    RenderedAll (dumpsItems floatRepr items) ↔ ∀ v ∈ items, Renderable v := by
  induction items with
  | nil => simp [dumpsItems, RenderedAll]
  | cons item rest ih =>
    obtain ⟨first, later⟩ := List.forall_mem_cons.mp each
    have turn := renderedAll_cons (dumps floatRepr item) (dumpsItems floatRepr rest) id (P := True)
      fun _ => (iff_of_eq (true_and _)).symm
    rw [first, ih later, true_and] at turn
    rw [dumpsItems, List.forall_mem_cons]
    exact turn

theorem dumpsEntries_rendered {entries : List (PyText × PyJson)}
    (each : ∀ k v, (k, v) ∈ entries → (Rendered (dumps floatRepr v) ↔ Renderable v)) :
    RenderedAll (dumpsEntries floatRepr entries) ↔
      ∀ k v, (k, v) ∈ entries → Encodable k ∧ Renderable v := by
  induction entries with
  | nil => simp [dumpsEntries, RenderedAll]
  | cons entry rest ih =>
    obtain ⟨key, value⟩ := entry
    have first := each key value List.mem_cons_self
    have later := ih fun k v member => each k v (List.mem_cons_of_mem _ member)
    have member (text : PyText) : Encodable (quote key ++ ofString ":" ++ text) ↔ Encodable key ∧ Encodable text := by
      rw [encodable_append, encodable_append, quote_encodable]
      simp [ofString_encodable]
    have turn := renderedAll_cons (dumps floatRepr value) (dumpsEntries floatRepr rest)
      (fun text => quote key ++ ofString ":" ++ text) member
    rw [first, later] at turn
    rw [dumpsEntries]
    refine turn.trans ⟨?_, fun all => ?_⟩
    · rintro ⟨encodable, renderable, others⟩ k v member
      rcases List.mem_cons.mp member with same | inside
      · cases same
        exact ⟨encodable, renderable⟩
      · exact others k v inside
    · obtain ⟨encodable, renderable⟩ := all key value List.mem_cons_self
      exact ⟨encodable, renderable, fun k v member => all k v (List.mem_cons_of_mem _ member)⟩

theorem dumps_rendered (floatRepr : ℚ → String) (value : PyJson) : Rendered (dumps floatRepr value) ↔ Renderable value := by
  induction value using PyValue.induct with
  | null => exact iff_of_true (rendered_ok.mpr (ofString_encodable _)) .null
  | bool b =>
    refine iff_of_true ?_ (.bool b)
    cases b <;> exact rendered_ok.mpr (ofString_encodable _)
  | int n => exact iff_of_true (rendered_ok.mpr (ofString_encodable _)) (.int n)
  | float x =>
    cases x with
    | finite q => exact iff_of_true (rendered_ok.mpr (ofString_encodable _)) (.float q)
    | _ => exact iff_of_false nofun nofun
  | str text =>
    refine rendered_ok.trans (quote_encodable.trans ⟨.str, fun renderable => ?_⟩)
    cases renderable with
    | str encodable => exact encodable
  | list items ih =>
    refine rendered_joined.trans ((dumpsItems_rendered ih).trans ⟨.list, fun renderable => ?_⟩)
    cases renderable with
    | list each => exact each
  | dict entries ih =>
    refine rendered_joined.trans ((dumpsEntries_rendered ih).trans ⟨fun all => ?_, fun renderable => ?_⟩)
    · exact .dict (fun k v member => (all k v member).1) fun k v member => (all k v member).2
    · cases renderable with
      | dict keys values => exact fun k v member => ⟨keys k v member, values k v member⟩
  | object e => exact nomatch e

end

end PetBackend.Api
