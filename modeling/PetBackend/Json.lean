import Mathlib.Data.Rat.Defs
import Mathlib.Algebra.Order.Ring.Rat

/-!
# JSON values as Python sees them

What `json.loads` yields, with the Python behaviour the code relies on: truthiness, `dict.get`,
and hashing, which decides membership in sets and dicts.
-/

namespace PetBackend

inductive PyFloat where
  | finite (value : ℚ)
  | infinite (negative : Bool)
  | nan
  deriving DecidableEq

inductive Json where
  | null
  | bool (value : Bool)
  | int (value : Int)
  | float (value : PyFloat)
  | str (value : String)
  | list (items : List Json)
  | dict (entries : List (String × Json))

abbrev JsonObject := List (String × Json)

/-- `mapping.get(name)`: a missing member reads as `None`. -/
def JsonObject.get (members : JsonObject) (name : String) : Json :=
  (members.lookup name).getD .null

namespace Json

def truthy : Json → Bool
  | null => false
  | bool value => value
  | int value => value != 0
  | float (.finite value) => value != 0
  | float _ => true
  | str value => value != ""
  | list items => !items.isEmpty
  | dict entries => !entries.isEmpty

def isNone : Json → Bool
  | null => true
  | _ => false

@[simp] theorem truthy_str {value : String} : (str value).truthy = true ↔ value ≠ "" := by
  simp [truthy]

end Json

/-- A hashable value up to Python equality: `True`, `1` and `1.0` are one dict key. The decoder
shares one NaN object, so identity makes it equal to itself. -/
inductive HashKey where
  | none
  | number (value : ℚ)
  | infinite (negative : Bool)
  | nan
  | str (value : String)
  deriving DecidableEq

namespace HashKey

/-- Values that `<` orders among themselves without raising. -/
def comparable : HashKey → HashKey → Bool
  | str _, str _ => true
  | str _, _ | _, str _ => false
  | none, _ | _, none => false
  | _, _ => true

/-- Whether `sorted` gets through: one element is never compared, and in a longer input the
comparisons connect all elements. -/
def sortable (kids : List HashKey) : Bool :=
  kids.length ≤ 1 || kids.all (fun a => kids.all (comparable a))

end HashKey

/-- The dict key of a value, absent for the unhashable lists and dicts. -/
def Json.hashKey? : Json → Option HashKey
  | .null => some .none
  | .bool value => some (.number (if value then 1 else 0))
  | .int value => some (.number value)
  | .float (.finite value) => some (.number value)
  | .float (.infinite negative) => some (.infinite negative)
  | .float .nan => some .nan
  | .str value => some (.str value)
  | .list _ | .dict _ => none

end PetBackend
