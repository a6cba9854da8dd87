/-!
# Attributes of Python objects
-/

namespace PetBackend

/-- An object as `getattr` sees it. A `leaf` is a value whose attributes nobody reads. -/
inductive PyObject where
  | none
  | bool (value : Bool)
  | str (value : String)
  | leaf (truthy : Bool)
  | object (attributes : List (String × PyObject))

namespace PyObject

def truthy : PyObject → Bool
  | none => false
  | bool value => value
  | str value => value != ""
  | leaf truthy => truthy
  | object _ => true

/-- `getattr(value, name, None)`. -/
def getattr (value : PyObject) (name : String) : PyObject :=
  match value with
  | object attributes => (attributes.lookup name).getD none
  | _ => none

/-- `first or second`. -/
def or (first second : PyObject) : PyObject := if first.truthy then first else second

def isNone : PyObject → Bool
  | none => true
  | _ => false

def str? : PyObject → Option String
  | str value => some value
  | _ => Option.none

def ofOption : Option String → PyObject
  | some value => str value
  | Option.none => none

end PyObject

end PetBackend
