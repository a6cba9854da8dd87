/-!
# Python string methods
-/

namespace PetBackend.PyString

/-- `str.isspace` on one character. -/
def isSpace (c : Char) : Bool :=
  c ∈ ['\t', '\n', '\x0b', '\x0c', '\r', '\x1c', '\x1d', '\x1e', '\x1f', ' ', '\x85', '\u00a0',
    '\u1680', '\u2028', '\u2029', '\u202f', '\u205f', '\u3000'] ||
  ('\u2000' ≤ c && c ≤ '\u200a')

/-- `str.split()`. -/
def split (value : String) : List String :=
  ((value.toList.splitOnP isSpace).filter (fun word => !word.isEmpty)).map String.ofList

/-- `str.strip()`. -/
def strip (value : String) : String :=
  String.ofList (((value.toList.dropWhile isSpace).reverse.dropWhile isSpace).reverse)

end PetBackend.PyString
