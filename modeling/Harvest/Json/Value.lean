/-!
# Harvest.Json.Value

JSON values as the library builds and reads them.

Objects keep their members in the order given: a writer that wants sorted names sorts them
before building the object. Numbers are either integers or binary64 floats, because the two are
written differently.
-/

namespace Harvest

namespace Json

/-- A JSON value. -/
inductive Value where
  | null
  | bool (b : Bool)
  | int (n : Int)
  | float (x : Float)
  | str (s : String)
  | arr (items : List Value)
  | obj (members : List (String × Value))
  deriving Inhabited

/-- The member of an object with the given name; the last one when the name repeats. -/
def Value.field? (j : Value) (name : String) : Option Value :=
  match j with
  | .obj ms => (ms.reverse.find? (·.1 == name)).map (·.2)
  | _ => none

end Json

end Harvest
