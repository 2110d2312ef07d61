/-!
# JSON values

An object keeps its members in order, and a key may come more than once.
-/

namespace Inset.Json

/-- A number is an integer or a double. -/
inductive Number
  | integer (value : Int)
  | real (value : Float)
  deriving Inhabited

/-- A JSON value. -/
inductive Value
  | null
  | boolean (value : Bool)
  | number (value : Number)
  | string (text : String)
  | array (items : List Value)
  | object (members : List (String × Value))
  deriving Inhabited

end Inset.Json
