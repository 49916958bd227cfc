/-!
# Structured values

The values that programs, tokens and log events are written as. An object keeps its fields in
the order in which they were given, so a writer shows them in that order.
-/

namespace LexisFront

/-- A structured value; numbers are natural. -/
inductive Json where
  | null
  | bool (value : Bool)
  | number (value : Nat)
  | string (value : String)
  | array (items : List Json)
  | object (fields : List (String × Json))
deriving Repr, Inhabited

namespace Json

/-- The value of a field of an object, the last one when the field is given twice. -/
def field? (fields : List (String × Json)) (name : String) : Option Json :=
  (fields.reverse.find? (·.1 == name)).map (·.2)

end Json

end LexisFront
