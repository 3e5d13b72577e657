/-!
# Values

What fields hold and methods take and return. An object is a reference: two
references are equal when they are the same object, whatever its slots hold.
The type of an object never changes, so the reference names it.
-/

set_option autoImplicit false

namespace Introspection

/-- The identity of one object, with the type it was made as. -/
structure ObjectRef where
  /-- The type of the object. -/
  typeName : String
  /-- Which object of the store this is. -/
  number : Nat
  deriving DecidableEq

inductive Value where
  | null
  | bool (flag : Bool)
  /-- Any whole number. -/
  | int (number : Int64)
  /-- Any floating-point number. -/
  | float (number : Float)
  | char (char : Char)
  | string (text : String)
  | array (items : List Value)
  | object (reference : ObjectRef)

namespace Value

mutual

/-- Equality of values: numbers by value (so no NaN equals itself, and the two
zeros are equal), arrays item by item, objects by identity. -/
def same : Value → Value → Bool
  | null, null => true
  | bool left, bool right => left == right
  | int left, int right => left == right
  | float left, float right => left == right
  | char left, char right => left == right
  | string left, string right => left == right
  | array left, array right => sameItems left right
  | object left, object right => left == right
  | _, _ => false

def sameItems : List Value → List Value → Bool
  | [], [] => true
  | left :: lefts, right :: rights => left.same right && sameItems lefts rights
  | _, _ => false

end

def isNull : Value → Bool
  | null => true
  | _ => false

def toBool? : Value → Option Bool
  | bool flag => some flag
  | _ => none

def toInt? : Value → Option Int64
  | int number => some number
  | _ => none

/-- The floating-point number; a whole number is rounded to the nearest one,
a tie to the even neighbour. -/
def toFloat? : Value → Option Float
  | float number => some number
  | int number => some number.toFloat
  | _ => none

def toText? : Value → Option String
  | string text => some text
  | _ => none

def toObject? : Value → Option ObjectRef
  | object reference => some reference
  | _ => none

def kindName : Value → String
  | null => "null"
  | bool _ => "boolean"
  | int _ => "int"
  | float _ => "float"
  | char _ => "char"
  | string _ => "String"
  | array _ => "array"
  | object reference => reference.typeName

end Value

end Introspection
