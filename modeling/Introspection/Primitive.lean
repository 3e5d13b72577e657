/-!
# Primitive types

The eight unboxed value types, their names, the classes that box them, and
which whole numbers each can hold.
-/

set_option autoImplicit false

namespace Introspection

inductive Primitive where
  | boolean
  | byte
  | short
  | int
  | long
  | float
  | double
  | char
  deriving DecidableEq

namespace Primitive

def all : List Primitive := [boolean, byte, short, int, long, float, double, char]

def name : Primitive → String
  | boolean => "boolean"
  | byte => "byte"
  | short => "short"
  | int => "int"
  | long => "long"
  | float => "float"
  | double => "double"
  | char => "char"

def ofName? (text : String) : Option Primitive := all.find? (fun primitive => primitive.name == text)

/-- The class that wraps a boxed value of the primitive. -/
def boxedClass : Primitive → String
  | boolean => "Boolean"
  | byte => "Byte"
  | short => "Short"
  | int => "Integer"
  | long => "Long"
  | float => "Float"
  | double => "Double"
  | char => "Character"

def isFloating : Primitive → Bool
  | float | double => true
  | _ => false

/-- Whether a whole number is a value of the primitive. The floating-point
types take every one; `boolean` and `char` take none. -/
def holds : Primitive → Int64 → Bool
  | byte, number => -128 ≤ number.toInt && number.toInt ≤ 127
  | short, number => -32768 ≤ number.toInt && number.toInt ≤ 32767
  | int, number => -2147483648 ≤ number.toInt && number.toInt ≤ 2147483647
  | long, _ | float, _ | double, _ => true
  | boolean, _ | char, _ => false

def integral : List Primitive := [byte, short, int, long]

def floating : List Primitive := [float, double]

end Primitive

end Introspection
