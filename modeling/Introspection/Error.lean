import Introspection.TypeExpr

/-!
# Errors

Two kinds of failure: a type that cannot be described, or a query that its
description cannot answer (`MetadataError`); and an operation on an object that
is refused or fails while it runs (`AccessError`). Each error is a cause; its
wording is in `message`.
-/

set_option autoImplicit false

namespace Introspection

inductive Side where
  | getter
  | setter
  deriving DecidableEq

def Side.name : Side → String
  | getter => "getter"
  | setter => "setter"

/-- Why a type has no description, or a description no answer. -/
inductive MetadataError where
  /-- Two getters of one property with equal or unrelated return types;
  `typeName` declares one of them. -/
  | ambiguousGetter (property typeName : String)
  /-- Two setters of one property with unrelated parameter types; `typeName`
  declares the later one. -/
  | ambiguousSetter (property typeName : String) (first second : TypeExpr)
  | noSuchProperty (side : Side) (property typeName : String)
  | noDefaultConstructor (typeName : String)
  /-- A type, or a supertype of one, that is not registered. -/
  | unknownType (name : String)
  /-- A type that its own superclass chain reaches again. -/
  | circularHierarchy (name : String)
  deriving DecidableEq

def MetadataError.message : MetadataError → String
  | ambiguousGetter property typeName =>
      "Illegal overloaded getter method with ambiguous type for property '" ++ property ++
        "' in class '" ++ typeName ++ "'"
  | ambiguousSetter property typeName first second =>
      "Ambiguous setters defined for property '" ++ property ++ "' in class '" ++ typeName ++
        "' with types '" ++ first.text ++ "' and '" ++ second.text ++ "'"
  | noSuchProperty side property typeName =>
      "There is no " ++ side.name ++ " for property named '" ++ property ++ "' in '" ++
        typeName ++ "'"
  | noDefaultConstructor typeName =>
      "There is no default constructor for '" ++ typeName ++ "'"
  | unknownType name => "Unknown type '" ++ name ++ "'"
  | circularHierarchy name => "Circular type hierarchy detected at '" ++ name ++ "'"

/-- Why an operation on an object or a static field did not succeed. -/
inductive AccessError where
  /-- The target is no instance of the type that declares the member. -/
  | targetMismatch (expected actual : String)
  /-- The argument does not fit the declared type. -/
  | argumentMismatch (member : String) (expected : TypeExpr) (actual : String)
  | argumentCount (member : String) (expected actual : Nat)
  /-- No body can be reached from the type of the target. -/
  | abstractMethod (member typeName : String)
  /-- Interfaces and abstract classes have no instances of their own. -/
  | abstractType (typeName : String)
  /-- The permissions do not cover the member. -/
  | accessDenied (member typeName : String)
  /-- The object, or the static storage, has no slot of that name. -/
  | unknownField (field typeName : String)
  /-- The body of a member or constructor failed. -/
  | failed (reason : String)
  deriving DecidableEq

def AccessError.message : AccessError → String
  | targetMismatch expected actual =>
      "Object of type '" ++ actual ++ "' is not an instance of '" ++ expected ++ "'"
  | argumentMismatch member expected actual =>
      "Argument of kind '" ++ actual ++ "' is not assignable to '" ++ expected.text ++
        "' for member '" ++ member ++ "'"
  | argumentCount member expected actual =>
      "Member '" ++ member ++ "' expects " ++ toString expected ++ " argument(s), got " ++
        toString actual
  | abstractMethod member typeName =>
      "Method '" ++ member ++ "' has no implementation for '" ++ typeName ++ "'"
  | abstractType typeName => "Cannot instantiate abstract type '" ++ typeName ++ "'"
  | accessDenied member typeName =>
      "Access to non-public member '" ++ member ++ "' of '" ++ typeName ++ "' is not permitted"
  | unknownField field typeName => "Unknown field '" ++ field ++ "' on '" ++ typeName ++ "'"
  | failed reason => reason

end Introspection
