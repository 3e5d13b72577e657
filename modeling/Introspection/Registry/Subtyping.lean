import Introspection.Registry.Hierarchy
import Introspection.Search

/-!
# Subtyping

When a class or interface is a subtype of another, and when a value of one
erased type can be stored as another. Subtyping follows the `extends` and
`implements` clauses of registered types; every name is a subtype of itself and
of the root class, registered or not.
-/

set_option autoImplicit false

namespace Introspection

/-- The names of the direct supertypes, as far as the clauses name any. -/
def TypeDecl.parentNames (decl : TypeDecl) : List String := decl.clauses.filterMap TypeExpr.rawName?

namespace Registry

def parentNames (registry : Registry) (name : String) : List String :=
  ((registry.lookup? name).map TypeDecl.parentNames).getD []

def clauseCount (registry : Registry) : Nat :=
  (registry.declarations.flatMap TypeDecl.clauses).length

/-- The name itself and all names that its supertype clauses lead to. -/
def ancestors (registry : Registry) (name : String) : List String :=
  Search.breadthFirst registry.parentNames (registry.clauseCount + 1) [name]

def isSubtype (registry : Registry) (sub super : String) : Bool :=
  sub == super || super == rootName || (registry.ancestors sub).contains super

/-- Whether a value of the erased type `source` can be stored as `target`.
Primitives fit only themselves; arrays of references follow their elements. -/
def isAssignable (registry : Registry) : TypeExpr → TypeExpr → Bool
  | target@(.array element), source =>
      target == source ||
        match source with
        | .array other =>
            !element.isPrimitive && !other.isPrimitive && registry.isAssignable element other
        | _ => false
  | target, source =>
      target == source ||
        match target, source with
        | .named name, .array _ => name == rootName
        | _, _ =>
            match target.rawName?, source.rawName? with
            | some super, some sub => registry.isSubtype sub super
            | _, _ => false

/-- Whether a value can be stored in a slot of the erased type. A boxed number
fits every class that some boxed form of it fits. -/
def conforms (registry : Registry) (value : Value) : TypeExpr → Bool
  | .void => false
  | .var _ => true
  | .primitive kind =>
      match value with
      | .bool _ => kind == .boolean
      | .int number => kind.holds number
      | .float _ => kind.isFloating
      | .char _ => kind == .char
      | _ => false
  | .array element =>
      match value with
      | .null => true
      | .array items => items.all (fun item => registry.conforms item element)
      | _ => false
  | .named name | .applied name _ =>
      match value with
      | .null => true
      | .bool _ => registry.isSubtype Primitive.boolean.boxedClass name
      | .int number =>
          (Primitive.integral.filter (fun kind => kind.holds number)).any
            (fun kind => registry.isSubtype kind.boxedClass name)
      | .float _ =>
          Primitive.floating.any (fun kind => registry.isSubtype kind.boxedClass name)
      | .char _ => registry.isSubtype Primitive.char.boxedClass name
      | .string _ => registry.isSubtype "String" name
      | .array _ => name == rootName
      | .object reference => registry.isSubtype reference.typeName name

end Registry

end Introspection
