import Introspection.Registry

/-!
# The class hierarchy

The chain of superclasses of a type, up to and including a class without one.
A chain is refused when it reaches a class twice, and when it has more than
`longestChain` classes.
-/

set_option autoImplicit false

namespace Introspection

/-- What a supertype clause leads to: the class it names, or, when it names
none, just its text. -/
inductive Link where
  | toType (name : String)
  | toNothing (text : String)
  deriving DecidableEq

def TypeExpr.link (clause : TypeExpr) : Link :=
  match clause.rawName? with
  | some name => .toType name
  | none => .toNothing clause.text

namespace Registry

def longestChain : Nat := 256

def follow (registry : Registry) : Link → Except MetadataError TypeDecl
  | .toType name => registry.require name
  | .toNothing text => .error (.unknownType text)

def superclass? (registry : Registry) (decl : TypeDecl) :
    Except MetadataError (Option TypeDecl) :=
  match decl.superclass with
  | some clause => (registry.follow clause.link).map some
  | none => .ok none

/-- The chain from a type upward, with room for the given number of classes,
after the classes in `below`. -/
def chainFrom (registry : Registry) :
    Nat → List String → TypeDecl → Except MetadataError (List TypeDecl)
  | 0, _, decl => .error (.circularHierarchy decl.name)
  | room + 1, below, decl =>
      if decl.name ∈ below then .error (.circularHierarchy decl.name)
      else
        match registry.superclass? decl with
        | .error error => .error error
        | .ok none => .ok [decl]
        | .ok (some parent) =>
            (registry.chainFrom room (decl.name :: below) parent).map (decl :: ·)

/-- The class chain of the named type: the type first, the root class last. -/
def hierarchy (registry : Registry) (name : String) : Except MetadataError (List TypeDecl) :=
  match registry.require name with
  | .ok decl => registry.chainFrom longestChain [] decl
  | .error error => .error error

end Registry

end Introspection
