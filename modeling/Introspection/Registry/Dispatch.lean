import Introspection.Registry.Hierarchy

/-!
# Dispatch

Which method a call reaches: the nearest class of the target's chain that
declares a suitable method with a body decides, and the called method's own body
is the fallback.
-/

set_option autoImplicit false

namespace Introspection

def Method.withBody? (method : Method) : Option Method :=
  if method.body.isSome then some method else none

/-- Whether a method of this type takes the place of a virtual method with the
given name and erased parameters: it must be virtual, have a body, and be
written by hand. -/
def TypeDecl.overrides (decl : TypeDecl) (name : String) (parameters : List TypeExpr)
    (method : Method) : Bool :=
  method.name == name && method.isVirtual && method.body.isSome && !method.isGenerated &&
    method.parameters.map decl.erase == parameters

/-- Whether the types erase to the given ones. The comparison stops at the first that does not. -/
def TypeDecl.erasesTo? (decl : TypeDecl) : List TypeExpr → List TypeExpr → Option Bool
  | type :: types, wanted :: others => do
      let erasure ← decl.erase? type
      if erasure = wanted then decl.erasesTo? types others else return false
  | _, _ => some true

/-- The parameters are looked at only in a method that fits in everything else. -/
def TypeDecl.overrides? (decl : TypeDecl) (name : String) (parameters : List TypeExpr)
    (method : Method) : Option Bool :=
  if method.name == name && method.isVirtual && method.body.isSome && !method.isGenerated &&
      method.parameters.length == parameters.length then
    decl.erasesTo? method.parameters parameters
  else some false

namespace Registry

/-- The first method along the chain that takes the place of the given one. -/
def overriding? (chain : List TypeDecl) (name : String) (parameters : List TypeExpr) :
    Option Method :=
  chain.findSome? (fun decl => decl.methods.find? (decl.overrides name parameters))

/-- The same search, method by method. -/
def searchOverriding? (chain : List TypeDecl) (name : String) (parameters : List TypeExpr) :
    Option (Option Method) :=
  chain.findSomeM? fun decl => decl.methods.findM? (decl.overrides? name parameters)

/-- The method whose body runs when `method` is called on an object of the
given type. Private and static methods stand for themselves. -/
def implementation? (registry : Registry) (runtimeType : String) (method : Method) :
    Option Method :=
  if method.isVirtual then
    match registry.lookup? method.declaring with
    | none => none
    | some declaring =>
        match registry.hierarchy runtimeType with
        | .ok chain =>
            (overriding? chain method.name (method.parameters.map declaring.erase)).or
              method.withBody?
        | .error _ => method.withBody?
  else method.withBody?

/-- The search for the method whose body runs; none if it never ends, because the parameters of
some method that it compares have no erasure. -/
def searchImplementation? (registry : Registry) (runtimeType : String) (method : Method) :
    Option (Option Method) :=
  if method.isVirtual then
    match registry.lookup? method.declaring with
    | none => some none
    | some declaring => do
        let wanted ← method.parameters.mapM declaring.erase?
        match registry.hierarchy runtimeType with
        | .ok chain =>
            let overriding ← searchOverriding? chain method.name wanted
            return overriding.or method.withBody?
        | .error _ => return method.withBody?
  else some method.withBody?

end Registry

end Introspection
