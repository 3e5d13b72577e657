import Introspection.Registry.Hierarchy
import Introspection.Search

/-!
# Interfaces

The interfaces that a type implements, directly or through other interfaces:
the direct ones first, then theirs, each once. Interfaces that extend each other
in a ring are no obstacle; a clause that leads to no registered type is an error.
-/

set_option autoImplicit false

namespace Introspection

def TypeDecl.interfaceLinks (decl : TypeDecl) : List Link := decl.interfaces.map TypeExpr.link

namespace Registry

def nextInterfaces (registry : Registry) : Link → List Link
  | .toType name => ((registry.lookup? name).map TypeDecl.interfaceLinks).getD []
  | .toNothing _ => []

def interfaceCount (registry : Registry) : Nat :=
  (registry.declarations.flatMap TypeDecl.interfaces).length

/-- All interface links that lead away from a type, in order of discovery. -/
def interfaceLinksFrom (registry : Registry) (decl : TypeDecl) : List Link :=
  Search.breadthFirst registry.nextInterfaces
    (decl.interfaces.length + registry.interfaceCount) decl.interfaceLinks

/-- All interfaces of a type; the first link that leads nowhere is an error. -/
def interfaces (registry : Registry) (decl : TypeDecl) : Except MetadataError (List TypeDecl) :=
  (registry.interfaceLinksFrom decl).mapM registry.follow

end Registry

end Introspection
