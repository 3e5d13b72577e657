import Introspection.Registry.Interfaces

/-!
# The methods of a type

Every method that can be called on a type, private ones included: those of the
type and of each superclass below the root class, each class followed by its
interfaces. Methods with the same erased signature are one method, and the
earliest, which lies nearest to the type, stands for all of them.
-/

set_option autoImplicit false

namespace Introspection

/-- What tells methods apart: erased return type, name, erased parameters. -/
structure Signature where
  returns : TypeExpr
  name : String
  parameters : List TypeExpr
  deriving DecidableEq

namespace Signature

def ofMethod (decl : TypeDecl) (method : Method) : Signature where
  returns := decl.erase method.returns
  name := method.name
  parameters := method.parameters.map decl.erase

def ofMethod? (decl : TypeDecl) (method : Method) : Option Signature := do
  let returns ← decl.erase? method.returns
  let parameters ← method.parameters.mapM decl.erase?
  return ⟨returns, method.name, parameters⟩

def commaJoined : List String → String
  | [] => ""
  | [last] => last
  | first :: rest => first ++ "," ++ commaJoined rest

/-- The written form `returns#name:first,second`, without a colon when there
are no parameters. -/
def text (signature : Signature) : String :=
  signature.returns.text ++ "#" ++ signature.name ++
    match signature.parameters with
    | [] => ""
    | parameters => ":" ++ commaJoined (parameters.map TypeExpr.text)

end Signature

/-- The methods that a type declares itself, each with its signature; methods
written by the compiler do not count. -/
def TypeDecl.signedMethods (decl : TypeDecl) : List (Signature × Method) :=
  (decl.methods.filter (fun method => !method.isGenerated)).map
    (fun method => (Signature.ofMethod decl method, method))

def TypeDecl.signedMethods? (decl : TypeDecl) : Option (List (Signature × Method)) :=
  (decl.methods.filter fun method => !method.isGenerated).mapM fun method =>
    (Signature.ofMethod? decl method).map fun signature => (signature, method)

namespace Registry

/-- The classes of a chain below the root class, each followed by all its
interfaces. -/
def contributors (registry : Registry) (chain : List TypeDecl) :
    Except MetadataError (List TypeDecl) :=
  ((chain.takeWhile (fun decl => decl.name != rootName)).mapM
    (fun decl => (registry.interfaces decl).map (decl :: ·))).map List.flatten

/-- The methods along a class chain, one for each signature. -/
def methodsAlong (registry : Registry) (chain : List TypeDecl) :
    Except MetadataError (List Method) :=
  (registry.contributors chain).map fun decls =>
    (OrderedMap.ofFirst (decls.flatMap TypeDecl.signedMethods)).values

def methods (registry : Registry) (name : String) : Except MetadataError (List Method) :=
  match registry.hierarchy name with
  | .ok chain => registry.methodsAlong chain
  | .error error => .error error

/-- Read the types along a class chain one after another. The interfaces of a class are looked for
only after the class itself has been read. -/
def readAlong? {α : Type} (registry : Registry) (read? : TypeDecl → Option (List α)) :
    List TypeDecl → Option (Except MetadataError (List α))
  | [] => some (.ok [])
  | decl :: above =>
      if decl.name = rootName then some (.ok [])
      else do
        let own ← read? decl
        match registry.interfaces decl with
        | .error error => some (.error error)
        | .ok interfaces =>
            let inherited ← interfaces.mapM read?
            let later ← registry.readAlong? read? above
            return later.map fun later => own ++ inherited.flatten ++ later

/-- The search for the methods of a type; none if it never ends, because the signature of some
method on the way has no erasure. -/
def methods? (registry : Registry) (name : String) : Option (Except MetadataError (List Method)) :=
  match registry.hierarchy name with
  | .ok chain =>
      (registry.readAlong? TypeDecl.signedMethods? chain).map fun signed =>
        signed.map fun signed => (OrderedMap.ofFirst signed).values
  | .error error => some (.error error)

/-- The signature of a method in its declaring type, if that is registered. -/
def signature? (registry : Registry) (method : Method) : Option Signature :=
  (registry.lookup? method.declaring).map (fun decl => Signature.ofMethod decl method)

end Registry

end Introspection
