import Introspection.Member

/-!
# Type declarations

The member table of one class or interface, with its supertypes and type
parameters. A member learns the name of its declaring type when it is added.
-/

set_option autoImplicit false

namespace Introspection

inductive TypeKind where
  | classKind
  | interfaceKind
  deriving DecidableEq

structure TypeParameter where
  name : String
  /-- The upper bound; the root class when there is none. -/
  bound : Option TypeExpr
  deriving DecidableEq

structure TypeDecl where
  name : String
  kind : TypeKind
  modifiers : Modifiers
  parameters : List TypeParameter
  /-- The `extends` clause; none for the root class and for interfaces. -/
  superclass : Option TypeExpr
  /-- The `implements` clauses; for an interface, its super-interfaces. -/
  interfaces : List TypeExpr
  fields : List Field
  /-- The static slots, each with the value that it starts with. -/
  statics : OrderedMap String Value
  methods : List Method
  constructors : List Constructor

namespace TypeDecl

/-- A public type of the given sort that declares nothing. -/
def bare (name : String) (kind : TypeKind) : TypeDecl where
  name := name
  kind := kind
  modifiers := .publicOnly
  parameters := []
  superclass := none
  interfaces := []
  fields := []
  statics := .empty
  methods := []
  constructors := []

def ofClass (name : String) : TypeDecl :=
  { bare name .classKind with superclass := some .root }

def ofAbstractClass (name : String) : TypeDecl :=
  { ofClass name with modifiers := .publicAbstract }

def ofInterface (name : String) : TypeDecl :=
  { bare name .interfaceKind with modifiers := .publicAbstract }

/-- Add a field. A static one gets its slot here. -/
def addField (decl : TypeDecl) (field : Field) : TypeDecl :=
  { decl with
    fields := decl.fields ++ [{ field with declaring := decl.name }]
    statics :=
      if field.isStatic then decl.statics.insert field.name field.initialValue
      else decl.statics }

def addMethod (decl : TypeDecl) (method : Method) : TypeDecl :=
  { decl with methods := decl.methods ++ [{ method with declaring := decl.name }] }

def isInterface (decl : TypeDecl) : Bool := decl.kind == .interfaceKind

/-- Whether the type has no instances of its own. -/
def isAbstract (decl : TypeDecl) : Bool := decl.isInterface || decl.modifiers.isAbstract

/-- The supertypes as written: the superclass, then the interfaces. -/
def clauses (decl : TypeDecl) : List TypeExpr := decl.superclass.toList ++ decl.interfaces

def parameter? (decl : TypeDecl) (name : String) : Option TypeParameter :=
  decl.parameters.find? (fun parameter => parameter.name == name)

def field? (decl : TypeDecl) (name : String) : Option Field :=
  decl.fields.find? (fun field => field.name == name)

def instanceFields (decl : TypeDecl) : List Field :=
  decl.fields.filter (fun field => !field.isStatic)

/-- The constructor without parameters, the first if there are several. -/
def defaultConstructor? (decl : TypeDecl) : Option Constructor :=
  decl.constructors.find? (fun constructor => constructor.parameters.isEmpty)

end TypeDecl

end Introspection
