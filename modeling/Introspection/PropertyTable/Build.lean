import Introspection.Namer
import Introspection.PropertyTable
import Introspection.Registry.Methods
import Introspection.Registry.Resolution
import Introspection.Selection

/-!
# Building a property table

The methods of the type are sorted into getters and setters of properties, one
accessor is chosen for each, and every field that no method covers becomes a
property of its own. The order is the order of discovery: properties of methods
first, then fields from the type upward.
-/

set_option autoImplicit false

namespace Introspection

structure TableBuilder where
  registry : Registry
  namer : Namer
  resolver : TypeResolver
  permissions : Permissions

namespace TableBuilder

/-- The usual naming, generic types resolved, full access. -/
def ofRegistry (registry : Registry) : TableBuilder :=
  ⟨registry, .beans, .generic, .all⟩

def access (builder : TableBuilder) : Access := ⟨builder.registry, builder.permissions⟩

/-- The property that a method may stand for on the given side. -/
def propertyOf? (builder : TableBuilder) (side : Side) (method : Method) : Option String :=
  match builder.namer.classify method with
  | some (role, property) =>
      if role = side ∧ isPropertyName property then some property else none
  | none => none

/-- The candidates for one side of each property, in order of discovery. -/
def candidates (builder : TableBuilder) (side : Side) (methods : List Method) :
    OrderedMap String (List Method) :=
  .groups (methods.filterMap fun method =>
    (builder.propertyOf? side method).map fun property => (property, method))

/-- A type declared in the named type, as seen from the context. -/
def resolve (builder : TableBuilder) (context : TypeDecl) (declaring : String)
    (declared : TypeExpr) : Except MetadataError TypeExpr :=
  (builder.registry.require declaring).map fun decl =>
    builder.resolver builder.registry declared decl context

def addGetter (builder : TableBuilder) (context : TypeDecl) (found : Properties)
    (entry : String × List Method) : Except MetadataError Properties := do
  match ← builder.registry.chooseGetter entry.1 entry.2 with
  | none => pure found
  | some winner =>
      let type ← builder.resolve context winner.declaring winner.returns
      pure (found.insertGetter entry.1 (.getter winner) type)

def addGetters (builder : TableBuilder) (context : TypeDecl) (methods : List Method)
    (found : Properties) : Except MetadataError Properties :=
  (builder.candidates .getter methods).entries.foldlM (builder.addGetter context) found

/-- Choose the setter of one property, with an eye on the type of its getter. -/
def addSetter (builder : TableBuilder) (context : TypeDecl) (found : Properties)
    (entry : String × List Method) : Except MetadataError Properties := do
  let getterType := found.getterTypes.get? entry.1
  match ← builder.registry.chooseSetter entry.1 entry.2 getterType with
  | none => pure found
  | some winner =>
      match winner.parameters.head? with
      | none => pure found
      | some parameter =>
          let type ← builder.resolve context winner.declaring parameter
          pure (found.insertSetter entry.1 (.setter winner) type)

def addSetters (builder : TableBuilder) (context : TypeDecl) (methods : List Method)
    (found : Properties) : Except MetadataError Properties :=
  (builder.candidates .setter methods).entries.foldlM (builder.addSetter context) found

/-- The fields of a class chain that may be properties, each with its class;
those declared nearest to the type come first. -/
def propertyFields (chain : List TypeDecl) : List (TypeDecl × Field) :=
  chain.flatMap fun decl =>
    (decl.fields.filter (fun field => isPropertyName field.name)).map fun field => (decl, field)

/-- Make accessors of a field for the sides of its property that are still free.
A constant is never written. -/
def addField (builder : TableBuilder) (context : TypeDecl) (found : Properties)
    (entry : TypeDecl × Field) : Except MetadataError Properties := do
  let field := entry.2
  let needsSetter := !found.setters.contains field.name && !field.isConstant
  let needsGetter := !found.getters.contains field.name
  if !needsSetter && !needsGetter then
    return found
  let type ← builder.resolve context entry.1.name field.type
  let written :=
    if needsSetter then found.insertSetter field.name (.writes field) type else found
  return if needsGetter then written.insertGetter field.name (.reads field) type else written

def addFields (builder : TableBuilder) (context : TypeDecl) (chain : List TypeDecl)
    (found : Properties) : Except MetadataError Properties :=
  (propertyFields chain).foldlM (builder.addField context) found

/-- The last stages of a build, for given methods of the type. -/
def assemble (builder : TableBuilder) (decl : TypeDecl) (chain : List TypeDecl)
    (methods : List Method) : Except MetadataError PropertyTable := do
  let read ← builder.addGetters decl methods .empty
  let written ← builder.addSetters decl methods read
  let found ← builder.addFields decl chain written
  return .ofProperties decl builder.access found

def build (builder : TableBuilder) (name : String) : Except MetadataError PropertyTable := do
  let decl ← builder.registry.require name
  let chain ← builder.registry.hierarchy name
  let methods ← builder.registry.methodsAlong chain
  builder.assemble decl chain methods

end TableBuilder

end Introspection
