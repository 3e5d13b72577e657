import Introspection.Permissions
import Introspection.Registry.Allocation
import Introspection.Registry.Dispatch
import Introspection.Registry.Subtyping

/-!
# Access to members

Calling methods, reading and writing fields, and making objects, under a set of
permissions. Every operation first decides, without looking at the store,
whether it may go ahead (`reached`, `readLocation`, `writeLocation`); only then
does it run a body or touch one location.
-/

set_option autoImplicit false

namespace Introspection

/-- The types that an operation consults and the permissions that bind it. -/
structure Access where
  registry : Registry
  permissions : Permissions

namespace Access

def checkTarget (access : Access) (declaring : String) (target : ObjectRef) :
    Except AccessError Unit :=
  if access.registry.isSubtype target.typeName declaring then .ok ()
  else .error (.targetMismatch declaring target.typeName)

def checkArgument (access : Access) (member : String) (type : TypeExpr) (value : Value) :
    Except AccessError Unit :=
  if access.registry.conforms value type then .ok ()
  else .error (.argumentMismatch member type value.kindName)

/-- Every argument must fit the erased type in its place; the first that does
not is reported. -/
def checkArguments (access : Access) (member : String) :
    List TypeExpr → List Value → Except AccessError Unit
  | type :: types, value :: values =>
      match access.checkArgument member type value with
      | .ok () => access.checkArguments member types values
      | .error error => .error error
  | _, _ => .ok ()

def parameterTypes (access : Access) (method : Method) : List TypeExpr :=
  method.parameters.map (access.registry.eraseIn method.declaring)

def fieldType (access : Access) (field : Field) : TypeExpr :=
  access.registry.eraseIn field.declaring field.type

/-- The method that a call reaches, with its body: permission, target, number
and types of the arguments are checked in this order before the call is
dispatched. -/
def reached (access : Access) (method : Method) (target : ObjectRef) (arguments : List Value) :
    Except AccessError (Method × Body) := do
  if !access.permissions.allowsInvoke method.modifiers.isPublic then
    throw (.accessDenied method.name method.declaring)
  access.checkTarget method.declaring target
  let types := access.parameterTypes method
  if arguments.length ≠ types.length then
    throw (.argumentCount method.name types.length arguments.length)
  access.checkArguments method.name types arguments
  match access.registry.implementation? target.typeName method with
  | some reached =>
      match reached.body with
      | some body => pure (reached, body)
      | none => throw (.abstractMethod method.name target.typeName)
  | none => throw (.abstractMethod method.name target.typeName)

def call (access : Access) (method : Method) (target : ObjectRef) (arguments : List Value) :
    Action Value := fun store =>
  match access.reached method target arguments with
  | .ok (_, body) => body target arguments store
  | .error error => .error error store

/-- Where a read of the field looks. A static field takes any target. -/
def readLocation (access : Access) (field : Field) (target : ObjectRef) :
    Except AccessError Location := do
  if !access.permissions.allowsRead field.modifiers.isPublic then
    throw (.accessDenied field.name field.declaring)
  if !field.isStatic then
    access.checkTarget field.declaring target
  pure (field.location target)

/-- Where a write of the field goes. The value is checked before the target. -/
def writeLocation (access : Access) (field : Field) (target : ObjectRef) (value : Value) :
    Except AccessError Location := do
  if !access.permissions.allowsWrite field.modifiers.isPublic then
    throw (.accessDenied field.name field.declaring)
  access.checkArgument field.name (access.fieldType field) value
  if !field.isStatic then
    access.checkTarget field.declaring target
  pure (field.location target)

def read (access : Access) (field : Field) (target : ObjectRef) : Action Value := fun store =>
  match access.readLocation field target with
  | .ok location => location.load store
  | .error error => .error error store

def write (access : Access) (field : Field) (target : ObjectRef) (value : Value) :
    Action Unit := fun store =>
  match access.writeLocation field target value with
  | .ok location => location.save value store
  | .error error => .error error store

/-- The name under which a denied constructor is reported. -/
def constructorName : String := "<init>"

def construct (access : Access) (typeName : String) (constructor : Constructor) :
    Action ObjectRef :=
  if !access.permissions.allowsInvoke constructor.modifiers.isPublic then
    throw (.accessDenied constructorName typeName)
  else do
    let object ← access.registry.allocate typeName
    match constructor.initializer with
    | some initializer => initializer object
    | none => pure ()
    return object

end Access

end Introspection
