import Introspection.Access

/-!
# Accessors

One side of one property: a getter or setter method, or the read or write
access to a field. All four are invoked in the same way, without an argument to
read and with one to write.
-/

set_option autoImplicit false

namespace Introspection

/-- What stands behind one side of a property. -/
inductive Accessor where
  /-- A method without parameters. -/
  | getter (method : Method)
  /-- A method with one parameter. -/
  | setter (method : Method)
  /-- A field to read. -/
  | reads (field : Field)
  /-- A field to overwrite. -/
  | writes (field : Field)

namespace Accessor

def memberName : Accessor → String
  | getter method | setter method => method.name
  | reads field | writes field => field.name

def declaring : Accessor → String
  | getter method | setter method => method.declaring
  | reads field | writes field => field.declaring

def isField : Accessor → Bool
  | getter _ | setter _ => false
  | reads _ | writes _ => true

def isMethod (accessor : Accessor) : Bool := !accessor.isField

/-- Call the method of an accessor; a `void` method has no result. -/
def invokeMethod (access : Access) (method : Method) (target : ObjectRef)
    (argument : Option Value) : Action (Option Value) := do
  let result ← access.call method target argument.toList
  return if method.returns = .void then none else some result

/-- Invoke the accessor: without an argument to read, with one to write. The
result is the value read; a write and a `void` method have none. -/
def invoke (accessor : Accessor) (access : Access) (target : ObjectRef)
    (argument : Option Value) : Action (Option Value) :=
  match accessor, argument with
  | getter method, argument | setter method, argument =>
      invokeMethod access method target argument
  | reads field, none => some <$> access.read field target
  | reads field, some _ => throw (.argumentCount field.name 0 1)
  | writes field, some value => (fun _ => none) <$> access.write field target value
  | writes field, none => throw (.argumentCount field.name 1 0)

/-- Read through the accessor; null when there is no result. -/
def get (accessor : Accessor) (access : Access) (target : ObjectRef) : Action Value := do
  return (← accessor.invoke access target none).getD .null

def set (accessor : Accessor) (access : Access) (target : ObjectRef) (value : Value) :
    Action Unit := do
  let _ ← accessor.invoke access target (some value)

end Accessor

end Introspection
