import Introspection.Modifiers
import Introspection.Store

/-!
# Members

Fields, methods and constructors as a type declares them. A method body may do
anything to the store; the common bodies, which read or write one field of the
object they are called on, are built here.
-/

set_option autoImplicit false

namespace Introspection

/-- The value that a slot of the given type holds before anything is stored. -/
def TypeExpr.zero : TypeExpr → Value
  | .primitive .boolean => .bool false
  | .primitive .char => .char '\x00'
  | .primitive .float | .primitive .double => .float 0.0
  | .primitive _ => .int 0
  | _ => .null

structure Field where
  name : String
  type : TypeExpr
  modifiers : Modifiers
  /-- The value of a fresh slot, when it is not the zero value of the type. -/
  initial : Option Value
  /-- The type that declares the field. -/
  declaring : String

namespace Field

def isStatic (field : Field) : Bool := field.modifiers.isStatic

def isConstant (field : Field) : Bool := field.modifiers.isStatic && field.modifiers.isFinal

def initialValue (field : Field) : Value := field.initial.getD field.type.zero

/-- Where the field is kept for a given target: with the target, or with the
declaring type. -/
def location (field : Field) (target : ObjectRef) : Location :=
  if field.isStatic then .static field.declaring field.name else .slot target field.name

end Field

/-- What a method does: the object it is called on, the arguments, the effect. -/
abbrev Body : Type := ObjectRef → List Value → Action Value

namespace Body

def readField (field : String) : Body := fun self _ => (Location.slot self field).load

def writeField (field : String) (choose : List Value → Value) : Body := fun self arguments =>
  (Location.slot self field).save (choose arguments) >>= fun _ => pure .null

/-- Store the first argument in a field, or null when there is none. -/
def storeFirst (field : String) : Body :=
  writeField field fun arguments => arguments.head?.getD .null

/-- Store the last argument in a field, or null when there is none. -/
def storeLast (field : String) : Body :=
  writeField field fun arguments => arguments.getLast?.getD .null

def constant (value : Value) : Body := fun _ _ => pure value

def failing (reason : String) : Body := fun _ _ => throw (.failed reason)

def echo : Body := fun _ arguments => pure (.array arguments)

def itself : Body := fun self _ => pure (.object self)

def runtimeType : Body := fun self _ => pure (.string self.typeName)

end Body

structure Method where
  name : String
  parameters : List TypeExpr
  returns : TypeExpr
  modifiers : Modifiers
  /-- The type that declares the method. -/
  declaring : String
  /-- What the method does, unless it is left to subtypes. -/
  body : Option Body

namespace Method

def ofHeader (name : String) (parameters : List TypeExpr) (returns : TypeExpr) : Method where
  name := name
  parameters := parameters
  returns := returns
  modifiers := .publicOnly
  declaring := ""
  body := none

def abstractMethod (name : String) (parameters : List TypeExpr) (returns : TypeExpr) : Method :=
  { ofHeader name parameters returns with modifiers := .publicAbstract }

def getterOf (name field : String) (type : TypeExpr) : Method :=
  { ofHeader name [] type with body := some (Body.readField field) }

def setterOf (name field : String) (type : TypeExpr) : Method :=
  { ofHeader name [type] .void with body := some (Body.storeFirst field) }

/-- Mark the method as written by the compiler to stand for an override. -/
def asBridge (method : Method) : Method :=
  { method with modifiers := method.modifiers.union (.ofList [.bridge, .synthetic]) }

def isGenerated (method : Method) : Bool := method.modifiers.isGenerated

def arity (method : Method) : Nat := method.parameters.length

/-- Private and static methods are bound to their declaration; all others take
part in overriding. -/
def isVirtual (method : Method) : Bool :=
  !method.modifiers.isPrivate && !method.modifiers.isStatic

end Method

/-- What a constructor does to the object just made. -/
abbrev Initializer : Type := ObjectRef → Action Unit

inductive InitialStep where
  | assign (field : String) (value : Value)
  | fail (reason : String)

def InitialStep.run (step : InitialStep) (self : ObjectRef) : Action Unit :=
  match step with
  | assign field value => (Location.slot self field).save value
  | fail reason => throw (.failed reason)

/-- The steps one after another, up to the first that fails. -/
def Initializer.ofSteps : List InitialStep → Initializer
  | [], _ => pure ()
  | step :: rest, self => step.run self >>= fun _ => Initializer.ofSteps rest self

structure Constructor where
  parameters : List TypeExpr
  modifiers : Modifiers
  /-- Run on the object after its slots have been set up. -/
  initializer : Option Initializer

namespace Constructor

/-- A public constructor that only sets up the slots. -/
def ofParameters (parameters : List TypeExpr) : Constructor := ⟨parameters, .publicOnly, none⟩

def noArguments : Constructor := ofParameters []

end Constructor

end Introspection
