import Introspection.Member
import Introspection.Text.Case

/-!
# Naming conventions

Which method names look like getters and setters, and which property such a
name stands for. A convention is a `Namer`; `Namer.beans` is the usual one, in
which `getName`, `isName` and `setName` all stand for `name`.
-/

set_option autoImplicit false

namespace Introspection

/-- A naming convention for accessor methods. -/
structure Namer where
  /-- The property that an accessor name stands for. -/
  toProperty : String → String
  isGetter : String → Bool
  isSetter : String → Bool

namespace Namer

def after? (word name : String) : Option (List Char) :=
  if word.toList.isPrefixOf name.toList then some (name.toList.drop word.length) else none

def startsWith (word name : String) : Bool :=
  match after? word name with
  | some rest => !rest.isEmpty
  | none => false

def looksLikeGetter (name : String) : Bool := startsWith "get" name || startsWith "is" name

def looksLikeSetter (name : String) : Bool := startsWith "set" name

/-- A name without its `is`, `get` or `set`; another name is left whole. -/
def stem (name : String) : List Char :=
  match after? "is" name with
  | some rest => rest
  | none =>
      match (after? "get" name).or (after? "set" name) with
      | some rest => rest
      | none => name.toList

/-- The first letter in lower case, unless the second is an upper-case one. -/
def decapitalize : List Char → List Char
  | [] => []
  | [only] => Text.lowerChar only
  | first :: second :: rest =>
      if Text.isUppercase second then first :: second :: rest
      else Text.lowerChar first ++ second :: rest

/-- The property behind `getName`, `isName` or `setName`. -/
def beanProperty (name : String) : String := String.ofList (decapitalize (stem name))

def beans : Namer where
  toProperty := beanProperty
  isGetter := looksLikeGetter
  isSetter := looksLikeSetter

/-- The usual convention with a mark in front of every property. -/
def marked (mark : String) : Namer :=
  { beans with toProperty := fun name => mark ++ beanProperty name }

/-- Every method is an accessor of the property of its own name. -/
def fluent : Namer where
  toProperty := fun name => name
  isGetter := fun _ => true
  isSetter := fun _ => true

/-- The role of a method and the property it stands for, by its name and the
number of its parameters. -/
def classify (namer : Namer) (method : Method) : Option (Side × String) :=
  match method.parameters with
  | [] =>
      if namer.isGetter method.name then some (.getter, namer.toProperty method.name) else none
  | [_] =>
      if namer.isSetter method.name then some (.setter, namer.toProperty method.name) else none
  | _ => none

end Namer

/-- Whether a name may be a property. Names of internal members, of the
serialization version and of the type itself may not. -/
def isPropertyName (name : String) : Bool :=
  !(name.toList.head? == some '$' || name == "serialVersionUID" || name == "class")

end Introspection
