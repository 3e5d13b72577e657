import Introspection.Registry.Subtyping

/-!
# Choosing one accessor among several

Several methods may stand for one property: a covariant override and the method
it overrides, an `is` and a `get` form, overloaded setters. Either one of them
is chosen or the property is ambiguous.
-/

set_option autoImplicit false

namespace Introspection

namespace Registry

def erasedReturn (registry : Registry) (method : Method) : TypeExpr :=
  registry.eraseIn method.declaring method.returns

/-- The erased type of the first parameter of a setter. -/
def erasedParameter (registry : Registry) (method : Method) : TypeExpr :=
  registry.eraseIn method.declaring (method.parameters.head?.getD .void)

/-- The better of two getters. The narrower return type wins; between two
`boolean` getters, one named `is…` wins over the one before it. -/
def betterGetter (registry : Registry) (property : String) (current candidate : Method) :
    Except MetadataError Method :=
  let currentType := registry.erasedReturn current
  let candidateType := registry.erasedReturn candidate
  let ambiguous : MetadataError := .ambiguousGetter property current.declaring
  if candidateType = currentType then
    if !candidateType.isBoolean then .error ambiguous
    else if "is".toList.isPrefixOf candidate.name.toList then .ok candidate
    else .ok current
  else if registry.isAssignable candidateType currentType then .ok current
  else if registry.isAssignable currentType candidateType then .ok candidate
  else .error ambiguous

def chooseGetter (registry : Registry) (property : String) :
    List Method → Except MetadataError (Option Method)
  | [] => .ok none
  | first :: rest => (rest.foldlM (registry.betterGetter property) first).map some

/-- The better of two setters: the one with the narrower parameter, the later
one when both have the same. -/
def betterSetter (registry : Registry) (property : String) (current candidate : Method) :
    Except MetadataError Method :=
  let currentType := registry.erasedParameter current
  let candidateType := registry.erasedParameter candidate
  if registry.isAssignable currentType candidateType then .ok candidate
  else if registry.isAssignable candidateType currentType then .ok current
  else .error (.ambiguousSetter property candidate.declaring currentType candidateType)

def erasedParameter? (registry : Registry) (method : Method) : Option TypeExpr :=
  registry.eraseIn? method.declaring (method.parameters.head?.getD .void)

def betterSetter? (registry : Registry) (property : String) (current candidate : Method) :
    Option (Except MetadataError Method) := do
  let currentType ← registry.erasedParameter? current
  let candidateType ← registry.erasedParameter? candidate
  if registry.isAssignable currentType candidateType then return .ok candidate
  else if registry.isAssignable candidateType currentType then return .ok current
  else return .error (.ambiguousSetter property candidate.declaring currentType candidateType)

/-- What one more setter makes of the outcome so far, if it is no exact match. An ambiguity once
met stays. -/
def extendChoice? (registry : Registry) (property : String)
    (outcome : Except MetadataError (Option Method)) (setter : Method) :
    Option (Except MetadataError (Option Method)) :=
  match outcome with
  | .error error => some (.error error)
  | .ok none => some (.ok (some setter))
  | .ok (some current) =>
      (registry.betterSetter? property current setter).map fun better => better.map some

/-- The setter for a property among its candidates. One that takes exactly the
type of the getter is chosen, whatever the others are. -/
def chooseSetter (registry : Registry) (property : String) (candidates : List Method)
    (getterType : Option TypeExpr) : Except MetadataError (Option Method) :=
  match candidates.find? (fun setter => getterType == some (registry.erasedParameter setter)) with
  | some exact => .ok (some exact)
  | none =>
      match candidates with
      | [] => .ok none
      | first :: rest => (rest.foldlM (registry.betterSetter property) first).map some

end Registry

end Introspection
