import Introspection.Registry.Hierarchy

/-!
# Allocation

A new object has one slot for every instance field declared in its class chain,
holding the field's initial value. Where several fields share a name, the slot
holds the value of the one declared nearest to the class. No constructor runs.
-/

set_option autoImplicit false

namespace Introspection

namespace Registry

/-- The slots of an object whose class chain is given, outermost class first,
so that a later slot of the same name replaces an earlier one. -/
def freshSlots (chain : List TypeDecl) : List (String × Value) :=
  chain.reverse.flatMap fun decl =>
    decl.instanceFields.map fun field => (field.name, field.initialValue)

/-- The class chain of a type that can have instances. -/
def instanceChain (registry : Registry) (name : String) : Except AccessError (List TypeDecl) :=
  match registry.hierarchy name with
  | .error error => .error (.failed error.message)
  | .ok chain =>
      if chain.head?.any TypeDecl.isAbstract then .error (.abstractType name) else .ok chain

end Registry

namespace Store

def putSlots (store : Store) (object : ObjectRef) (slots : List (String × Value)) : Store :=
  slots.foldl (fun current slot => current.put (.slot object slot.1) slot.2) store

def newInstance (store : Store) (typeName : String) (slots : List (String × Value)) :
    ObjectRef × Store :=
  let made := store.newObject typeName
  (made.1, made.2.putSlots made.1 slots)

end Store

namespace Registry

def allocate (registry : Registry) (name : String) : Action ObjectRef := fun store =>
  match registry.instanceChain name with
  | .error error => .error error store
  | .ok chain =>
      let made := store.newInstance name (freshSlots chain)
      .ok made.1 made.2

end Registry

end Introspection
