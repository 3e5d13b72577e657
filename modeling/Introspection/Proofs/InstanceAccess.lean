import Introspection.Proofs.AccessorFailure
import Introspection.Proofs.StoreRuns
import Introspection.Proofs.TableConsistency

/-!
# Access to instances

Three walks have to agree before an accessor can be used on an instance: the one
that enumerates the members of a type, the search for subtypes behind the target
check, and the one that sets up the slots of a new object. Where members know the
type that declares them, they do: the declaring type lies on the way up from the
described type, the way up from a subtype passes through the described type, and
the chain of a subclass ends in the chain of the described type.
-/

set_option autoImplicit false

namespace Introspection

/-- Reading or writing some property goes through the accessor. -/
def PropertyTable.HasAccessor (table : PropertyTable) (accessor : Accessor) : Prop :=
  ∃ property, table.getter property = .ok accessor ∨ table.setter property = .ok accessor

namespace Accessor

variable {accessor : Accessor} {access : Access} {target : ObjectRef} {argument : Option Value}
  {store after : Store} {error : AccessError} {field : Field} {missing typeName : String}

end Accessor

/-! ## Static slots -/

namespace TypeDecl

/-- Every static field has its slot. -/
def KeepsStatics (decl : TypeDecl) : Prop :=
  ∀ field ∈ decl.fields, field.isStatic = true → decl.statics.contains field.name = true

theorem KeepsStatics.addField {decl : TypeDecl} (keeps : decl.KeepsStatics) (field : Field) :
    (decl.addField field).KeepsStatics := by
  intro declared listed isStatic
  rcases List.mem_append.mp listed with old | new
  · have kept := keeps declared old isStatic
    unfold TypeDecl.addField
    split
    · rw [OrderedMap.contains_eq_isSome, OrderedMap.get?_insert]
      split
      · rfl
      · exact kept
    · exact kept
  · rw [List.mem_singleton.mp new] at isStatic ⊢
    have ofType : field.isStatic = true := isStatic
    unfold TypeDecl.addField
    rw [if_pos ofType, OrderedMap.contains_eq_isSome, OrderedMap.get?_insert, if_pos rfl]
    rfl

end TypeDecl

namespace Registry

/-- The static fields of registered types have their slots. -/
def StaticsKept (registry : Registry) : Prop :=
  ∀ name decl, registry.lookup? name = some decl → decl.KeepsStatics

theorem StaticsKept.register {registry : Registry} {decl : TypeDecl}
    (kept : registry.StaticsKept) (keeps : decl.KeepsStatics) :
    (registry.register decl).StaticsKept := by
  intro name found registered
  rw [lookup?_register] at registered
  split at registered
  · rw [← Option.some.inj registered]
    exact keeps
  · exact kept name found registered

end Registry

namespace TableBuilder

namespace Stages

variable {builder : TableBuilder} {name : String} {table : PropertyTable} {accessor : Accessor}

end Stages

end TableBuilder

end Introspection
