import Introspection.Proofs.Erasure
import Introspection.Registry.Resolution

/-!
# Resolving and erasing

Resolving a type replaces its variables and erases the result. Erasure drops
whatever stands inside type arguments, so the replacement can be seen only in a
type that is itself a variable, or an array of one; for every other type the
generic resolver does nothing more than erase.
-/

set_option autoImplicit false

namespace Introspection

namespace TypeExpr

/-- Whether the type is a variable or an array of variables. -/
def isVariable : TypeExpr → Bool
  | var _ => true
  | array element => element.isVariable
  | _ => false

theorem eraseWith_subst {erasure replacement : String → TypeExpr} {type : TypeExpr}
    (outer : type.isVariable = false) :
    (type.subst replacement).eraseWith erasure = type.eraseWith erasure := by
  induction type using TypeExpr.rec (motive_2 := fun _ => True) with
  | void | primitive | named | applied => rfl
  | var => cases outer
  | array element ih => rw [subst, eraseWith, eraseWith, ih outer]
  | nil | cons => trivial

theorem isVariable_of_isErased {type : TypeExpr} (erased : type.isErased = true) :
    type.isVariable = false := by
  induction type using TypeExpr.rec (motive_2 := fun _ => True) with
  | void | primitive | named => rfl
  | applied | var => cases erased
  | array element ih => exact ih erased
  | nil | cons => trivial

/-- Replacing variables and then erasing is erasing with the erased replacements. -/
theorem eraseWith_subst_eq (erasure replacement : String → TypeExpr) (type : TypeExpr) :
    (type.subst replacement).eraseWith erasure =
      type.eraseWith fun name => (replacement name).eraseWith erasure := by
  induction type using TypeExpr.rec (motive_2 := fun _ => True) with
  | void | primitive | named | applied | var => rfl
  | array element ih => exact congrArg array ih
  | nil | cons => trivial

end TypeExpr

namespace TypeDecl

variable {decl : TypeDecl} {name : String}

/-- A parameter has a place: its erasure stands there among the erased parameters, and an argument
list binds it to what stands there in the list. -/
theorem exists_place (listed : name ∈ decl.parameterNames) :
    ∃ place : Nat, decl.erasedParameters[place]? = some (decl.erase (.var name)) ∧
      ∀ actuals, decl.binding actuals name = (actuals[place]?).getD (.var name) := by
  cases found : decl.parameters.findIdx? (fun parameter => parameter.name == name) with
  | none =>
      obtain ⟨parameter, inside, rfl⟩ := List.mem_map.mp listed
      have differs := List.findIdx?_eq_none_iff.mp found parameter inside
      rw [beq_self_eq_true] at differs
      cases differs
  | some place =>
      obtain ⟨inside, same, _⟩ := List.findIdx?_eq_some_iff_getElem.mp found
      refine ⟨place, ?_, ?_⟩
      · rw [erasedParameters, List.getElem?_map, List.getElem?_eq_getElem inside, Option.map_some,
          eq_of_beq same]
      · intro actuals
        rw [binding, found]

theorem binding_of_not_listed (unlisted : name ∉ decl.parameterNames) (actuals : List TypeExpr) :
    decl.binding actuals name = .var name := by
  have none : decl.parameters.findIdx? (fun parameter => parameter.name == name) = none := by
    rw [List.findIdx?_eq_none_iff]
    intro parameter inside
    rw [beq_eq_false_iff_ne]
    exact fun same => unlisted (same ▸ List.mem_map_of_mem inside)
  rw [binding, none]

theorem isErased_of_mem_erasedParameters {actual : TypeExpr}
    (inside : actual ∈ decl.erasedParameters) : actual.isErased = true := by
  obtain ⟨parameter, _, rfl⟩ := List.mem_map.mp inside
  exact decl.isErased_erase _

/-- Whatever goes up a clause is erased, so it mentions no variable of the type below. -/
theorem isErased_of_mem_clauseArguments {actuals : List TypeExpr} {clause actual : TypeExpr}
    {parent : TypeDecl} (inside : actual ∈ decl.clauseArguments actuals clause parent) :
    actual.isErased = true := by
  unfold clauseArguments at inside
  split at inside
  · exact isErased_of_mem_erasedParameters inside
  · obtain ⟨argument, _, rfl⟩ := List.mem_map.mp inside
    exact decl.isErased_erase _

end TypeDecl

theorem TypeDecl.erase_substitute (decl : TypeDecl) (actuals : List TypeExpr) {type : TypeExpr}
    (outer : type.isVariable = false) :
    decl.erase (decl.substitute actuals type) = decl.erase type :=
  TypeExpr.eraseWith_subst outer

/-- An erased type needs no case of its own: nothing is replaced in it and nothing erased. -/
theorem TypeResolver.generic_eq (registry : Registry) (declared : TypeExpr)
    (declaring context : TypeDecl) :
    TypeResolver.generic registry declared declaring context =
      match registry.bindings? declaring.name context with
      | some actuals => declaring.erase (declaring.substitute actuals declared)
      | none => declaring.erase declared := by
  unfold generic
  split
  · next erased =>
      have kept := declaring.erase_of_isErased declared erased
      split
      · rw [declaring.erase_substitute _ (TypeExpr.isVariable_of_isErased erased), kept]
      · exact kept.symm
  · rfl

theorem TypeResolver.generic_eq_erase (registry : Registry) (declaring context : TypeDecl)
    {declared : TypeExpr} (outer : declared.isVariable = false) :
    TypeResolver.generic registry declared declaring context = declaring.erase declared := by
  rw [generic_eq]
  split
  · exact declaring.erase_substitute _ outer
  · rfl

end Introspection
