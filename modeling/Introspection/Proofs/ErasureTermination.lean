import Introspection.Proofs.Resolution

/-!
# Where erasure comes to an end

Erasure follows a variable to its bound and an array to its element. It comes to an end on every
type exactly where no variable leads back to itself that way (`boundsAcyclic_iff`), and then the
erased types are its results and its fixed points. So a resolver that leaves erased types alone
answers as if it had replaced their variables and erased them (`erasure_settles`).
-/

set_option autoImplicit false

namespace Introspection

theorem TypeExpr.subst_of_isErased (replacement : String → TypeExpr) {type : TypeExpr}
    (erased : type.isErased = true) : type.subst replacement = type := by
  induction type using TypeExpr.rec (motive_2 := fun _ => True) with
  | void | primitive | named => rfl
  | applied | var => cases erased
  | array element ih => exact congrArg array (ih erased)
  | nil | cons => trivial

/-- The generic resolver without a case of its own for erased types. -/
def TypeResolver.genericThroughout : TypeResolver := fun registry declared declaring context =>
  match registry.bindings? declaring.name context with
  | some actuals => declaring.erase (declaring.substitute actuals declared)
  | none => declaring.erase declared

namespace TypeDecl

variable {decl : TypeDecl} {type erasure : TypeExpr}

theorem boundsAcyclic_iff :
    decl.BoundsAcyclic ↔ ∀ type, ∃ erasure, decl.Erases type erasure := by
  constructor
  · intro acyclic type
    exact ⟨decl.erase type, erases_erase acyclic type⟩
  · intro total name
    obtain ⟨erasure, erases⟩ := total (.var name)
    exact erases.endsFrom rfl name .refl

theorem erases_iff (acyclic : decl.BoundsAcyclic) :
    decl.Erases type erasure ↔ decl.erase type = erasure := by
  constructor
  · exact (erases_erase acyclic type).unique
  · intro same
    exact same ▸ erases_erase acyclic type

theorem erase_eq_self_iff : decl.erase type = type ↔ type.isErased = true := by
  constructor
  · intro fixed
    exact fixed ▸ decl.isErased_erase type
  · exact decl.erase_of_isErased type

/-- Erasure comes to an end on every type just where no variable leads back to itself. There it has
one result, which is erased; erased types are the ones it leaves as they are, so it changes nothing
a second time. Nor would replacing variables in them first, whatever stands for the variables, and
the generic resolver need not look at them. -/
theorem erasure_settles (decl : TypeDecl) :
    (decl.BoundsAcyclic ↔ ∀ type, ∃ erasure, decl.Erases type erasure) ∧
    (decl.BoundsAcyclic → ∀ type,
      (∀ erasure, decl.Erases type erasure ↔ decl.erase type = erasure) ∧
      (decl.erase type).isErased = true ∧
      (decl.erase type = type ↔ type.isErased = true) ∧
      decl.erase (decl.erase type) = decl.erase type ∧
      (type.isErased = true → ∀ actuals, decl.Erases (decl.substitute actuals type) type) ∧
      ∀ registry context, TypeResolver.generic registry type decl context =
        TypeResolver.genericThroughout registry type decl context) := by
  refine ⟨boundsAcyclic_iff, fun acyclic type => ⟨fun _ => erases_iff acyclic,
    decl.isErased_erase type, erase_eq_self_iff, decl.erase_erase decl type, ?_, ?_⟩⟩
  · intro erased actuals
    have kept : decl.substitute actuals type = type := TypeExpr.subst_of_isErased _ erased
    rw [kept]
    exact (erases_iff acyclic).mpr (decl.erase_of_isErased type erased)
  · intro registry context
    exact TypeResolver.generic_eq registry type decl context

/-- Bounds that lead to other parameters through arrays, a bound that mentions its own variable, one
that is its own variable, and a second parameter of a name that is taken. -/
def windings : TypeDecl :=
  { ofClass "Windings" with
    parameters := [⟨"T", some (.applied "Comparable" [.var "T"])⟩, ⟨"U", some (.array (.var "T"))⟩,
      ⟨"V", some (.array (.var "U"))⟩, ⟨"S", some (.var "S")⟩, ⟨"T", some (.var "V")⟩] }

def coil : TypeDecl := { ofClass "Coil" with parameters := [⟨"T", some (.array (.var "T"))⟩] }

theorem erasure_settles_windings :
    windings.BoundsAcyclic ∧ (∀ type, ∃ erasure, windings.Erases type erasure) ∧
      windings.Erases (.array (.var "V")) (.array (.array (.array (.named "Comparable")))) ∧
      windings.Erases (.var "S") .root ∧ windings.Erases (.var "Unknown") .root ∧
      ¬ ∀ type, ∃ erasure, coil.Erases type erasure := by
  have falls : ∀ name ∈ windings.parameterNames, ∀ parameter ∈ windings.parameter? name,
      ∀ bound ∈ parameter.bound, bound = .var name ∨ ∀ next ∈ bound.headVariable?,
        ["S", "T", "U", "V"].idxOf next < ["S", "T", "U", "V"].idxOf name := by decide
  have acyclic : windings.BoundsAcyclic := by
    apply boundsAcyclic_of_rank ["S", "T", "U", "V"].idxOf
    intro name next ⟨bound, followed, head⟩
    have listed := followed.mem_parameterNames
    obtain ⟨parameter, found, written, proper⟩ := followed
    exact (falls name listed parameter found bound written).resolve_left proper next head
  obtain ⟨total, settled⟩ := erasure_settles windings
  have ring : ¬ coil.BoundsAcyclic := fun none =>
    none "T" (.single ⟨_, ⟨_, rfl, rfl, by decide⟩, rfl⟩)
  exact ⟨acyclic, total.mp acyclic, ((settled acyclic _).1 _).mpr (by decide),
    ((settled acyclic _).1 _).mpr (by decide), ((settled acyclic _).1 _).mpr (by decide),
    fun all => ring ((erasure_settles coil).1.mpr all)⟩

end TypeDecl

end Introspection
