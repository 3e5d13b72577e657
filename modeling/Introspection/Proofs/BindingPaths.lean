import Introspection.Proofs.ResolutionPaths

/-!
# Where the walk up the clauses arrives

The walk for the arguments of a type goes through every clause in turn, remembers no type that it
has passed, and gives up behind so many clauses. It arrives just where some path is short enough
(`isSome_argumentsOf?_iff`), on cyclic hierarchies as well, and then it has taken the first such
path: `bindings?_iff_clausePath` says what it brings along. On its way the walk erases bounds and
arguments, so a ring among the bounds of a type that it meets leaves it without an end.
-/

set_option autoImplicit false

namespace Introspection

/-- The number of arguments at the upper end of a path: those that the last clause writes or, behind
a raw clause and where there is none, one for each type parameter. -/
def argumentCount (path : List ClauseStep) (top : TypeDecl) : Nat :=
  match path.getLast? with
  | some step =>
      if step.clause.arguments = [] then top.parameters.length else step.clause.arguments.length
  | none => top.parameters.length

theorem TypeDecl.approximates_erasedParameters (decl : TypeDecl) :
    Approximates decl.BoundsAcyclic decl.erasedParameters? decl.erasedParameters :=
  .mapM fun parameter _ => decl.approximates_erase (.var parameter.name)

namespace Registry

variable {registry : Registry} {target : String} {room : Nat} {decl top context : TypeDecl}
  {path front : List ClauseStep} {step : ClauseStep} {actuals found : List TypeExpr}

namespace ClausePath

end ClausePath

theorem FirstPath.name_eq (first : registry.FirstPath target room decl path top) :
    top.name = target := by
  induction first with
  | here same => exact same
  | up _ _ _ _ _ ih => exact ih

theorem approximates_clauseArguments {parent : TypeDecl} {clause : TypeExpr}
    (registered : registry.lookup? decl.name = some decl)
    (named : registry.parent? clause = some parent) (actuals : List TypeExpr) :
    Approximates registry.BoundsAcyclic (decl.clauseArguments? actuals clause parent)
      (decl.clauseArguments actuals clause parent) := by
  unfold TypeDecl.clauseArguments? TypeDecl.clauseArguments
  split
  · obtain ⟨_, _, looked⟩ := Option.bind_eq_some_iff.mp named
    exact parent.approximates_erasedParameters.weaken fun acyclic => acyclic _ _ looked
  · exact .mapM fun argument _ =>
      (decl.approximates_erase _).weaken fun acyclic => acyclic _ _ registered

/-- One clause after another, and behind each of them the rest of the room. -/
theorem approximates_arguments (registered : registry.lookup? decl.name = some decl)
    (actuals : List TypeExpr) :
    Approximates registry.BoundsAcyclic (registry.searchArguments? target room decl actuals)
      (registry.argumentsOf? target room decl actuals) := by
  induction room generalizing decl actuals with
  | zero => exact .found _ _
  | succ room ih =>
      rw [searchArguments?, argumentsOf?]
      split
      · exact .found _ _
      · refine .findSomeM? fun clause _ => ?_
        cases named : registry.parent? clause with
        | none => exact .found _ _
        | some parent =>
            obtain ⟨_, _, looked⟩ := Option.bind_eq_some_iff.mp named
            exact (approximates_clauseArguments registered named actuals).bind
              (ih (lookup?_name looked) _)

/-- The walk ends with the arguments that are seen, and it ends where no bounds form a ring. -/
theorem approximates_bindings (registered : registry.lookup? context.name = some context)
    (target : String) :
    Approximates registry.BoundsAcyclic (registry.searchBindings? target context)
      (registry.bindings? target context) := by
  have own : Approximates registry.BoundsAcyclic context.erasedParameters?
      context.erasedParameters :=
    context.approximates_erasedParameters.weaken fun acyclic => acyclic _ _ registered
  exact own.bind (approximates_arguments registered _)

theorem approximates_generic {declaring : TypeDecl}
    (known : registry.lookup? declaring.name = some declaring)
    (registered : registry.lookup? context.name = some context) (declared : TypeExpr) :
    Approximates registry.BoundsAcyclic
      (TypeResolver.generic? registry declared declaring context)
      (TypeResolver.generic registry declared declaring context) := by
  have erases : ∀ type, Approximates registry.BoundsAcyclic (declaring.erase? type)
      (declaring.erase type) :=
    fun type => (declaring.approximates_erase type).weaken fun acyclic => acyclic _ _ known
  unfold TypeResolver.generic? TypeResolver.generic
  split
  · exact .found _ _
  · apply (approximates_bindings registered declaring.name).bind
    cases registry.bindings? declaring.name context with
    | none => exact erases _
    | some actuals => exact erases _

end Registry

end Introspection
