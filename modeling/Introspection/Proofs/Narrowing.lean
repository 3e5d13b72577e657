import Introspection.Proofs.Assignability
import Introspection.Proofs.Resolution

/-!
# Resolving only narrows

The type that the generic resolver sees from a context can be stored as the plain erasure in
the declaring type (`isAssignable_generic`). This needs the clauses to keep to the bounds of
the parameters that they fill. `Narrows` is the invariant of the walk from the context to the
declaring type: whatever stands for a variable can be stored as the erasure of that variable.
Bounds that lead back to themselves do no harm here, since erasure cuts them off; without them
the plain erasure is the one that the rules of erasure give (`narrowed_of_generic`).
-/

set_option autoImplicit false

namespace Introspection.Registry

variable {registry : Registry} {decl : TypeDecl} {actuals : List TypeExpr}

def WithinBounds (registry : Registry) (decl : TypeDecl) (actuals : List TypeExpr) : Prop :=
  ∀ pair ∈ decl.erasedParameters.zip actuals, registry.isAssignable pair.1 pair.2 = true

/-- The type arguments of every clause of a registered type, erased where they are written,
keep to the bounds of the parameters they fill. -/
def ArgumentsWithinBounds (registry : Registry) : Prop :=
  ∀ name decl, registry.lookup? name = some decl → ∀ clause ∈ decl.clauses,
    ∀ parent, registry.parent? clause = some parent →
      registry.WithinBounds parent (clause.arguments.map decl.erase)

theorem argumentsWithinBounds_of_declarations
    (all : ∀ decl ∈ registry.declarations, ∀ clause ∈ decl.clauses,
      ∀ parent ∈ registry.parent? clause,
        ∀ pair ∈ parent.erasedParameters.zip (clause.arguments.map decl.erase),
          registry.isAssignable pair.1 pair.2 = true) :
    registry.ArgumentsWithinBounds := by
  intro name decl found clause written parent named
  exact all decl (mem_of_lookup? found) clause written parent named

/-- Whatever stands for a variable can be stored as the erasure of the variable. -/
def Narrows (registry : Registry) (decl : TypeDecl) (actuals : List TypeExpr) : Prop :=
  ∀ name, registry.isAssignable (decl.erase (.var name))
    (decl.erase (decl.binding actuals name)) = true

theorem narrows_of_withinBounds (erased : ∀ actual ∈ actuals, actual.isErased = true)
    (within : registry.WithinBounds decl actuals) : registry.Narrows decl actuals := by
  intro name
  by_cases listed : name ∈ decl.parameterNames
  · obtain ⟨place, bound, bindings⟩ := decl.exists_place listed
    rw [bindings]
    cases given : actuals[place]? with
    | none => exact isAssignable_refl registry _
    | some actual =>
        have paired : (decl.erase (.var name), actual) ∈ decl.erasedParameters.zip actuals :=
          List.mem_of_getElem? (List.getElem?_zip_eq_some.mpr ⟨bound, given⟩)
        rw [Option.getD_some, decl.erase_of_isErased actual
          (erased actual (List.mem_of_getElem? given))]
        exact within _ paired
  · rw [decl.binding_of_not_listed listed]
    exact isAssignable_refl registry _

theorem narrows_erasedParameters (registry : Registry) (decl : TypeDecl) :
    registry.Narrows decl decl.erasedParameters := by
  apply narrows_of_withinBounds
  · exact fun _ => TypeDecl.isErased_of_mem_erasedParameters
  · intro pair paired
    rw [TypeDecl.erasedParameters, List.zip_map', List.mem_map] at paired
    obtain ⟨parameter, _, rfl⟩ := paired
    exact isAssignable_refl registry _

/-- From variables to all types: erasure keeps nothing of the arguments of a generic class, and
arrays of what can be stored can be stored. -/
theorem Narrows.isAssignable_substitute (narrow : registry.Narrows decl actuals)
    (type : TypeExpr) :
    registry.isAssignable (decl.erase type) (decl.erase (decl.substitute actuals type)) = true := by
  induction type using TypeExpr.rec (motive_2 := fun _ => True) with
  | void | primitive | named | applied => exact isAssignable_refl registry _
  | var name => exact narrow name
  | array element ih => exact isAssignable_array ih
  | nil | cons => trivial

/-- One clause up, the arguments handed over narrow the parameters of the parent. -/
theorem Narrows.clauseArguments (bare : registry.RootIsBare)
    (within : registry.ArgumentsWithinBounds)
    (registered : registry.lookup? decl.name = some decl)
    (narrow : registry.Narrows decl actuals) {clause : TypeExpr} {parent : TypeDecl}
    (written : clause ∈ decl.clauses) (named : registry.parent? clause = some parent) :
    registry.Narrows parent (decl.clauseArguments actuals clause parent) := by
  unfold TypeDecl.clauseArguments
  split
  · exact narrows_erasedParameters registry parent
  · apply narrows_of_withinBounds
    · intro actual inside
      obtain ⟨argument, _, rfl⟩ := List.mem_map.mp inside
      exact decl.isErased_erase _
    · intro pair paired
      rw [List.zip_map_right, List.mem_map] at paired
      obtain ⟨⟨bound, argument⟩, placed, rfl⟩ := paired
      have declared : registry.isAssignable bound (decl.erase argument) = true := by
        apply within _ _ registered clause written parent named (bound, decl.erase argument)
        rw [List.zip_map_right]
        exact List.mem_map_of_mem placed
      obtain ⟨parameter, _, rfl⟩ := List.mem_map.mp (List.of_mem_zip placed).1
      exact isAssignable_trans bare (parent.isErased_erase _) declared
        (narrow.isAssignable_substitute argument)

/-- The walk ends at the declaring type or goes up by one clause. -/
theorem argumentsOf?_eq_some {declaring : String} {steps : Nat} {found : List TypeExpr}
    (reached : registry.argumentsOf? declaring steps decl actuals = some found) :
    (decl.name = declaring ∧ actuals = found) ∨
      ∃ rest clause parent, steps = rest + 1 ∧ clause ∈ decl.clauses ∧
        registry.parent? clause = some parent ∧
        registry.argumentsOf? declaring rest parent (decl.clauseArguments actuals clause parent) =
          some found := by
  cases steps with
  | zero =>
      rw [argumentsOf?] at reached
      obtain ⟨same, here⟩ := Option.ite_none_right_eq_some.mp reached
      exact .inl ⟨same, Option.some.inj here⟩
  | succ rest =>
      rw [argumentsOf?] at reached
      split at reached
      · next same => exact .inl ⟨same, Option.some.inj reached⟩
      · obtain ⟨clause, written, above⟩ := List.exists_of_findSome?_eq_some reached
        split at above
        · next parent named => exact .inr ⟨rest, clause, parent, rfl, written, named, above⟩
        · cases above

theorem narrows_of_argumentsOf? (bare : registry.RootIsBare)
    (within : registry.ArgumentsWithinBounds) {declaring : TypeDecl}
    (known : registry.lookup? declaring.name = some declaring) {steps : Nat}
    (registered : registry.lookup? decl.name = some decl)
    (narrow : registry.Narrows decl actuals) {found : List TypeExpr}
    (reached : registry.argumentsOf? declaring.name steps decl actuals = some found) :
    registry.Narrows declaring found := by
  -- Every clause leaves fewer steps and leads to a registered type again.
  induction steps using Nat.strongRecOn generalizing decl actuals with
  | ind steps ih =>
      rcases argumentsOf?_eq_some reached with
        ⟨same, rfl⟩ | ⟨rest, clause, parent, rfl, written, named, above⟩
      · rw [same, known, Option.some.injEq] at registered
        rw [registered]
        exact narrow
      · obtain ⟨name, _, looked⟩ := Option.bind_eq_some_iff.mp named
        apply ih rest (Nat.lt_succ_self rest)
        · exact lookup?_name looked
        · exact narrow.clauseArguments bare within registered written named
        · exact above

/-- Seen from a context, a type can be stored as its erasure in the declaring type. -/
theorem isAssignable_generic (bare : registry.RootIsBare)
    (within : registry.ArgumentsWithinBounds) {declaring context : TypeDecl}
    (known : registry.lookup? declaring.name = some declaring)
    (registered : registry.lookup? context.name = some context) (declared : TypeExpr) :
    registry.isAssignable (declaring.erase declared)
      (TypeResolver.generic registry declared declaring context) = true := by
  rw [TypeResolver.generic_eq]
  cases bound : registry.bindings? declaring.name context with
  | none => exact isAssignable_refl registry _
  | some actuals =>
      have narrow : registry.Narrows declaring actuals :=
        narrows_of_argumentsOf? bare within known registered
          (narrows_erasedParameters registry context) bound
      exact narrow.isAssignable_substitute declared

/-- What the resolver answers keeps neither a variable nor a type argument. -/
theorem isErased_generic (registry : Registry) (declared : TypeExpr)
    (declaring context : TypeDecl) :
    (TypeResolver.generic registry declared declaring context).isErased = true := by
  rw [TypeResolver.generic_eq]
  split
  · exact declaring.isErased_erase _
  · exact declaring.isErased_erase _

/-- Without rings of bounds the declared type has an erasure where it is written, and seen from any
context it is an erased type that can be stored as that erasure. -/
theorem narrowed_of_generic (acyclic : registry.BoundsAcyclic) (bare : registry.RootIsBare)
    (within : registry.ArgumentsWithinBounds) {declaring context : TypeDecl}
    (known : registry.lookup? declaring.name = some declaring)
    (registered : registry.lookup? context.name = some context) (declared : TypeExpr) :
    declaring.Erases declared (declaring.erase declared) ∧
      registry.isAssignable (declaring.erase declared)
        (TypeResolver.generic registry declared declaring context) = true ∧
      (TypeResolver.generic registry declared declaring context).isErased = true :=
  ⟨declaring.erases_erase (acyclic _ _ known) declared,
    isAssignable_generic bare within known registered declared,
    isErased_generic registry declared declaring context⟩

/-- The bounds name each other and themselves, one clause leaves a parameter out, and the clause at
the bottom is raw. -/
def record : TypeDecl :=
  { TypeDecl.ofAbstractClass "Record" with
    parameters := [⟨"ID", some (.named "Number")⟩, ⟨"KEY", some (.array (.var "ID"))⟩] }

def numbered : TypeDecl :=
  { TypeDecl.ofClass "Numbered" with
    parameters := [⟨"S", some (.applied "Numbered" [.var "S", .var "K"])⟩, ⟨"T", some (.var "T")⟩,
      ⟨"K", some (.named "Long")⟩]
    superclass := some (.applied "Record" [.var "K"]) }

def ticket : TypeDecl := { TypeDecl.ofClass "Ticket" with superclass := some (.named "Numbered") }

def tickets : Registry :=
  ((Registry.builtin.register record).register numbered).register ticket

theorem narrowed_of_generic_tickets :
    tickets.BoundsAcyclic ∧ tickets.RootIsBare ∧ tickets.ArgumentsWithinBounds ∧
      record.Erases (.array (.var "ID")) (.array (.named "Number")) ∧
      TypeResolver.generic tickets (.array (.var "ID")) record ticket = .array (.named "Long") ∧
      tickets.isAssignable (.array (.named "Number")) (.array (.named "Long")) = true := by
  have acyclic : tickets.BoundsAcyclic :=
    boundsAcyclic_of_rank (fun name => if name = "KEY" then 1 else 0) (by decide)
  have bare : tickets.RootIsBare := rootIsBare_of_lookup? rfl rfl
  have within : tickets.ArgumentsWithinBounds :=
    argumentsWithinBounds_of_declarations (by decide)
  have known : tickets.lookup? record.name = some record := rfl
  have registered : tickets.lookup? ticket.name = some ticket := rfl
  obtain ⟨erases, assignable, _⟩ :=
    narrowed_of_generic acyclic bare within known registered (.array (.var "ID"))
  exact ⟨acyclic, bare, within, erases, rfl, assignable⟩

end Introspection.Registry
