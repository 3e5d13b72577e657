import Introspection.Proofs.Search
import Introspection.Registry.Subtyping

/-!
# Subtyping as reachability

The search behind subtyping finds exactly the names that supertype clauses lead
to, so subtyping is reachability together with the rule for the root class
(`isSubtype_iff`). Where the root class has no supertypes itself, that rule does
not break transitivity (`isSubtype_trans`).
-/

set_option autoImplicit false

namespace Introspection.Registry

/-- Zero or more supertype clauses of registered types lead from one name to the other. -/
abbrev Descends (registry : Registry) : String → String → Prop :=
  Search.Reaches registry.parentNames

/-- The root class, if it is registered, declares no supertypes. -/
def RootIsBare (registry : Registry) : Prop :=
  ∀ decl, registry.lookup? rootName = some decl → decl.clauses = []

theorem rootIsBare_of_lookup? {registry : Registry} {root : TypeDecl}
    (registered : registry.lookup? rootName = some root) (none : root.clauses = []) :
    registry.RootIsBare := by
  intro decl found
  rw [registered, Option.some.injEq] at found
  rw [← found]
  exact none

theorem mem_parentNames_iff (registry : Registry) (sub super : String) :
    super ∈ registry.parentNames sub ↔
      ∃ decl clause, registry.lookup? sub = some decl ∧ clause ∈ decl.clauses ∧
        clause.rawName? = some super := by
  cases found : registry.lookup? sub with
  | none => simp [parentNames, found]
  | some decl => simp [parentNames, found, TypeDecl.parentNames, List.mem_filterMap]

def LinksTo (registry : Registry) (sub super : String) : Prop :=
  ∃ decl clause, registry.lookup? sub = some decl ∧ clause ∈ decl.clauses ∧
    clause.rawName? = some super

def ClausesAcyclic (registry : Registry) : Prop :=
  ∀ name, ¬ Relation.TransGen registry.LinksTo name name

theorem leads_parentNames (registry : Registry) :
    Search.Leads registry.parentNames = registry.LinksTo := by
  funext sub super
  exact propext (registry.mem_parentNames_iff sub super)

/-- Ranks that fall from each type to its direct supertypes rule out cycles. -/
theorem clausesAcyclic_of_rank {registry : Registry} (rank : String → Nat)
    (falls : ∀ decl ∈ registry.declarations, ∀ clause ∈ decl.clauses,
      ∀ super ∈ clause.rawName?, rank super < rank decl.name) :
    registry.ClausesAcyclic := by
  apply Search.not_transGen_self_of_rank rank
  rintro sub super ⟨decl, clause, found, written, raw⟩
  rw [← name_of_lookup? found]
  exact falls decl (mem_of_lookup? found) clause written super raw

theorem parentNames_root {registry : Registry} (bare : registry.RootIsBare) :
    registry.parentNames rootName = [] := by
  cases found : registry.lookup? rootName with
  | none => simp [parentNames, found]
  | some decl => simp [parentNames, found, TypeDecl.parentNames, bare decl found]

theorem funded_parentNames (registry : Registry) :
    Search.Funded registry.parentNames
      (Search.openDues TypeDecl.name TypeDecl.clauses registry.declarations) := by
  apply Search.funded_openDues
  intro name
  cases found : registry.lookup? name with
  | none => exact .inl (by simp [parentNames, found])
  | some decl =>
      refine .inr ⟨decl, mem_of_lookup? found, name_of_lookup? found, ?_⟩
      simpa [parentNames, found, TypeDecl.parentNames] using
        List.length_filterMap_le TypeExpr.rawName? decl.clauses

theorem mem_ancestors_iff (registry : Registry) (sub super : String) :
    super ∈ registry.ancestors sub ↔ registry.Descends sub super := by
  have enough : [sub].length + Search.openDues TypeDecl.name TypeDecl.clauses
      registry.declarations [] ≤ registry.clauseCount + 1 := by
    rw [Search.openDues_nil_seen, List.length_singleton, clauseCount]
    omega
  rw [ancestors, Search.mem_breadthFirst_iff registry.funded_parentNames enough]
  simp

/-- One name is a subtype of another exactly when that is the root class or its
supertype clauses lead there. -/
theorem isSubtype_iff (registry : Registry) (sub super : String) :
    registry.isSubtype sub super = true ↔ super = rootName ∨ registry.Descends sub super := by
  rw [isSubtype, Bool.or_eq_true, Bool.or_eq_true, List.contains_iff_mem, mem_ancestors_iff,
    beq_iff_eq, beq_iff_eq]
  constructor
  · rintro ((rfl | top) | path)
    · exact .inr .refl
    · exact .inl top
    · exact .inr path
  · rintro (top | path)
    · exact .inl (.inr top)
    · exact .inr path

/-- The same with the links spelt out. -/
theorem isSubtype_iff_linksTo (registry : Registry) (sub super : String) :
    registry.isSubtype sub super = true ↔
      sub = super ∨ super = rootName ∨ Relation.TransGen registry.LinksTo sub super := by
  rw [isSubtype_iff, Descends, Search.Reaches, leads_parentNames,
    Relation.reflTransGen_iff_eq_or_transGen, eq_comm (a := super) (b := sub)]
  exact or_left_comm

theorem isSubtype_of_descends {registry : Registry} {sub super : String}
    (path : registry.Descends sub super) : registry.isSubtype sub super = true :=
  (registry.isSubtype_iff sub super).mpr (.inr path)

theorem isSubtype_refl (registry : Registry) (name : String) :
    registry.isSubtype name name = true :=
  isSubtype_of_descends .refl

theorem eq_root_of_descends {registry : Registry} (bare : registry.RootIsBare) {super : String}
    (path : registry.Descends rootName super) : super = rootName := by
  induction path with
  | refl => rfl
  | tail _ linked ih =>
      subst ih
      rw [Search.Leads, parentNames_root bare] at linked
      cases linked

theorem eq_root_of_isSubtype_root {registry : Registry} (bare : registry.RootIsBare)
    {super : String} (below : registry.isSubtype rootName super = true) : super = rootName := by
  rcases (isSubtype_iff _ _ _).mp below with top | path
  · exact top
  · exact eq_root_of_descends bare path

theorem isSubtype_trans {registry : Registry} (bare : registry.RootIsBare)
    {lower middle upper : String} (first : registry.isSubtype lower middle = true)
    (second : registry.isSubtype middle upper = true) :
    registry.isSubtype lower upper = true := by
  rw [isSubtype_iff] at first second ⊢
  rcases second with top | above
  · exact .inl top
  · rcases first with rfl | below
    · exact .inl (eq_root_of_descends bare above)
    · exact .inr (below.trans above)

/-- Without cycles two names that stand above each other are one. -/
theorem isSubtype_antisymm {registry : Registry} (bare : registry.RootIsBare)
    (acyclic : registry.ClausesAcyclic) {left right : String}
    (below : registry.isSubtype left right = true) (above : registry.isSubtype right left = true) :
    left = right := by
  rcases (registry.isSubtype_iff_linksTo left right).mp below with same | rfl | up
  · exact same
  · exact eq_root_of_isSubtype_root bare above
  · rcases (registry.isSubtype_iff_linksTo right left).mp above with same | rfl | down
    · exact same.symm
    · exact (eq_root_of_isSubtype_root bare below).symm
    · exact absurd (up.trans down) (acyclic left)

end Introspection.Registry
