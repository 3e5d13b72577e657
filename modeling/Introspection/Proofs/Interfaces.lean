import Introspection.Proofs.Hierarchy
import Introspection.Registry.Interfaces

/-!
# Interfaces as reachability

The search for interfaces finds exactly the links that a type's own interface
links lead to. Every interface it ends at is registered under its name, and the
clauses of the type lead there.
-/

set_option autoImplicit false

namespace Introspection.Registry

theorem link_eq_toType_iff (clause : TypeExpr) (name : String) :
    clause.link = .toType name ↔ clause.rawName? = some name := by
  cases raw : clause.rawName? <;> simp [TypeExpr.link, raw]

theorem mem_interfaceLinks_iff (decl : TypeDecl) (name : String) :
    .toType name ∈ decl.interfaceLinks ↔
      ∃ clause ∈ decl.interfaces, clause.rawName? = some name := by
  simp only [TypeDecl.interfaceLinks, List.mem_map, link_eq_toType_iff]

theorem follow_eq_ok_iff (registry : Registry) (link : Link) (decl : TypeDecl) :
    registry.follow link = .ok decl ↔
      ∃ name, link = .toType name ∧ registry.lookup? name = some decl := by
  cases link with
  | toType name => simp [follow, require_eq_ok_iff]
  | toNothing text => simp [follow]

theorem funded_nextInterfaces (registry : Registry) :
    Search.Funded registry.nextInterfaces
      (Search.openDues (fun decl => Link.toType decl.name) TypeDecl.interfaces
        registry.declarations) := by
  apply Search.funded_openDues
  rintro (name | text)
  · cases found : registry.lookup? name with
    | none => exact .inl (by simp [nextInterfaces, found])
    | some decl =>
        refine .inr ⟨decl, mem_of_lookup? found, congrArg Link.toType (name_of_lookup? found), ?_⟩
        simp [nextInterfaces, found, TypeDecl.interfaceLinks]
  · exact .inl rfl

theorem mem_interfaceLinksFrom_iff (registry : Registry) (decl : TypeDecl) (link : Link) :
    link ∈ registry.interfaceLinksFrom decl ↔
      ∃ start ∈ decl.interfaceLinks, Search.Reaches registry.nextInterfaces start link := by
  apply Search.mem_breadthFirst_iff registry.funded_nextInterfaces
  apply Nat.le_of_eq
  rw [Search.openDues_nil_seen, TypeDecl.interfaceLinks, List.length_map, interfaceCount]

theorem mem_parentNames_of_interfaceLink {registry : Registry} {decl : TypeDecl} {name : String}
    (registered : registry.lookup? decl.name = some decl)
    (linked : .toType name ∈ decl.interfaceLinks) : name ∈ registry.parentNames decl.name := by
  obtain ⟨clause, written, raw⟩ := (mem_interfaceLinks_iff _ _).mp linked
  have clauseMember : clause ∈ decl.clauses := by simp [TypeDecl.clauses, written]
  exact (mem_parentNames_iff _ _ _).mpr ⟨decl, clause, registered, clauseMember, raw⟩

/-- A path of interface links is a path of supertype clauses. Only the last link of
a path can lead to nothing, since such a link has no successor. -/
theorem descends_of_reaches_link {registry : Registry} {source : String} {link : Link}
    (path : Search.Reaches registry.nextInterfaces (.toType source) link) {target : String}
    (ends : link = .toType target) : registry.Descends source target := by
  induction path generalizing target with
  | refl =>
      cases ends
      exact .refl
  | @tail middle _ _ linked ih =>
      subst ends
      cases middle with
      | toNothing text => cases linked
      | toType middle =>
          cases found : registry.lookup? middle with
          | none => simp [Search.Leads, nextInterfaces, found] at linked
          | some decl =>
              have named := name_of_lookup? found
              have direct : .toType target ∈ decl.interfaceLinks := by
                simpa [Search.Leads, nextInterfaces, found] using linked
              exact .tail (ih rfl)
                (named ▸ mem_parentNames_of_interfaceLink (named ▸ found) direct)

variable {registry : Registry} {decl iface : TypeDecl} {found : List TypeDecl}

theorem lookup?_of_mem_interfaces (collected : registry.interfaces decl = .ok found)
    (inside : iface ∈ found) : registry.lookup? iface.name = some iface := by
  obtain ⟨link, _, followed⟩ := Fallible.exists_of_mem_mapM collected inside
  obtain ⟨name, rfl, registered⟩ := (follow_eq_ok_iff _ _ _).mp followed
  exact lookup?_name registered

theorem descends_of_mem_interfaces (registered : registry.lookup? decl.name = some decl)
    (collected : registry.interfaces decl = .ok found) (inside : iface ∈ found) :
    registry.Descends decl.name iface.name := by
  obtain ⟨link, discovered, followed⟩ := Fallible.exists_of_mem_mapM collected inside
  obtain ⟨name, rfl, named⟩ := (follow_eq_ok_iff _ _ _).mp followed
  obtain ⟨start, own, path⟩ := (mem_interfaceLinksFrom_iff _ _ _).mp discovered
  cases start with
  | toNothing text =>
      rcases Relation.ReflTransGen.cases_head path with same | ⟨_, linked, _⟩
      · cases same
      · cases linked
  | toType start =>
      rw [name_of_lookup? named]
      exact .head (mem_parentNames_of_interfaceLink registered own)
        (descends_of_reaches_link path rfl)

end Introspection.Registry
