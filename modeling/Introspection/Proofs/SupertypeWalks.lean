import Introspection.Proofs.InterfaceClosure
import Introspection.Proofs.SubtypeSearch

/-!
# Three walks over supertypes

A type looks up at its supertypes in three ways: along its class chain, through the interfaces of
each class of the chain, and by the search that decides subtyping. Where interfaces have no
superclass of their own the first two together meet what the third one finds, and the root class
besides (`isSubtype_iff_walks`).
-/

set_option autoImplicit false

namespace Introspection.Registry

/-- No interface clause leads to a type with a superclass. -/
def InterfacesTopless (registry : Registry) : Prop :=
  ∀ name decl iface, registry.lookup? name = some decl → registry.Implements decl iface →
    iface.superclass = none

inductive Listed (registry : Registry) (chain : List TypeDecl) : TypeDecl → Prop where
  | ofClass {decl : TypeDecl} : decl ∈ chain → Listed registry chain decl
  | ofInterface {decl iface : TypeDecl} {found : List TypeDecl} : decl ∈ chain →
      registry.interfaces decl = .ok found → iface ∈ found → Listed registry chain iface

variable {registry : Registry} {name super : String} {chain : List TypeDecl} {decl : TypeDecl}

theorem interfacesTopless_of_declarations
    (all : ∀ decl ∈ registry.declarations, ∀ clause ∈ decl.interfaces,
      ∀ target ∈ clause.rawName?, ∀ iface ∈ registry.lookup? target, iface.superclass = none) :
    registry.InterfacesTopless := by
  intro name decl iface found linked
  obtain ⟨clause, written, target, raw, registered⟩ := linked
  exact all decl (mem_of_lookup? found) clause written target raw iface registered

theorem ImplementsIn.registered_of_start {count : Nat} {holder : TypeDecl}
    (path : registry.ImplementsIn decl count holder)
    (registered : registry.lookup? decl.name = some decl) :
    registry.lookup? holder.name = some holder := by
  cases count with
  | zero =>
      cases path
      exact registered
  | succ count => exact path.registered

/-- A class of a chain with a superclass is followed by it. -/
theorem exists_superclass_mem (walked : registry.hierarchy name = .ok chain)
    (inside : decl ∈ chain) {clause : TypeExpr} (written : decl.superclass = some clause) :
    ∃ parent ∈ chain, registry.LeadsTo clause parent := by
  obtain ⟨front, rest, split, walkedRest⟩ := hierarchy_suffix walked inside
  obtain ⟨start, found, _, _, linked⟩ := hierarchy_chain walkedRest
  have same : start = decl :=
    Option.some.inj (found.symm.trans (lookup?_of_mem_hierarchy walked inside))
  subst same
  cases linked with
  | last top =>
      rw [superclass?_eq_none_iff, written] at top
      cases top
  | @link _ parent above next higher =>
      obtain ⟨clauseToo, target, writtenToo, raw, registered⟩ :=
        (superclass?_eq_some_iff _ _ _).mp next
      have sameClause : clauseToo = clause := Option.some.inj (writtenToo.symm.trans written)
      subst sameClause
      have member : parent ∈ chain := by
        cases higher <;> simp [split]
      exact ⟨parent, member, target, raw, registered⟩

namespace Listed

theorem registered (walked : registry.hierarchy name = .ok chain)
    (listed : registry.Listed chain decl) : registry.lookup? decl.name = some decl := by
  cases listed with
  | ofClass inside => exact lookup?_of_mem_hierarchy walked inside
  | ofInterface _ collected inside => exact lookup?_of_mem_interfaces collected inside

theorem descends (walked : registry.hierarchy name = .ok chain)
    (listed : registry.Listed chain decl) : registry.Descends name decl.name := by
  cases listed with
  | ofClass inside => exact descends_of_mem_hierarchy walked inside
  | ofInterface inside collected found =>
      have registered := lookup?_of_mem_hierarchy walked inside
      exact (descends_of_mem_hierarchy walked inside).trans
        (descends_of_mem_interfaces registered collected found)

/-- Every clause of a listed type leads to a listed type again. An interface has interface clauses
only, and these are clauses that the collection of interfaces has met. -/
theorem up (topless : registry.InterfacesTopless) (walked : registry.hierarchy name = .ok chain)
    (collected : ∀ member ∈ chain, ∃ found, registry.interfaces member = .ok found)
    (listed : registry.Listed chain decl) {clause : TypeExpr} (written : clause ∈ decl.clauses) :
    ∃ parent, registry.LeadsTo clause parent ∧ registry.Listed chain parent := by
  rcases List.mem_append.mp written with extended | implemented
  · have superclass : decl.superclass = some clause := Option.mem_toList.mp extended
    cases listed with
    | ofClass inside =>
        obtain ⟨parent, member, leads⟩ := exists_superclass_mem walked inside superclass
        exact ⟨parent, leads, .ofClass member⟩
    | ofInterface inside gathered found =>
        obtain ⟨count, path⟩ := (mem_interfaces_iff gathered).mp found
        cases path with
        | step before linked =>
            have holder := before.registered_of_start (lookup?_of_mem_hierarchy walked inside)
            have none := topless _ _ _ holder linked
            rw [superclass] at none
            cases none
  · cases listed with
    | ofClass inside =>
        obtain ⟨found, gathered⟩ := collected decl inside
        obtain ⟨iface, member, leads⟩ :=
          exists_leadsTo_of_meets gathered ⟨0, decl, .self, implemented⟩
        exact ⟨iface, leads, .ofInterface inside gathered member⟩
    | ofInterface inside gathered found =>
        obtain ⟨count, path⟩ := (mem_interfaces_iff gathered).mp found
        obtain ⟨iface, member, leads⟩ :=
          exists_leadsTo_of_meets gathered ⟨count + 1, decl, path, implemented⟩
        exact ⟨iface, leads, .ofInterface inside gathered member⟩

end Listed

theorem descends_iff_listed (topless : registry.InterfacesTopless)
    (walked : registry.hierarchy name = .ok chain)
    (collected : ∀ member ∈ chain, ∃ found, registry.interfaces member = .ok found) :
    registry.Descends name super ↔ ∃ decl, registry.Listed chain decl ∧ decl.name = super := by
  constructor
  · intro path
    induction path with
    | refl =>
        obtain ⟨decl, _, _, named, linked⟩ := hierarchy_chain walked
        have first : decl ∈ chain := by cases linked <;> exact List.mem_cons_self
        exact ⟨decl, .ofClass first, named⟩
    | tail _ linked ih =>
        obtain ⟨decl, listed, rfl⟩ := ih
        obtain ⟨other, clause, found, written, raw⟩ := (mem_parentNames_iff _ _ _).mp linked
        have same : decl = other := Option.some.inj ((listed.registered walked).symm.trans found)
        subst same
        obtain ⟨parent, ⟨target, named, registered⟩, above⟩ :=
          listed.up topless walked collected written
        have reached : target = _ := Option.some.inj (named.symm.trans raw)
        exact ⟨parent, above, (name_of_lookup? registered).trans reached⟩
  · intro ⟨decl, listed, named⟩
    exact named ▸ listed.descends walked

theorem exists_listed_iff :
    (∃ decl, registry.Listed chain decl ∧ decl.name = super) ↔
      super ∈ chain.map TypeDecl.name ∨
        ∃ member ∈ chain, ∃ found, registry.interfaces member = .ok found ∧
          super ∈ found.map TypeDecl.name := by
  constructor
  · intro ⟨decl, listed, named⟩
    cases listed with
    | ofClass inside => exact .inl (List.mem_map.mpr ⟨decl, inside, named⟩)
    | ofInterface inside gathered found =>
        exact .inr ⟨_, inside, _, gathered, List.mem_map.mpr ⟨decl, found, named⟩⟩
  · intro member
    rcases member with ofClass | ⟨holder, inside, found, gathered, ofInterface⟩
    · obtain ⟨decl, inside, named⟩ := List.mem_map.mp ofClass
      exact ⟨decl, .ofClass inside, named⟩
    · obtain ⟨iface, listed, named⟩ := List.mem_map.mp ofInterface
      exact ⟨iface, .ofInterface inside gathered listed, named⟩

/-- Where no interface has a superclass, and the class chain and the interfaces of all its classes
are there, the supertypes of a type are the root class, the classes of the chain and the interfaces
of these classes; and that is what the search over the supertype clauses answers. -/
theorem isSubtype_iff_walks (topless : registry.InterfacesTopless)
    (walked : registry.hierarchy name = .ok chain)
    (collected : ∀ member ∈ chain, ∃ found, registry.interfaces member = .ok found)
    (super : String) :
    (registry.isSubtype name super = true ↔
      super = rootName ∨ super ∈ chain.map TypeDecl.name ∨
        ∃ member ∈ chain, ∃ found, registry.interfaces member = .ok found ∧
          super ∈ found.map TypeDecl.name) ∧
    ∀ answer, registry.Decides name super answer ↔ answer = registry.isSubtype name super := by
  refine ⟨?_, fun _ => decides_iff⟩
  calc registry.isSubtype name super = true
    _ ↔ super = rootName ∨ registry.Descends name super := isSubtype_iff _ _ _
    _ ↔ super = rootName ∨ ∃ decl, registry.Listed chain decl ∧ decl.name = super :=
      or_congr_right (descends_iff_listed topless walked collected)
    _ ↔ _ := or_congr_right exists_listed_iff

/-- Two interfaces lead to a third one, which leads back to the first of them; a class and its
superclass share it, and the superclass brings in one more. -/
def diamonds : Registry :=
  [{ TypeDecl.ofInterface "Left" with interfaces := [.named "Top"] },
    { TypeDecl.ofInterface "Right" with interfaces := [.named "Top"] },
    { TypeDecl.ofInterface "Top" with interfaces := [.named "Left"] },
    .ofInterface "Solid",
    { TypeDecl.ofClass "Base" with interfaces := [.named "Solid", .named "Right"] },
    { TypeDecl.ofClass "Derived" with
      superclass := some (.named "Base"), interfaces := [.named "Left"] }].foldl
    register Registry.builtin

theorem isSubtype_iff_walks_diamonds :
    diamonds.InterfacesTopless ∧
    ∃ chain, diamonds.hierarchy "Derived" = .ok chain ∧
      (∀ member ∈ chain, ∃ found, diamonds.interfaces member = .ok found) ∧
      chain.map TypeDecl.name = ["Derived", "Base", "Object"] ∧
      diamonds.isSubtype "Derived" "Solid" = true ∧ diamonds.Decides "Derived" "Number" false ∧
      "Number" ∉ chain.map TypeDecl.name := by
  have topless : diamonds.InterfacesTopless := interfacesTopless_of_declarations (by decide)
  have walked : ∃ chain, diamonds.hierarchy "Derived" = .ok chain ∧
      (∀ member ∈ chain, (diamonds.interfaces member).isOk = true) ∧
      chain.map TypeDecl.name = ["Derived", "Base", "Object"] ∧
      ∃ member ∈ chain, ∃ found, diamonds.interfaces member = .ok found ∧
        "Solid" ∈ found.map TypeDecl.name := by
    refine ⟨_, rfl, by decide, rfl, _, List.mem_cons_of_mem _ List.mem_cons_self, _, rfl, by decide⟩
  obtain ⟨chain, walked, succeed, names, shared⟩ := walked
  have collected : ∀ member ∈ chain, ∃ found, diamonds.interfaces member = .ok found :=
    fun member inside => Fallible.exists_of_isOk (succeed member inside)
  have solid := (isSubtype_iff_walks topless walked collected "Solid").1.mpr (.inr (.inr shared))
  obtain ⟨numbers, decided⟩ := isSubtype_iff_walks topless walked collected "Number"
  have other : false = diamonds.isSubtype "Derived" "Number" := by decide
  have absent : "Number" ∉ chain.map TypeDecl.name := by
    intro listed
    have above := numbers.mpr (.inr (.inl listed))
    rw [← other] at above
    cases above
  exact ⟨topless, chain, walked, collected, names, solid, (decided false).mpr other, absent⟩

end Introspection.Registry
