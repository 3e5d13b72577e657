import Introspection.Proofs.Erasure
import Introspection.Proofs.Interfaces
import Introspection.Proofs.OrderedMap
import Introspection.Registry.Methods

/-!
# Where methods come from

Every method of a type is written by hand in a registered type that the clauses
of the type lead to: a class of its chain, or an interface of such a class. The
collection of these types fails only where the interfaces of a class are not all
there (`contributors_eq_ok_iff`). The search signs every method that it meets, so
it ends only where all their types have erasures, and then with the methods that
`Registry.methods` lists (`approximates_methods`).
-/

set_option autoImplicit false

namespace Introspection

theorem Signature.approximates_ofMethod (decl : TypeDecl) (method : Method) :
    Approximates decl.BoundsAcyclic (ofMethod? decl method) (ofMethod decl method) := by
  apply (decl.approximates_erase method.returns).bind
  apply (decl.approximates_map_erase method.parameters).bind
  exact .found _ _

theorem TypeDecl.approximates_signedMethods (decl : TypeDecl) :
    Approximates decl.BoundsAcyclic decl.signedMethods? decl.signedMethods :=
  .mapM fun method _ => (Signature.approximates_ofMethod decl method).map fun signature =>
    (signature, method)

namespace Registry

/-- The members of every registered type name that type as the one that declares them. -/
def MembersKnowTheirType (registry : Registry) : Prop :=
  ∀ name decl, registry.lookup? name = some decl →
    (∀ field ∈ decl.fields, field.declaring = decl.name) ∧
      ∀ method ∈ decl.methods, method.declaring = decl.name

theorem membersKnowTheirType_of_declarations {registry : Registry}
    (all : ∀ decl ∈ registry.declarations, (∀ field ∈ decl.fields, field.declaring = decl.name) ∧
      ∀ method ∈ decl.methods, method.declaring = decl.name) :
    registry.MembersKnowTheirType := by
  intro name decl found
  exact all decl (mem_of_lookup? found)

def belowRoot (chain : List TypeDecl) : List TypeDecl :=
  chain.takeWhile fun decl => decl.name != rootName

/-- All interfaces of a type, none where one of its clauses leads nowhere. -/
def interfacesOrNone (registry : Registry) (decl : TypeDecl) : List TypeDecl :=
  match registry.interfaces decl with
  | .ok interfaces => interfaces
  | .error _ => []

def passedTypes (registry : Registry) (chain : List TypeDecl) : List TypeDecl :=
  (belowRoot chain).flatMap fun decl => decl :: registry.interfacesOrNone decl

variable {registry : Registry} {name : String} {chain types contributors : List TypeDecl}
  {methods : List Method}

theorem withInterfaces_eq_ok_iff {decl : TypeDecl} {together : List TypeDecl} :
    (registry.interfaces decl).map (decl :: ·) = .ok together ↔
      (∃ interfaces, registry.interfaces decl = .ok interfaces) ∧
        decl :: registry.interfacesOrNone decl = together := by
  rw [Fallible.map_eq_ok_iff, interfacesOrNone]
  cases registry.interfaces decl <;> simp

theorem contributors_eq_ok_iff :
    registry.contributors chain = .ok types ↔
      (∀ decl ∈ belowRoot chain, ∃ interfaces, registry.interfaces decl = .ok interfaces) ∧
        registry.passedTypes chain = types := by
  rw [contributors, Fallible.map_eq_ok_iff]
  simp only [Fallible.mapM_eq_ok_iff_of_known fun _ _ => withInterfaces_eq_ok_iff]
  constructor
  · rintro ⟨_, ⟨succeed, rfl⟩, rfl⟩
    exact ⟨succeed, List.flatMap_def⟩
  · rintro ⟨succeed, rfl⟩
    exact ⟨_, ⟨succeed, rfl⟩, List.flatMap_def.symm⟩

theorem mem_contributors (collected : registry.contributors chain = .ok contributors)
    {owner : TypeDecl} (inside : owner ∈ contributors) :
    ∃ decl ∈ chain, owner = decl ∨
      ∃ interfaces, registry.interfaces decl = .ok interfaces ∧ owner ∈ interfaces := by
  obtain ⟨succeed, rfl⟩ := contributors_eq_ok_iff.mp collected
  obtain ⟨decl, below, passed⟩ := List.mem_flatMap.mp inside
  obtain ⟨interfaces, found⟩ := succeed decl below
  rw [interfacesOrNone, found] at passed
  refine ⟨decl, (List.takeWhile_sublist _).subset below, ?_⟩
  rcases List.mem_cons.mp passed with same | inherited
  · exact .inl same
  · exact .inr ⟨interfaces, found, inherited⟩

theorem belowRoot_append {front : List TypeDecl} (below : ∀ decl ∈ front, decl.name ≠ rootName)
    (rest : List TypeDecl) : belowRoot (front ++ rest) = front ++ belowRoot rest := by
  apply List.takeWhile_append_of_pos
  intro decl inside
  simpa using below decl inside

/-- The part of a chain from some class on contributes at most what the whole chain does,
where the root class does not cut the chain off before that class. -/
theorem contributors_append {front rest all later : List TypeDecl}
    (below : ∀ decl ∈ front, decl.name ≠ rootName)
    (collected : registry.contributors (front ++ rest) = .ok all)
    (collectedRest : registry.contributors rest = .ok later) : later ⊆ all := by
  obtain ⟨_, rfl⟩ := contributors_eq_ok_iff.mp collected
  obtain ⟨_, rfl⟩ := contributors_eq_ok_iff.mp collectedRest
  rw [passedTypes, passedTypes, belowRoot_append below, List.flatMap_append]
  exact List.subset_append_right _ _

theorem mem_methodsAlong (collected : registry.methodsAlong chain = .ok methods) {method : Method}
    (inside : method ∈ methods) :
    ∃ contributors, registry.contributors chain = .ok contributors ∧
      ∃ owner ∈ contributors, method ∈ owner.methods ∧ method.isGenerated = false := by
  obtain ⟨contributors, gathered, rfl⟩ := Fallible.map_eq_ok_iff.mp collected
  obtain ⟨signature, signed⟩ := OrderedMap.exists_mem_of_mem_values_ofFirst inside
  obtain ⟨owner, ownerMember, signed⟩ := List.mem_flatMap.mp signed
  obtain ⟨declared, kept, same⟩ := List.mem_map.mp signed
  obtain ⟨written, byHand⟩ := List.mem_filter.mp kept
  cases same
  exact ⟨contributors, gathered, owner, ownerMember, written, by simpa using byHand⟩

theorem methods_eq_methodsAlong (walked : registry.hierarchy name = .ok chain) :
    registry.methods name = registry.methodsAlong chain := by
  rw [Registry.methods, walked]

theorem contributors_cons {decl : TypeDecl} {above : List TypeDecl}
    (below : decl.name ≠ rootName) :
    registry.contributors (decl :: above) = (registry.interfaces decl).bind fun interfaces =>
      (registry.contributors above).map fun later => decl :: interfaces ++ later := by
  unfold contributors
  rw [List.takeWhile_cons_of_pos (by simpa using below), List.mapM_cons]
  cases registry.interfaces decl with
  | error error => rfl
  | ok interfaces =>
      cases (above.takeWhile fun decl => decl.name != rootName).mapM fun decl =>
        (registry.interfaces decl).map (decl :: ·) <;> rfl

theorem contributors_of_root {decl : TypeDecl} {above : List TypeDecl}
    (root : decl.name = rootName) : registry.contributors (decl :: above) = .ok [] := by
  unfold contributors
  rw [List.takeWhile_cons_of_neg (by simpa using root)]
  rfl

/-! ## The search for methods -/

/-- Class by class: the class itself, its interfaces, and then the classes above. -/
theorem approximates_readAlong {α : Type} {ends : Prop} {read? : TypeDecl → Option (List α)}
    {contents : TypeDecl → List α}
    (reads : ∀ decl, registry.lookup? decl.name = some decl →
      Approximates ends (read? decl) (contents decl))
    (registered : ∀ decl ∈ chain, registry.lookup? decl.name = some decl) :
    Approximates ends (registry.readAlong? read? chain)
      ((registry.contributors chain).map (List.flatMap contents)) := by
  induction chain with
  | nil => exact .found _ _
  | cons decl above ih =>
      rw [readAlong?]
      by_cases root : decl.name = rootName
      · rw [if_pos root, contributors_of_root root]
        exact .found _ _
      · rw [if_neg root, contributors_cons root]
        apply (reads decl (registered decl List.mem_cons_self)).bind
        cases gathered : registry.interfaces decl with
        | error error => exact .found _ _
        | ok interfaces =>
            have inherited : Approximates ends (interfaces.mapM read?) (interfaces.map contents) :=
              .mapM fun parent inside => reads parent (lookup?_of_mem_interfaces gathered inside)
            apply inherited.bind
            have later := ih fun other inside => registered other (List.mem_cons_of_mem _ inside)
            cases collected : registry.contributors above with
            | error error =>
                rw [collected] at later
                exact later.bind (.found _ _)
            | ok types =>
                rw [collected] at later
                have joined : (decl :: interfaces ++ types).flatMap contents =
                    contents decl ++ (interfaces.map contents).flatten ++
                      types.flatMap contents := by
                  rw [List.flatMap_append, List.flatMap_cons, ← List.flatMap_def]
                simp only [Except.bind, Except.map, joined]
                exact later.bind (.found _ _)

/-- A walk that reads less of every type ends where one that reads more does. -/
theorem exists_readAlong? {α β : Type} {read? : TypeDecl → Option (List α)}
    {readLess? : TypeDecl → Option (List β)}
    (less : ∀ decl own, read? decl = some own → ∃ part, readLess? decl = some part)
    {outcome : Except MetadataError (List α)}
    (ran : registry.readAlong? read? chain = some outcome) :
    ∃ other, registry.readAlong? readLess? chain = some other := by
  induction chain generalizing outcome with
  | nil => exact ⟨_, rfl⟩
  | cons decl above ih =>
      rw [readAlong?] at ran ⊢
      by_cases root : decl.name = rootName
      · exact ⟨_, if_pos root⟩
      · rw [if_neg root] at ran ⊢
        obtain ⟨own, readOwn, ran⟩ := Option.bind_eq_some_iff.mp ran
        obtain ⟨part, readPart⟩ := less decl own readOwn
        rw [readPart]
        cases gathered : registry.interfaces decl with
        | error error => exact ⟨_, rfl⟩
        | ok interfaces =>
            rw [gathered] at ran
            obtain ⟨inherited, readThere, ran⟩ := Option.bind_eq_some_iff.mp ran
            obtain ⟨later, readAbove, _⟩ := Option.bind_eq_some_iff.mp ran
            obtain ⟨parts, readParts⟩ : ∃ parts, interfaces.mapM readLess? = some parts :=
              exists_mapM_eq_some fun parent inside =>
                have ⟨_, readParent⟩ := exists_of_mapM_eq_some readThere inside
                less parent _ readParent
            obtain ⟨other, readOther⟩ := ih readAbove
            exact ⟨other.map fun later => part ++ parts.flatten ++ later, by
              simp [readParts, readOther]⟩

/-- The search ends with the methods that are listed, and it ends where no bounds form a ring. -/
theorem approximates_methods (registry : Registry) (name : String) :
    Approximates registry.BoundsAcyclic (registry.methods? name) (registry.methods name) := by
  unfold Registry.methods? Registry.methods
  cases walked : registry.hierarchy name with
  | error error => exact .found _ _
  | ok chain =>
      have along := approximates_readAlong
        (fun decl known => decl.approximates_signedMethods.weaken
          fun acyclic : registry.BoundsAcyclic => acyclic _ _ known)
        fun _ => lookup?_of_mem_hierarchy walked
      have collected : registry.methodsAlong chain =
          ((registry.contributors chain).map (List.flatMap TypeDecl.signedMethods)).map
            fun signed => (OrderedMap.ofFirst signed).values := by
        unfold methodsAlong
        cases registry.contributors chain <;> rfl
      dsimp only
      rw [collected]
      exact along.map _

/-- The declaring type of a method lies on the way up from the type. -/
theorem exists_owner_of_mem_methodsAlong (walked : registry.hierarchy name = .ok chain)
    (collected : registry.methodsAlong chain = .ok methods) {method : Method}
    (inside : method ∈ methods) :
    ∃ owner, registry.lookup? owner.name = some owner ∧ registry.Descends name owner.name ∧
      method ∈ owner.methods := by
  obtain ⟨contributors, gathered, owner, ownerMember, written, _⟩ :=
    mem_methodsAlong collected inside
  obtain ⟨decl, inChain, rfl | ⟨interfaces, found, inherited⟩⟩ :=
    mem_contributors gathered ownerMember
  · exact ⟨owner, lookup?_of_mem_hierarchy walked inChain,
      descends_of_mem_hierarchy walked inChain, written⟩
  · have registered := lookup?_of_mem_hierarchy walked inChain
    exact ⟨owner, lookup?_of_mem_interfaces found inherited,
      (descends_of_mem_hierarchy walked inChain).trans
        (descends_of_mem_interfaces registered found inherited), written⟩

end Registry

end Introspection
