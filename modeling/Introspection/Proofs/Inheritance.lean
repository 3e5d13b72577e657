import Introspection.Proofs.InstanceAccess
import Introspection.Proofs.MethodEnumeration
import Introspection.Proofs.NarrowestChoice

/-!
# What a subclass keeps

Two builds are compared here, that of a type and that of a class of its chain.
Each method of the class is represented among the methods of the type by one of
the same signature, and the chain of the type ends in that of the class, so no
candidate and no field of a property is lost. The getter of the type has the
narrowest return type of more candidates than the getter of the class.
-/

set_option autoImplicit false

namespace Introspection

namespace Registry

variable {registry : Registry}

theorem erasedReturn_eq_signature (known : registry.MembersKnowTheirType) {owner : TypeDecl}
    (registered : registry.lookup? owner.name = some owner) {method : Method}
    (written : method ∈ owner.methods) :
    registry.erasedReturn method = (Signature.ofMethod owner method).returns := by
  have declaring := (known _ _ registered).2 method written
  rw [erasedReturn, eraseIn, declaring, registered]
  rfl

theorem isErased_erasedReturn (known : registry.MembersKnowTheirType) {name : String}
    {chain : List TypeDecl} {methods : List Method}
    (walked : registry.hierarchy name = .ok chain)
    (collected : registry.methodsAlong chain = .ok methods) {method : Method}
    (listed : method ∈ methods) : (registry.erasedReturn method).isErased = true := by
  obtain ⟨owner, registered, _, written⟩ := exists_owner_of_mem_methodsAlong walked collected listed
  rw [erasedReturn_eq_signature known registered written]
  exact owner.isErased_erase method.returns

theorem lookup?_of_mem_contributors {name : String} {chain contributors : List TypeDecl}
    (walked : registry.hierarchy name = .ok chain)
    (gathered : registry.contributors chain = .ok contributors) {owner : TypeDecl}
    (inside : owner ∈ contributors) : registry.lookup? owner.name = some owner := by
  obtain ⟨decl, inChain, rfl | ⟨interfaces, found, inherited⟩⟩ := mem_contributors gathered inside
  · exact lookup?_of_mem_hierarchy walked inChain
  · exact lookup?_of_mem_interfaces found inherited

end Registry

namespace TableBuilder

theorem mem_filterMap_propertyOf?_iff (builder : TableBuilder) (side : Side)
    (methods : List Method) (property : String) :
    property ∈ methods.filterMap (builder.propertyOf? side) ↔
      ∃ method, method ∈ builder.candidatesOf side property methods := by
  simp only [List.mem_filterMap, candidatesOf, List.mem_filter, decide_eq_true_iff]

namespace Stages

variable {builder : TableBuilder} {derived base : String} {derivedTable baseTable : PropertyTable}

/-- The chain of a subclass ends in that of the class. -/
theorem exists_front (below : Stages builder derived derivedTable)
    (above : Stages builder base baseTable) (inherits : base ∈ below.chain.map TypeDecl.name) :
    ∃ front, below.chain = front ++ above.chain := by
  obtain ⟨described, inside, rfl⟩ := List.mem_map.mp inherits
  obtain ⟨front, rest, split, walked⟩ := Registry.hierarchy_suffix below.walked inside
  rw [above.walked, Except.ok.injEq] at walked
  exact ⟨front, by rw [split, walked]⟩

/-- A candidate of the class is represented in the subclass by one of the same erased return
type, be it an override or the method itself. -/
theorem exists_candidate (below : Stages builder derived derivedTable)
    (above : Stages builder base baseTable) (bare : builder.registry.RootIsBare)
    (known : builder.registry.MembersKnowTheirType)
    (inherits : base ∈ below.chain.map TypeDecl.name) {side : Side} {property : String}
    {method : Method} (candidate : method ∈ builder.candidatesOf side property above.methods) :
    ∃ own ∈ builder.candidatesOf side property below.methods,
      builder.registry.erasedReturn own = builder.registry.erasedReturn method := by
  obtain ⟨front, split⟩ := below.exists_front above inherits
  obtain ⟨listed, classified, valid⟩ := (mem_candidatesOf_iff _ _ _ _ _).mp candidate
  obtain ⟨contributors, gathered, owner, ownerMember, written, byHand⟩ :=
    Registry.mem_methodsAlong above.collected listed
  obtain ⟨all, gatheredAll, _⟩ := Fallible.map_eq_ok_iff.mp below.collected
  -- The root class cannot cut the longer walk off, since only the last class of a chain is it.
  have plain : ∀ decl ∈ front, decl.name ≠ rootName := by
    intro decl inside
    exact Registry.ne_root_of_mem_front bare below.walked split
      (Registry.ne_nil_of_hierarchy above.walked) inside
  have inAll : owner ∈ all :=
    Registry.contributors_append plain (split ▸ gatheredAll) gathered ownerMember
  obtain ⟨own, ownListed, keeper, keeperMember, ownWritten, same⟩ :=
    Registry.exists_mem_methodsAlong below.collected gatheredAll inAll written byHand
  have ownClassified := builder.namer.classify_eq_of_signature same
  rw [classified] at ownClassified
  have ownerRegistered := Registry.lookup?_of_mem_contributors above.walked gathered ownerMember
  have keeperRegistered :=
    Registry.lookup?_of_mem_contributors below.walked gatheredAll keeperMember
  refine ⟨own, (mem_candidatesOf_iff _ _ _ _ _).mpr ⟨ownListed, ownClassified, valid⟩, ?_⟩
  rw [Registry.erasedReturn_eq_signature known keeperRegistered ownWritten, same,
    Registry.erasedReturn_eq_signature known ownerRegistered written]

theorem methodProperties_subset (below : Stages builder derived derivedTable)
    (above : Stages builder base baseTable) (bare : builder.registry.RootIsBare)
    (known : builder.registry.MembersKnowTheirType)
    (inherits : base ∈ below.chain.map TypeDecl.name) (side : Side) :
    above.methods.filterMap (builder.propertyOf? side) ⊆
      below.methods.filterMap (builder.propertyOf? side) := by
  intro property listed
  rw [mem_filterMap_propertyOf?_iff] at listed ⊢
  obtain ⟨method, candidate⟩ := listed
  obtain ⟨own, ownCandidate, _⟩ := below.exists_candidate above bare known inherits candidate
  exact ⟨own, ownCandidate⟩

theorem propertyFields_subset (below : Stages builder derived derivedTable)
    (above : Stages builder base baseTable) (inherits : base ∈ below.chain.map TypeDecl.name) :
    propertyFields above.chain ⊆ propertyFields below.chain := by
  obtain ⟨front, split⟩ := below.exists_front above inherits
  rw [split, propertyFields, propertyFields, List.flatMap_append]
  exact List.subset_append_right _ _

theorem readable_subset (below : Stages builder derived derivedTable)
    (above : Stages builder base baseTable) (bare : builder.registry.RootIsBare)
    (known : builder.registry.MembersKnowTheirType)
    (inherits : base ∈ below.chain.map TypeDecl.name) :
    baseTable.readable ⊆ derivedTable.readable := by
  have methods := below.methodProperties_subset above bare known inherits .getter
  have fields := List.map_subset (fun entry : TypeDecl × Field => entry.2.name)
    (below.propertyFields_subset above inherits)
  intro property listed
  rw [above.readable_eq, List.mem_eraseDups, List.mem_append] at listed
  rw [below.readable_eq, List.mem_eraseDups, List.mem_append]
  exact listed.imp (fun ofMethod => methods ofMethod) (fun ofField => fields ofField)

/-- A constant of the subclass does not take the property away: the field that is written
is the nearest one that is not constant. -/
theorem writable_subset (below : Stages builder derived derivedTable)
    (above : Stages builder base baseTable) (bare : builder.registry.RootIsBare)
    (known : builder.registry.MembersKnowTheirType)
    (inherits : base ∈ below.chain.map TypeDecl.name) :
    baseTable.writable ⊆ derivedTable.writable := by
  have methods := below.methodProperties_subset above bare known inherits .setter
  have fields := List.map_subset (fun entry : TypeDecl × Field => entry.2.name)
    (List.filter_subset (fun entry => !entry.2.isConstant)
      (below.propertyFields_subset above inherits))
  intro property listed
  rw [above.writable_eq, List.mem_eraseDups, List.mem_append] at listed
  rw [below.writable_eq, List.mem_eraseDups, List.mem_append]
  exact listed.imp (fun ofMethod => methods ofMethod) (fun ofField => fields ofField)

theorem exists_narrower_getter (below : Stages builder derived derivedTable)
    (above : Stages builder base baseTable) (bare : builder.registry.RootIsBare)
    (known : builder.registry.MembersKnowTheirType)
    (inherits : base ∈ below.chain.map TypeDecl.name) {property : String} {inherited : Method}
    (found : baseTable.getter property = .ok (.getter inherited)) :
    ∃ own, derivedTable.getter property = .ok (.getter own) ∧
      builder.registry.isAssignable (builder.registry.erasedReturn inherited)
        (builder.registry.erasedReturn own) = true := by
  obtain ⟨entry, stored, backing⟩ := above.getter_eq_ok_iff.mp found
  rcases (above.getter_cases stored).2 with
    ⟨winner, type, selected, _, rfl⟩ | ⟨_, source, _, rfl⟩
  · cases backing
    obtain ⟨represents, candidate, sameType⟩ := below.exists_candidate above bare known inherits
      (Registry.mem_of_chooseGetter selected)
    obtain ⟨own, ownType, chosen, _, ownStored⟩ :=
      below.exists_getter_of_candidates (List.ne_nil_of_mem candidate)
    have erased : ∀ other ∈ builder.candidatesOf .getter property below.methods,
        (builder.registry.erasedReturn other).isErased = true := by
      intro other inside
      exact Registry.isErased_erasedReturn known below.walked below.collected
        ((mem_candidatesOf_iff _ _ _ _ _).mp inside).1
    refine ⟨own, below.getter_eq_ok_iff.mpr ⟨_, ownStored, rfl⟩, ?_⟩
    rw [← sameType]
    exact Registry.narrowest_of_chooseGetter bare erased chosen represents candidate
  · cases backing

end Stages

/-- Whatever can be read or written on a class can be read or written on its subclasses, and
where a method reads it on the class, one of at least as narrow a type reads it there. -/
theorem inherits_of_build {builder : TableBuilder} {derived base : String}
    {derivedTable baseTable : PropertyTable} {chain : List TypeDecl}
    (bare : builder.registry.RootIsBare) (known : builder.registry.MembersKnowTheirType)
    (walked : builder.registry.hierarchy derived = .ok chain)
    (above : base ∈ chain.map TypeDecl.name)
    (builtDerived : builder.build derived = .ok derivedTable)
    (builtBase : builder.build base = .ok baseTable) :
    baseTable.readable ⊆ derivedTable.readable ∧ baseTable.writable ⊆ derivedTable.writable ∧
      ∀ property inherited, baseTable.getter property = .ok (.getter inherited) →
        ∃ own, derivedTable.getter property = .ok (.getter own) ∧
          builder.registry.isAssignable (builder.registry.erasedReturn inherited)
            (builder.registry.erasedReturn own) = true := by
  obtain ⟨below⟩ := nonempty_stages builtDerived
  obtain ⟨stages⟩ := nonempty_stages builtBase
  have inherits : base ∈ below.chain.map TypeDecl.name := by
    have same := below.walked
    rw [walked, Except.ok.injEq] at same
    rw [← same]
    exact above
  refine ⟨below.readable_subset stages bare known inherits,
    below.writable_subset stages bare known inherits, ?_⟩
  intro property inherited found
  exact below.exists_narrower_getter stages bare known inherits found

def measures : Registry :=
  (Registry.builtin.register
      (((TypeDecl.ofClass "Measure").addField ⟨"unit", .named "String", .publicOnly, none, ""⟩).addMethod
        (.getterOf "getValue" "value" (.named "Number")))).register
    ({ TypeDecl.ofClass "Count" with superclass := some (.named "Measure") }.addMethod
      (.getterOf "getValue" "value" (.named "Integer")))

theorem inherits_of_build_measures :
    ∃ countTable measureTable, (ofRegistry measures).build "Count" = .ok countTable ∧
      (ofRegistry measures).build "Measure" = .ok measureTable ∧
      measureTable.readable ⊆ countTable.readable ∧
      measureTable.writable ⊆ countTable.writable ∧
      ∃ inherited own, measureTable.getter "value" = .ok (.getter inherited) ∧
        countTable.getter "value" = .ok (.getter own) ∧
        measures.isAssignable (measures.erasedReturn inherited) (measures.erasedReturn own) =
          true := by
  have bare : measures.RootIsBare := Registry.rootIsBare_of_lookup? rfl rfl
  have known : measures.MembersKnowTheirType :=
    Registry.membersKnowTheirType_of_declarations (by decide)
  have succeeds : ((ofRegistry measures).build "Count").isOk = true := by decide
  have succeedsAbove : ((ofRegistry measures).build "Measure").isOk = true := by decide
  obtain ⟨countTable, built⟩ := Fallible.exists_of_isOk succeeds
  obtain ⟨measureTable, builtAbove⟩ := Fallible.exists_of_isOk succeedsAbove
  have found : ((ofRegistry measures).build "Measure").bind (·.getter "value") =
      .ok (.getter { Method.getterOf "getValue" "value" (.named "Number") with
        declaring := "Measure" }) := rfl
  rw [builtAbove] at found
  obtain ⟨readable, writable, narrower⟩ :=
    inherits_of_build bare known rfl (by decide) built builtAbove
  obtain ⟨own, ownFound, assignable⟩ := narrower "value" _ found
  exact ⟨countTable, measureTable, built, builtAbove, readable, writable, _, own, found, ownFound,
    assignable⟩

end TableBuilder

end Introspection
