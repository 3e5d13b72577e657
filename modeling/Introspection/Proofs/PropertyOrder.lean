import Introspection.Proofs.TableConsistency

/-!
# The order of properties

A table lists first the properties that methods give, each where its first
candidate stands, and then the names of fields that are not listed yet, classes
nearest to the type first. Names that may not be properties count nowhere: a
candidate for one is in no list, and the whole build is the one in which such
methods had never been declared.
-/

set_option autoImplicit false

namespace Introspection.TableBuilder

def derivedName? (builder : TableBuilder) (side : Side) (method : Method) : Option String :=
  match builder.namer.classify method with
  | some (role, property) => if role = side then some property else none
  | none => none

def derivedNames (builder : TableBuilder) (side : Side) (methods : List Method) : List String :=
  methods.filterMap (builder.derivedName? side)

def fieldNames (chain : List TypeDecl) (admits : Field → Bool) : List String :=
  ((chain.flatMap TypeDecl.fields).filter admits).map Field.name

def isReserved (builder : TableBuilder) (method : Method) : Bool :=
  (builder.namer.classify method).any fun found => !isPropertyName found.2

/-- The build, for a given outcome of the search for methods. -/
def buildWith (builder : TableBuilder) (name : String) (found : Except MetadataError (List Method)) :
    Except MetadataError PropertyTable := do
  let decl ← builder.registry.require name
  let chain ← builder.registry.hierarchy name
  let methods ← found
  builder.assemble decl chain methods

/-- The signed methods of a type without its reserved candidates, which are left unsigned. -/
def unreserved? (builder : TableBuilder) (decl : TypeDecl) : Option (List (Signature × Method)) :=
  (decl.methods.filter fun method => !method.isGenerated && !builder.isReserved method).mapM
    fun method => (Signature.ofMethod? decl method).map fun signature => (signature, method)

/-- The search for methods as it is when no reserved candidate has ever been declared. -/
def unreservedMethods? (builder : TableBuilder) (name : String) :
    Option (Except MetadataError (List Method)) :=
  match builder.registry.hierarchy name with
  | .ok chain =>
      (builder.registry.readAlong? builder.unreserved? chain).map fun signed =>
        signed.map fun signed => (OrderedMap.ofFirst signed).values
  | .error error => some (.error error)

/-! ## Names -/

theorem derivedName?_eq_some_iff (builder : TableBuilder) (side : Side) (method : Method)
    (property : String) :
    builder.derivedName? side method = some property ↔
      builder.namer.classify method = some (side, property) := by
  unfold derivedName?
  cases builder.namer.classify method with
  | none => simp
  | some found => simp [Prod.ext_iff]

theorem propertyOf?_eq_filter (builder : TableBuilder) (side : Side) (method : Method) :
    builder.propertyOf? side method = (builder.derivedName? side method).filter isPropertyName := by
  ext property
  rw [propertyOf?_eq_some_iff, Option.filter_eq_some_iff, derivedName?_eq_some_iff]

theorem filterMap_propertyOf? (builder : TableBuilder) (side : Side) (methods : List Method) :
    methods.filterMap (builder.propertyOf? side) =
      (builder.derivedNames side methods).filter isPropertyName := by
  rw [derivedNames, List.filter_filterMap]
  congr 1
  funext method
  exact builder.propertyOf?_eq_filter side method

theorem map_propertyFields (chain : List TypeDecl) (admits : Field → Bool) :
    ((propertyFields chain).filter fun entry => admits entry.2).map (fun entry => entry.2.name) =
      (fieldNames chain admits).filter isPropertyName := by
  induction chain with
  | nil => rfl
  | cons decl rest ih =>
      have here : (((decl.fields.filter fun field => isPropertyName field.name).map
            fun field => (decl, field)).filter fun entry => admits entry.2).map
              (fun entry => entry.2.name) =
          ((decl.fields.filter admits).map Field.name).filter isPropertyName := by
        simp [List.filter_map, List.filter_filter, Function.comp_def, Bool.and_comm]
      simp only [propertyFields, fieldNames, List.flatMap_cons, List.filter_append,
        List.map_append] at ih ⊢
      rw [here, ih]

/-! ## Reserved candidates -/

theorem propertyOf?_of_isReserved {builder : TableBuilder} {method : Method}
    (reserved : builder.isReserved method = true) (side : Side) :
    builder.propertyOf? side method = none := by
  unfold isReserved at reserved
  unfold propertyOf?
  cases found : builder.namer.classify method with
  | none => rfl
  | some derived =>
      rw [found, Option.any_some, Bool.not_eq_true'] at reserved
      simp [reserved]

theorem candidates_filter (builder : TableBuilder) (side : Side) (methods : List Method) :
    builder.candidates side (methods.filter fun method => !builder.isReserved method) =
      builder.candidates side methods := by
  unfold candidates
  rw [List.filterMap_filter]
  congr 2
  funext method
  cases reserved : builder.isReserved method with
  | false => simp
  | true => simp [propertyOf?_of_isReserved reserved side]

theorem assemble_filter (builder : TableBuilder) (decl : TypeDecl) (chain : List TypeDecl)
    (methods : List Method) :
    builder.assemble decl chain (methods.filter fun method => !builder.isReserved method) =
      builder.assemble decl chain methods := by
  simp only [assemble, addGetters, addSetters, candidates_filter]

/-- Whether a method is a reserved candidate can be seen from its signature. -/
def reservesSignature (builder : TableBuilder) (signature : Signature) : Bool :=
  builder.isReserved (.ofHeader signature.name signature.parameters signature.returns)

theorem reservesSignature_eq (builder : TableBuilder) {decls : List TypeDecl}
    {signed : Signature × Method} (declared : signed ∈ decls.flatMap TypeDecl.signedMethods) :
    builder.reservesSignature signed.1 = builder.isReserved signed.2 := by
  obtain ⟨owner, _, inside⟩ := List.mem_flatMap.mp declared
  obtain ⟨method, _, rfl⟩ := List.mem_map.mp inside
  rw [reservesSignature, isReserved, isReserved, builder.namer.classify_ofHeader_signature]

theorem values_ofFirst_unreserved (builder : TableBuilder) (decls : List TypeDecl) :
    (OrderedMap.ofFirst ((decls.flatMap TypeDecl.signedMethods).filter
        fun signed => !builder.isReserved signed.2)).values =
      (OrderedMap.ofFirst (decls.flatMap TypeDecl.signedMethods)).values.filter
        fun method => !builder.isReserved method := by
  apply OrderedMap.values_ofFirst_filter (fun signature => !builder.reservesSignature signature)
    (fun method => !builder.isReserved method)
  intro signed declared
  rw [builder.reservesSignature_eq declared]

theorem build_eq_buildWith (builder : TableBuilder) (name : String) :
    builder.build name = builder.buildWith name (builder.registry.methods name) := by
  unfold build buildWith Registry.methods
  cases builder.registry.hierarchy name <;> rfl

/-- A build makes the same of the methods without the reserved ones among them. -/
theorem buildWith_filter (builder : TableBuilder) (name : String)
    (found : Except MetadataError (List Method)) :
    builder.buildWith name
        (found.map (List.filter fun method => !builder.isReserved method)) =
      builder.buildWith name found := by
  cases found with
  | error error => rfl
  | ok methods => simp only [buildWith, Except.map, bind, Except.bind, assemble_filter]

theorem approximates_unreserved (builder : TableBuilder) (decl : TypeDecl) :
    Approximates decl.BoundsAcyclic (builder.unreserved? decl)
      (decl.signedMethods.filter fun signed => !builder.isReserved signed.2) := by
  have kept : decl.signedMethods.filter (fun signed => !builder.isReserved signed.2) =
      (decl.methods.filter fun method => !method.isGenerated && !builder.isReserved method).map
        fun method => (Signature.ofMethod decl method, method) := by
    simp [TypeDecl.signedMethods, List.filter_map, List.filter_filter, Function.comp_def,
      Bool.and_comm]
  rw [kept]
  exact .mapM fun method _ => (Signature.approximates_ofMethod decl method).map fun signature =>
    (signature, method)

theorem exists_unreserved? (builder : TableBuilder) {decl : TypeDecl}
    {own : List (Signature × Method)} (signed : decl.signedMethods? = some own) :
    ∃ part, builder.unreserved? decl = some part := by
  refine exists_mapM_eq_some fun method inside => ?_
  obtain ⟨written, kept⟩ := List.mem_filter.mp inside
  rw [Bool.and_eq_true] at kept
  exact exists_of_mapM_eq_some signed (List.mem_filter.mpr ⟨written, kept.1⟩)

/-- Where the search for methods ends, it does so without the reserved candidates as well, and
finds the other methods. -/
theorem unreservedMethods?_of_methods? (builder : TableBuilder) {name : String}
    {found : Except MetadataError (List Method)}
    (ran : builder.registry.methods? name = some found) :
    builder.unreservedMethods? name =
      some (found.map (List.filter fun method => !builder.isReserved method)) := by
  obtain rfl := (Registry.approximates_methods builder.registry name).agrees found ran
  unfold Registry.methods? at ran
  unfold unreservedMethods? Registry.methods
  cases walked : builder.registry.hierarchy name with
  | error error => rfl
  | ok chain =>
      rw [walked] at ran
      obtain ⟨signed, along, _⟩ := Option.map_eq_some_iff.mp ran
      obtain ⟨kept, alongToo⟩ := Registry.exists_readAlong? (fun _ _ => builder.exists_unreserved?)
        along
      have read := Registry.approximates_readAlong
        (fun decl known => (builder.approximates_unreserved decl).weaken
          fun acyclic : builder.registry.BoundsAcyclic => acyclic _ _ known)
        fun _ => Registry.lookup?_of_mem_hierarchy walked
      dsimp only
      rw [alongToo, Option.map_some, ← read.agrees kept alongToo, Registry.methodsAlong]
      cases builder.registry.contributors chain with
      | error error => rfl
      | ok contributors =>
          simp only [Except.map]
          rw [← List.filter_flatMap, values_ofFirst_unreserved]

namespace Stages

variable {builder : TableBuilder} {name : String} {table : PropertyTable}

theorem readable_eq_derived (stages : Stages builder name table) :
    table.readable = ((builder.derivedNames .getter stages.methods ++
      fieldNames stages.chain fun _ => true).filter isPropertyName).eraseDups := by
  have fields := map_propertyFields stages.chain fun _ => true
  rw [List.filter_true] at fields
  rw [stages.readable_eq, filterMap_propertyOf?, List.filter_append, ← fields]

theorem writable_eq_derived (stages : Stages builder name table) :
    table.writable = ((builder.derivedNames .setter stages.methods ++
      fieldNames stages.chain fun field => !field.isConstant).filter isPropertyName).eraseDups := by
  rw [stages.writable_eq, filterMap_propertyOf?, List.filter_append, ← map_propertyFields]

theorem getter_of_candidate (stages : Stages builder name table) {property : String}
    {method : Method} (listed : method ∈ stages.methods)
    (classified : builder.namer.classify method = some (.getter, property))
    (valid : isPropertyName property = true) :
    ∃ winner ∈ stages.methods, builder.namer.classify winner = some (.getter, property) ∧
      table.getter property = .ok (.getter winner) := by
  have candidate := (mem_candidatesOf_iff _ _ _ _ _).mpr ⟨listed, classified, valid⟩
  obtain ⟨winner, type, selected, _, stored⟩ :=
    stages.exists_getter_of_candidates (List.ne_nil_of_mem candidate)
  obtain ⟨winnerListed, winnerClassified, _⟩ :=
    (mem_candidatesOf_iff _ _ _ _ _).mp (Registry.mem_of_chooseGetter selected)
  exact ⟨winner, winnerListed, winnerClassified,
    stages.getter_eq_ok_iff.mpr ⟨_, stored, rfl⟩⟩

theorem setter_of_candidate (stages : Stages builder name table) {property : String}
    {method : Method} (listed : method ∈ stages.methods)
    (classified : builder.namer.classify method = some (.setter, property))
    (valid : isPropertyName property = true) :
    ∃ winner ∈ stages.methods, builder.namer.classify winner = some (.setter, property) ∧
      table.setter property = .ok (.setter winner) := by
  have candidate := (mem_candidatesOf_iff _ _ _ _ _).mpr ⟨listed, classified, valid⟩
  obtain ⟨winner, _, type, selected, _, _, stored⟩ :=
    stages.exists_setter_of_candidates (List.ne_nil_of_mem candidate)
  obtain ⟨winnerListed, winnerClassified, _⟩ :=
    (mem_candidatesOf_iff _ _ _ _ _).mp (Registry.mem_of_chooseSetter selected)
  exact ⟨winner, winnerListed, winnerClassified,
    stages.setter_eq_ok_iff.mpr ⟨_, stored, rfl⟩⟩

end Stages

/-- What the lists of a table hold, in order, and that reserved candidates have no part in
the build, whether it succeeds or fails: where the search for methods ends, the build is the one
that goes on without ever having seen them. -/
theorem lists_of_build (builder : TableBuilder) (name : String) :
    (builder.registry.BoundsAcyclic → ∃ found, builder.registry.methods? name = some found) ∧
    ∀ found, builder.registry.methods? name = some found →
      builder.build name = builder.buildWith name found ∧
      (∃ kept, builder.unreservedMethods? name = some kept ∧
        builder.build name = builder.buildWith name kept) ∧
      ∀ table, builder.build name = .ok table →
        ∃ chain methods, builder.registry.hierarchy name = .ok chain ∧ found = .ok methods ∧
          table.readable = ((builder.derivedNames .getter methods ++
            fieldNames chain fun _ => true).filter isPropertyName).eraseDups ∧
          table.writable = ((builder.derivedNames .setter methods ++
            fieldNames chain fun field => !field.isConstant).filter isPropertyName).eraseDups ∧
          (∀ property, isPropertyName property = true → ∀ method ∈ methods,
            builder.namer.classify method = some (.getter, property) →
              ∃ winner ∈ methods, builder.namer.classify winner = some (.getter, property) ∧
                table.getter property = .ok (.getter winner)) ∧
          ∀ property, isPropertyName property = true → ∀ method ∈ methods,
            builder.namer.classify method = some (.setter, property) →
              ∃ winner ∈ methods, builder.namer.classify winner = some (.setter, property) ∧
                table.setter property = .ok (.setter winner) := by
  have approximates := Registry.approximates_methods builder.registry name
  refine ⟨fun acyclic => ⟨_, approximates.finds acyclic⟩, ?_⟩
  intro found ran
  have kept := builder.unreservedMethods?_of_methods? ran
  obtain rfl := approximates.agrees found ran
  have same := builder.build_eq_buildWith name
  refine ⟨same, ⟨_, kept, ?_⟩, ?_⟩
  · rw [buildWith_filter, same]
  intro table built
  obtain ⟨stages⟩ := nonempty_stages built
  refine ⟨stages.chain, stages.methods, stages.walked, stages.methods_eq,
    stages.readable_eq_derived, stages.writable_eq_derived, ?_, ?_⟩
  · intro property valid method listed classified
    exact stages.getter_of_candidate listed classified valid
  · intro property valid method listed classified
    exact stages.setter_of_candidate listed classified valid

/-- A class with two methods for the reserved name `class`, whose types have nothing in common,
a property of methods that hides a field, a plain field and a constant. -/
def reportClass : TypeDecl :=
  (((((((TypeDecl.ofClass "Report").addField ⟨"id", .primitive .long, .publicOnly, none, ""⟩).addField
      ⟨"name", .named "String", .publicOnly, none, ""⟩).addField
      ⟨"limit", .primitive .int, .ofList [.static, .final], none, ""⟩).addMethod
      (.ofHeader "getClass" [] (.named "String"))).addMethod
      (.ofHeader "getClass" [] (.named "Integer"))).addMethod
      (.getterOf "getName" "name" (.named "String"))).addMethod
    (.setterOf "setName" "name" (.named "String"))

theorem lists_of_build_report :
    ∃ table, (ofRegistry (Registry.builtin.register reportClass)).build "Report" = .ok table ∧
      table.readable = ["name", "id", "limit"] ∧ table.writable = ["name", "id"] := by
  have succeeds : ((ofRegistry (Registry.builtin.register reportClass)).build "Report").isOk =
      true := by
    decide
  obtain ⟨table, built⟩ := Fallible.exists_of_isOk succeeds
  obtain ⟨ends, finds⟩ :=
    lists_of_build (ofRegistry (Registry.builtin.register reportClass)) "Report"
  obtain ⟨found, ran⟩ := ends (Registry.boundsAcyclic_of_rank (fun _ => 0) (by decide))
  obtain ⟨_, _, lists⟩ := finds found ran
  obtain ⟨chain, methods, walked, rfl, readable, writable, _⟩ := lists table built
  have classes : (Registry.builtin.register reportClass).hierarchy "Report" =
      .ok [reportClass, .bare rootName .classKind] := rfl
  have declared : (Registry.builtin.register reportClass).methods? "Report" =
      some (.ok reportClass.methods) := rfl
  rw [ofRegistry, classes] at walked
  rw [ofRegistry, declared] at ran
  cases walked
  cases ran
  refine ⟨table, built, ?_, ?_⟩
  · rw [readable]
    rfl
  · rw [writable]
    rfl

end Introspection.TableBuilder
