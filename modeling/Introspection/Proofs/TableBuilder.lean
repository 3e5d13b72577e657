import Introspection.Proofs.Methods
import Introspection.Proofs.Selection
import Introspection.Proofs.TableMaps

/-!
# What a built property table holds

A build that succeeds went through `Stages`: candidates are grouped by property,
one accessor is chosen per group, and fields fill the names that are still free.
Each stage is described by what it leaves under one property name, so a fact
about a property never has to look at the other properties.
-/

set_option autoImplicit false

namespace Introspection

namespace Namer

theorem parameters_of_classify_getter {namer : Namer} {method : Method} {property : String}
    (classified : namer.classify method = some (.getter, property)) : method.parameters = [] := by
  unfold classify at classified
  split at classified
  · assumption
  · split at classified <;> cases classified
  · cases classified

theorem parameters_of_classify_setter {namer : Namer} {method : Method} {property : String}
    (classified : namer.classify method = some (.setter, property)) :
    ∃ parameter, method.parameters = [parameter] := by
  unfold classify at classified
  split at classified
  · split at classified <;> cases classified
  · exact ⟨_, by assumption⟩
  · cases classified

theorem classify_congr (namer : Namer) {method other : Method} (sameName : method.name = other.name)
    (sameArity : method.parameters.length = other.parameters.length) :
    namer.classify method = namer.classify other := by
  unfold classify
  rw [sameName]
  generalize method.parameters = parameters at sameArity ⊢
  generalize other.parameters = others at sameArity ⊢
  match parameters, others, sameArity with
  | [], [], _ | [_], [_], _ | _ :: _ :: _, _ :: _ :: _, _ => rfl

/-- The role of a method can be seen from its signature. -/
theorem classify_ofHeader_signature (namer : Namer) (owner : TypeDecl) (method : Method) :
    namer.classify (.ofHeader (Signature.ofMethod owner method).name
      (Signature.ofMethod owner method).parameters (Signature.ofMethod owner method).returns) =
        namer.classify method := by
  apply namer.classify_congr
  · rfl
  · exact List.length_map _

/-- Methods of one signature play the same role for the same property. -/
theorem classify_eq_of_signature (namer : Namer) {owner keeper : TypeDecl} {method kept : Method}
    (same : Signature.ofMethod keeper kept = Signature.ofMethod owner method) :
    namer.classify kept = namer.classify method := by
  rw [← namer.classify_ofHeader_signature keeper kept, same, classify_ofHeader_signature]

end Namer

namespace PropertyTable

theorem require_eq_ok_iff {α : Type} {table : PropertyTable} {side : Side}
    {entries : OrderedMap String α} {property : String} {found : α} :
    table.require side entries property = .ok found ↔ entries.get? property = some found := by
  unfold require
  cases entries.get? property <;> simp

theorem require_congr {α : Type} {table other : PropertyTable}
    (named : other.typeName = table.typeName) (side : Side) {entries changed : OrderedMap String α}
    {property : String} (same : changed.get? property = entries.get? property) :
    other.require side changed property = table.require side entries property := by
  rw [require, require, same, named]

end PropertyTable

namespace TableBuilder

theorem propertyOf?_eq_some_iff (builder : TableBuilder) (side : Side) (method : Method)
    (property : String) :
    builder.propertyOf? side method = some property ↔
      builder.namer.classify method = some (side, property) ∧ isPropertyName property = true := by
  unfold propertyOf?
  cases classified : builder.namer.classify method with
  | none => simp
  | some found =>
      rcases found with ⟨role, derived⟩
      simp only [Option.ite_none_right_eq_some, Option.some.injEq, Prod.mk.injEq]
      constructor
      · rintro ⟨⟨rfl, valid⟩, rfl⟩
        exact ⟨⟨rfl, rfl⟩, valid⟩
      · rintro ⟨⟨rfl, rfl⟩, valid⟩
        exact ⟨⟨rfl, valid⟩, rfl⟩

def candidatesOf (builder : TableBuilder) (side : Side) (property : String)
    (methods : List Method) : List Method :=
  methods.filter fun method => decide (builder.propertyOf? side method = some property)

theorem mem_candidatesOf_iff (builder : TableBuilder) (side : Side) (property : String)
    (methods : List Method) (method : Method) :
    method ∈ builder.candidatesOf side property methods ↔
      method ∈ methods ∧ builder.namer.classify method = some (side, property) ∧
        isPropertyName property = true := by
  rw [candidatesOf, List.mem_filter, decide_eq_true_iff, propertyOf?_eq_some_iff]

theorem valuesAt_propertyOf? (builder : TableBuilder) (side : Side) (property : String)
    (methods : List Method) :
    OrderedMap.valuesAt property (methods.filterMap fun method =>
        (builder.propertyOf? side method).map fun found => (found, method)) =
      builder.candidatesOf side property methods := by
  induction methods with
  | nil => rfl
  | cons method rest ih =>
      cases found : builder.propertyOf? side method with
      | none => simp [candidatesOf, found] at ih ⊢; exact ih
      | some derived =>
          by_cases same : derived = property
          · simp [candidatesOf, found, OrderedMap.valuesAt_cons, same] at ih ⊢; exact ih
          · simp [candidatesOf, found, OrderedMap.valuesAt_cons, same] at ih ⊢; exact ih

theorem get?_candidates (builder : TableBuilder) (side : Side) (property : String)
    (methods : List Method) :
    (builder.candidates side methods).get? property =
      if builder.candidatesOf side property methods = [] then none
      else some (builder.candidatesOf side property methods) := by
  rw [candidates, OrderedMap.get?_groups, valuesAt_propertyOf?]

theorem keys_candidates (builder : TableBuilder) (side : Side) (methods : List Method) :
    (builder.candidates side methods).keys =
      (methods.filterMap (builder.propertyOf? side)).eraseDups := by
  rw [candidates, OrderedMap.keys_groups, List.map_filterMap]
  congr 2
  funext method
  cases builder.propertyOf? side method <;> rfl

theorem resolve_eq_ok_iff (builder : TableBuilder) (context : TypeDecl) (declaring : String)
    (declared type : TypeExpr) :
    builder.resolve context declaring declared = .ok type ↔
      ∃ decl, builder.registry.lookup? declaring = some decl ∧
        builder.resolver builder.registry declared decl context = type := by
  rw [resolve, Fallible.map_eq_ok_iff]
  simp only [Registry.require_eq_ok_iff]

/-! ## Properties of methods -/

/-- A pass over the candidates leaves under each property what was chosen for the
candidates of that property. -/
theorem get?_of_candidates {builder : TableBuilder} {side : Side} {methods : List Method}
    {choose : String × List Method → Except MetadataError (Option Property)}
    {result : OrderedMap String Property} (idle : ∀ property, choose (property, []) = .ok none)
    (ran : (builder.candidates side methods).entries.foldlM (OrderedMap.fill choose) .empty =
      .ok result) (property : String) :
    choose (property, builder.candidatesOf side property methods) = .ok (result.get? property) := by
  have held := OrderedMap.get?_foldlM_fill (builder.candidates side methods).distinct ran property
  have group := get?_candidates builder side property methods
  rw [OrderedMap.get?] at group
  by_cases empty : builder.candidatesOf side property methods = []
  · rw [group, if_pos empty] at held
    rw [empty, idle, held, OrderedMap.get?_empty]
  · rw [group, if_neg empty] at held
    obtain ⟨chosen, accepted, stored⟩ := held
    rw [accepted, stored, OrderedMap.get?_empty, Option.or_none]

/-- A pass that settles on an accessor wherever there are candidates leaves the properties
in the order of their first candidates. -/
theorem keys_of_candidates {builder : TableBuilder} {side : Side} {methods : List Method}
    {choose : String × List Method → Except MetadataError (Option Property)}
    {result : OrderedMap String Property}
    (decided : ∀ property, choose (property, builder.candidatesOf side property methods) =
      .ok none → builder.candidatesOf side property methods = [])
    (ran : (builder.candidates side methods).entries.foldlM (OrderedMap.fill choose) .empty =
      .ok result) :
    result.keys = (methods.filterMap (builder.propertyOf? side)).eraseDups := by
  have offers : ∀ entry ∈ (builder.candidates side methods).entries, ∀ map next,
      OrderedMap.fill choose map entry = .ok next → OrderedMap.Offers entry.1 map next := by
    intro entry inside map next stepped
    obtain ⟨chosen, accepted, rfl⟩ := Fallible.map_eq_ok_iff.mp stepped
    cases chosen with
    | some value => exact OrderedMap.offers_insert map entry.1 value
    | none =>
        have group := (OrderedMap.get?_eq_some_iff _ _ _).mpr inside
        rw [get?_candidates] at group
        obtain ⟨occupied, same⟩ := Option.ite_none_left_eq_some.mp group
        have empty := decided entry.1 (by rw [Option.some.inj same]; exact accepted)
        exact absurd empty occupied
  have started : (OrderedMap.empty : OrderedMap String Property).keys =
      ([] : List String).eraseDups := rfl
  have listed := OrderedMap.keys_foldlM offers started ran
  have own := (builder.candidates side methods).eraseDups_keys
  rw [List.nil_append] at listed
  rw [listed, ← keys_candidates, ← own]
  rfl

section MethodProperties

variable {builder : TableBuilder} {context : TypeDecl} {methods : List Method}
  {getters setters : OrderedMap String Property} {property : String} {entry : Property}

theorem chosenGetter_eq_some {candidates : List Method}
    (chosen : builder.chosenGetter context (property, candidates) = .ok (some entry)) :
    ∃ winner type, builder.registry.chooseGetter property candidates = .ok (some winner) ∧
      builder.resolve context winner.declaring winner.returns = .ok type ∧
      entry = ⟨.getter winner, type⟩ := by
  obtain ⟨choice, made, chosen⟩ := Fallible.bind_eq_ok_iff.mp chosen
  cases choice with
  | none => cases chosen
  | some winner =>
      obtain ⟨type, resolved, chosen⟩ := Fallible.bind_eq_ok_iff.mp chosen
      cases chosen
      exact ⟨winner, type, made, resolved, rfl⟩

theorem chosenGetter_eq_none {candidates : List Method}
    (chosen : builder.chosenGetter context (property, candidates) = .ok none) :
    candidates = [] := by
  obtain ⟨choice, made, chosen⟩ := Fallible.bind_eq_ok_iff.mp chosen
  cases choice with
  | none => exact Registry.chooseGetter_eq_none_iff.mp made
  | some winner =>
      obtain ⟨type, _, chosen⟩ := Fallible.bind_eq_ok_iff.mp chosen
      cases chosen

theorem get?_methodGetters (ran : builder.methodGetters context methods = .ok getters)
    (property : String) :
    builder.chosenGetter context (property, builder.candidatesOf .getter property methods) =
      .ok (getters.get? property) :=
  get?_of_candidates (fun _ => rfl) ran property

/-- A getter that methods give is chosen among the candidates of its property, and its
type is the resolved return type. -/
theorem getter_of_get?_methodGetters (ran : builder.methodGetters context methods = .ok getters)
    (found : getters.get? property = some entry) :
    ∃ winner type,
      builder.registry.chooseGetter property (builder.candidatesOf .getter property methods) =
        .ok (some winner) ∧
      builder.resolve context winner.declaring winner.returns = .ok type ∧
      entry = ⟨.getter winner, type⟩ := by
  have held := get?_methodGetters ran property
  rw [found] at held
  exact chosenGetter_eq_some held

theorem get?_methodGetters_eq_none_iff
    (ran : builder.methodGetters context methods = .ok getters) (property : String) :
    getters.get? property = none ↔ builder.candidatesOf .getter property methods = [] := by
  have held := get?_methodGetters ran property
  constructor
  · intro missing
    rw [missing] at held
    exact chosenGetter_eq_none held
  · intro empty
    rw [empty] at held
    exact (Except.ok.inj held).symm

theorem keys_methodGetters (ran : builder.methodGetters context methods = .ok getters) :
    getters.keys = (methods.filterMap (builder.propertyOf? .getter)).eraseDups :=
  keys_of_candidates (fun _ chosen => chosenGetter_eq_none chosen) ran

theorem chosenSetter_eq_some {candidates : List Method}
    (chosen : builder.chosenSetter context getters (property, candidates) = .ok (some entry)) :
    ∃ winner parameter type,
      builder.registry.chooseSetter property candidates
        ((getters.get? property).map Property.type) = .ok (some winner) ∧
      winner.parameters.head? = some parameter ∧
      builder.resolve context winner.declaring parameter = .ok type ∧
      entry = ⟨.setter winner, type⟩ := by
  obtain ⟨choice, made, chosen⟩ := Fallible.bind_eq_ok_iff.mp chosen
  cases choice with
  | none => cases chosen
  | some winner =>
      cases first : winner.parameters.head? with
      | none =>
          simp only [first] at chosen
          cases chosen
      | some parameter =>
          simp only [first] at chosen
          obtain ⟨type, resolved, chosen⟩ := Fallible.bind_eq_ok_iff.mp chosen
          cases chosen
          exact ⟨winner, parameter, type, made, first, resolved, rfl⟩

theorem chosenSetter_eq_none
    (chosen : builder.chosenSetter context getters
      (property, builder.candidatesOf .setter property methods) = .ok none) :
    builder.candidatesOf .setter property methods = [] := by
  obtain ⟨choice, made, chosen⟩ := Fallible.bind_eq_ok_iff.mp chosen
  cases choice with
  | none => exact Registry.chooseSetter_eq_none_iff.mp made
  | some winner =>
      obtain ⟨_, classified, _⟩ :=
        (mem_candidatesOf_iff _ _ _ _ _).mp (Registry.mem_of_chooseSetter made)
      obtain ⟨only, single⟩ := Namer.parameters_of_classify_setter classified
      simp only [single, List.head?_cons] at chosen
      obtain ⟨type, _, chosen⟩ := Fallible.bind_eq_ok_iff.mp chosen
      cases chosen

theorem keys_methodSetters (ran : builder.methodSetters context getters methods = .ok setters) :
    setters.keys = (methods.filterMap (builder.propertyOf? .setter)).eraseDups :=
  keys_of_candidates (fun _ chosen => chosenSetter_eq_none chosen) ran

theorem get?_methodSetters (ran : builder.methodSetters context getters methods = .ok setters)
    (property : String) :
    builder.chosenSetter context getters
        (property, builder.candidatesOf .setter property methods) =
      .ok (setters.get? property) :=
  get?_of_candidates (fun _ => rfl) ran property

/-- A setter that methods give is chosen among the candidates of its property, with an
eye on the getter's type, and its type is the resolved parameter type. -/
theorem setter_of_get?_methodSetters
    (ran : builder.methodSetters context getters methods = .ok setters)
    (found : setters.get? property = some entry) :
    ∃ winner parameter type,
      builder.registry.chooseSetter property (builder.candidatesOf .setter property methods)
        ((getters.get? property).map Property.type) = .ok (some winner) ∧
      winner.parameters = [parameter] ∧
      builder.resolve context winner.declaring parameter = .ok type ∧
      entry = ⟨.setter winner, type⟩ := by
  have held := get?_methodSetters ran property
  rw [found] at held
  obtain ⟨winner, parameter, type, chosen, first, resolved, same⟩ :=
    chosenSetter_eq_some held
  obtain ⟨_, classified, _⟩ :=
    (mem_candidatesOf_iff _ _ _ _ _).mp (Registry.mem_of_chooseSetter chosen)
  obtain ⟨only, single⟩ := Namer.parameters_of_classify_setter classified
  rw [single, List.head?_cons, Option.some.injEq] at first
  exact ⟨winner, parameter, type, chosen, first ▸ single, resolved, same⟩

theorem get?_methodSetters_eq_none_iff
    (ran : builder.methodSetters context getters methods = .ok setters) (property : String) :
    setters.get? property = none ↔ builder.candidatesOf .setter property methods = [] := by
  have held := get?_methodSetters ran property
  constructor
  · intro missing
    rw [missing] at held
    exact chosenSetter_eq_none held
  · intro empty
    rw [empty] at held
    exact (Except.ok.inj held).symm

end MethodProperties

/-! ## Properties of fields -/

/-- Among the fields of one name only the first counts, and only where the name was free. -/
theorem get?_withFields (builder : TableBuilder) (context : TypeDecl) (accessor : Field → Accessor)
    (found : OrderedMap String Property) (fields : List (TypeDecl × Field)) (property : String) :
    (builder.withFields context accessor found fields).get? property =
      (found.get? property).or ((fields.find? fun entry => entry.2.name == property).map
        (builder.fieldProperty context accessor)) := by
  have asPairs : builder.withFields context accessor found fields =
      (fields.map fun entry => (entry.2.name, builder.fieldProperty context accessor entry)).foldl
        (fun map pair => map.insertIfNew pair.1 pair.2) found := by
    rw [List.foldl_map]
    rfl
  rw [asPairs, OrderedMap.get?_foldl_insertIfNew, OrderedMap.assoc?_map]

theorem keys_withFields (builder : TableBuilder) (context : TypeDecl)
    (accessor : Field → Accessor) {found : OrderedMap String Property} {offered : List String}
    (known : found.keys = offered.eraseDups) (fields : List (TypeDecl × Field)) :
    (builder.withFields context accessor found fields).keys =
      (offered ++ fields.map fun entry => entry.2.name).eraseDups :=
  OrderedMap.keys_foldl (fun map _ => map.offers_insertIfNew _ _) fields known

def nearestField? (chain : List TypeDecl) (wanted : Field → Bool) : Option (TypeDecl × Field) :=
  chain.findSome? fun decl => (decl.fields.find? wanted).map fun field => (decl, field)

theorem nearestField?_eq_some {chain : List TypeDecl} {wanted : Field → Bool}
    {entry : TypeDecl × Field} (found : nearestField? chain wanted = some entry) :
    entry.1 ∈ chain ∧ entry.2 ∈ entry.1.fields ∧ wanted entry.2 = true := by
  obtain ⟨decl, inside, found⟩ := List.exists_of_findSome?_eq_some found
  obtain ⟨field, declared, rfl⟩ := Option.map_eq_some_iff.mp found
  exact ⟨inside, List.mem_of_find?_eq_some declared, List.find?_some declared⟩

theorem nearestField?_eq_none_iff (chain : List TypeDecl) (wanted : Field → Bool) :
    nearestField? chain wanted = none ↔
      ∀ decl ∈ chain, ∀ field ∈ decl.fields, wanted field = false := by
  simp [nearestField?, List.findSome?_eq_none_iff, List.find?_eq_none]

theorem find?_propertyFields (chain : List TypeDecl) (wanted : Field → Bool) :
    (propertyFields chain).find? (fun entry => wanted entry.2) =
      nearestField? chain fun field => isPropertyName field.name && wanted field := by
  rw [propertyFields, List.find?_flatMap, nearestField?]
  congr 1
  funext decl
  rw [List.find?_map, List.find?_filter]
  simp [Bool.decide_and]

def readField? (chain : List TypeDecl) (property : String) : Option (TypeDecl × Field) :=
  nearestField? chain fun field => field.name == property

def writeField? (chain : List TypeDecl) (property : String) : Option (TypeDecl × Field) :=
  nearestField? chain fun field => field.name == property && !field.isConstant

theorem nearestField?_of_name (chain : List TypeDecl) (property : String)
    (admits : Field → Bool) :
    nearestField? chain (fun field =>
        isPropertyName field.name && (field.name == property && admits field)) =
      if isPropertyName property then
        nearestField? chain fun field => field.name == property && admits field
      else none := by
  have test : ∀ field : Field,
      (isPropertyName field.name && (field.name == property && admits field)) =
        (isPropertyName property && (field.name == property && admits field)) := by
    intro field
    cases same : field.name == property with
    | true => rw [eq_of_beq same]
    | false => simp
  simp only [test]
  cases isPropertyName property with
  | true => simp
  | false =>
      rw [if_neg (by simp), nearestField?_eq_none_iff]
      simp

theorem find?_propertyFields_named (chain : List TypeDecl) (property : String) :
    (propertyFields chain).find? (fun entry => entry.2.name == property) =
      if isPropertyName property then readField? chain property else none := by
  have guarded := nearestField?_of_name chain property fun _ => true
  rw [find?_propertyFields chain fun field => field.name == property]
  simpa only [Bool.and_true, readField?] using guarded

theorem find?_writable_propertyFields_named (chain : List TypeDecl) (property : String) :
    ((propertyFields chain).filter fun entry => !entry.2.isConstant).find?
        (fun entry => entry.2.name == property) =
      if isPropertyName property then writeField? chain property else none := by
  have swapped : (fun entry : TypeDecl × Field =>
        decide ((!entry.2.isConstant) = true ∧ (entry.2.name == property) = true)) =
      fun entry => entry.2.name == property && !entry.2.isConstant := by
    funext entry
    rw [Bool.decide_and, Bool.decide_eq_true, Bool.decide_eq_true, Bool.and_comm]
  rw [List.find?_filter, swapped,
    find?_propertyFields chain fun field => field.name == property && !field.isConstant,
    nearestField?_of_name, writeField?]

/-! ## A whole build -/

/-- What a successful build found on its way to the table. -/
structure Stages (builder : TableBuilder) (name : String) (table : PropertyTable) where
  decl : TypeDecl
  chain : List TypeDecl
  methods : List Method
  /-- The getters and setters before fields are added. -/
  getters : OrderedMap String Property
  setters : OrderedMap String Property
  registered : builder.registry.lookup? name = some decl
  walked : builder.registry.hierarchy name = .ok chain
  collected : builder.registry.methodsAlong chain = .ok methods
  read : builder.methodGetters decl methods = .ok getters
  written : builder.methodSetters decl getters methods = .ok setters
  /-- The getters and setters together with the fields. -/
  paired : Paired
  completed : paired =
    ⟨builder.withFields decl .reads getters (propertyFields chain),
      builder.withFields decl .writes setters
        ((propertyFields chain).filter fun entry => !entry.2.isConstant)⟩
  result : table = .ofProperties decl builder.access paired.split

theorem nonempty_stages {builder : TableBuilder} {name : String} {table : PropertyTable}
    (built : builder.build name = .ok table) : Nonempty (Stages builder name table) := by
  obtain ⟨decl, required, built⟩ := Fallible.bind_eq_ok_iff.mp built
  obtain ⟨chain, walked, built⟩ := Fallible.bind_eq_ok_iff.mp built
  obtain ⟨methods, collected, built⟩ := Fallible.bind_eq_ok_iff.mp built
  rw [builder.assemble_split decl (fun _ => Registry.lookup?_of_mem_hierarchy walked)] at built
  obtain ⟨getters, read, built⟩ := Fallible.bind_eq_ok_iff.mp built
  obtain ⟨setters, written, built⟩ := Fallible.bind_eq_ok_iff.mp built
  exact ⟨⟨decl, chain, methods, getters, setters, Registry.require_eq_ok_iff.mp required, walked,
    collected, read, written, _, rfl, (Fallible.pure_eq_ok_iff.mp built).symm⟩⟩

namespace Stages

variable {builder : TableBuilder} {name : String} {table : PropertyTable}

theorem access_eq (stages : Stages builder name table) : table.access = builder.access :=
  congrArg PropertyTable.access stages.result

theorem decl_eq (stages : Stages builder name table) : table.decl = stages.decl :=
  congrArg PropertyTable.decl stages.result

theorem methods_eq (stages : Stages builder name table) :
    builder.registry.methods name = .ok stages.methods := by
  rw [Registry.methods_eq_methodsAlong stages.walked, stages.collected]

theorem get?_getters (stages : Stages builder name table) (property : String) :
    stages.paired.getters.get? property =
      (stages.getters.get? property).or
        ((if isPropertyName property then readField? stages.chain property else none).map
          (builder.fieldProperty stages.decl .reads)) := by
  rw [← find?_propertyFields_named, ← get?_withFields]
  exact congrArg (fun made => made.getters.get? property) stages.completed

theorem get?_setters (stages : Stages builder name table) (property : String) :
    stages.paired.setters.get? property =
      (stages.setters.get? property).or
        ((if isPropertyName property then writeField? stages.chain property else none).map
          (builder.fieldProperty stages.decl .writes)) := by
  rw [← find?_writable_propertyFields_named, ← get?_withFields]
  exact congrArg (fun made => made.setters.get? property) stages.completed

/-- Behind a getter stands the method chosen among its candidates or, where there is no
candidate, the nearest field of the name. -/
theorem getter_cases (stages : Stages builder name table) {property : String} {entry : Property}
    (found : stages.paired.getters.get? property = some entry) :
    isPropertyName property = true ∧
      ((∃ winner type,
          builder.registry.chooseGetter property
            (builder.candidatesOf .getter property stages.methods) = .ok (some winner) ∧
          builder.resolve stages.decl winner.declaring winner.returns = .ok type ∧
          entry = ⟨.getter winner, type⟩) ∨
        (builder.candidatesOf .getter property stages.methods = [] ∧
          ∃ source, readField? stages.chain property = some source ∧
            entry = builder.fieldProperty stages.decl .reads source)) := by
  rw [stages.get?_getters] at found
  cases ofMethod : stages.getters.get? property with
  | some chosen =>
      rw [ofMethod, Option.some_or] at found
      cases found
      obtain ⟨winner, type, selected, resolved, rfl⟩ :=
        getter_of_get?_methodGetters stages.read ofMethod
      obtain ⟨_, _, valid⟩ :=
        (mem_candidatesOf_iff _ _ _ _ _).mp (Registry.mem_of_chooseGetter selected)
      exact ⟨valid, .inl ⟨winner, type, selected, resolved, rfl⟩⟩
  | none =>
      rw [ofMethod, Option.none_or, Option.map_eq_some_iff] at found
      obtain ⟨source, nearest, rfl⟩ := found
      obtain ⟨valid, nearest⟩ := Option.ite_none_right_eq_some.mp nearest
      exact ⟨valid, .inr ⟨(get?_methodGetters_eq_none_iff stages.read property).mp ofMethod,
        source, nearest, rfl⟩⟩

/-- Behind a setter stands the method chosen among its candidates or, where there is no
candidate, the nearest field of the name that is not constant. -/
theorem setter_cases (stages : Stages builder name table) {property : String} {entry : Property}
    (found : stages.paired.setters.get? property = some entry) :
    isPropertyName property = true ∧
      ((∃ winner parameter type,
          builder.registry.chooseSetter property
            (builder.candidatesOf .setter property stages.methods)
            ((stages.getters.get? property).map Property.type) = .ok (some winner) ∧
          winner.parameters = [parameter] ∧
          builder.resolve stages.decl winner.declaring parameter = .ok type ∧
          entry = ⟨.setter winner, type⟩) ∨
        (builder.candidatesOf .setter property stages.methods = [] ∧
          ∃ source, writeField? stages.chain property = some source ∧
            entry = builder.fieldProperty stages.decl .writes source)) := by
  rw [stages.get?_setters] at found
  cases ofMethod : stages.setters.get? property with
  | some chosen =>
      rw [ofMethod, Option.some_or] at found
      cases found
      obtain ⟨winner, parameter, type, selected, single, resolved, rfl⟩ :=
        setter_of_get?_methodSetters stages.written ofMethod
      obtain ⟨_, _, valid⟩ :=
        (mem_candidatesOf_iff _ _ _ _ _).mp (Registry.mem_of_chooseSetter selected)
      exact ⟨valid, .inl ⟨winner, parameter, type, selected, single, resolved, rfl⟩⟩
  | none =>
      rw [ofMethod, Option.none_or, Option.map_eq_some_iff] at found
      obtain ⟨source, nearest, rfl⟩ := found
      obtain ⟨valid, nearest⟩ := Option.ite_none_right_eq_some.mp nearest
      exact ⟨valid, .inr ⟨(get?_methodSetters_eq_none_iff stages.written property).mp ofMethod,
        source, nearest, rfl⟩⟩

/-- Where methods read the property, the table has the one that is chosen among them. -/
theorem exists_getter_of_candidates (stages : Stages builder name table) {property : String}
    (covered : builder.candidatesOf .getter property stages.methods ≠ []) :
    ∃ winner type, builder.registry.chooseGetter property
        (builder.candidatesOf .getter property stages.methods) = .ok (some winner) ∧
      builder.resolve stages.decl winner.declaring winner.returns = .ok type ∧
      stages.paired.getters.get? property = some ⟨.getter winner, type⟩ := by
  have chosen : stages.getters.get? property ≠ none :=
    fun missing => covered ((get?_methodGetters_eq_none_iff stages.read property).mp missing)
  obtain ⟨entry, found⟩ := Option.ne_none_iff_exists'.mp chosen
  obtain ⟨winner, type, selected, resolved, rfl⟩ := getter_of_get?_methodGetters stages.read found
  have stored := stages.get?_getters property
  rw [found, Option.some_or] at stored
  exact ⟨winner, type, selected, resolved, stored⟩

/-- Where methods set the property, the table has the one that is chosen among them. -/
theorem exists_setter_of_candidates (stages : Stages builder name table) {property : String}
    (covered : builder.candidatesOf .setter property stages.methods ≠ []) :
    ∃ winner parameter type, builder.registry.chooseSetter property
        (builder.candidatesOf .setter property stages.methods)
        ((stages.getters.get? property).map Property.type) = .ok (some winner) ∧
      winner.parameters = [parameter] ∧
      builder.resolve stages.decl winner.declaring parameter = .ok type ∧
      stages.paired.setters.get? property = some ⟨.setter winner, type⟩ := by
  have chosen : stages.setters.get? property ≠ none :=
    fun missing => covered ((get?_methodSetters_eq_none_iff stages.written property).mp missing)
  obtain ⟨entry, found⟩ := Option.ne_none_iff_exists'.mp chosen
  obtain ⟨winner, parameter, type, selected, single, resolved, rfl⟩ :=
    setter_of_get?_methodSetters stages.written found
  have stored := stages.get?_setters property
  rw [found, Option.some_or] at stored
  exact ⟨winner, parameter, type, selected, single, resolved, stored⟩

theorem keys_getters (stages : Stages builder name table) :
    stages.paired.getters.keys = (stages.methods.filterMap (builder.propertyOf? .getter) ++
      (propertyFields stages.chain).map fun entry => entry.2.name).eraseDups := by
  rw [← keys_withFields builder stages.decl .reads (keys_methodGetters stages.read)]
  exact congrArg (fun made => made.getters.keys) stages.completed

theorem keys_setters (stages : Stages builder name table) :
    stages.paired.setters.keys = (stages.methods.filterMap (builder.propertyOf? .setter) ++
      ((propertyFields stages.chain).filter fun entry => !entry.2.isConstant).map
        fun entry => entry.2.name).eraseDups := by
  rw [← keys_withFields builder stages.decl .writes (keys_methodSetters stages.written)]
  exact congrArg (fun made => made.setters.keys) stages.completed

/-! ### The table -/

theorem split_eq (stages : Stages builder name table) :
    table.toProperties = stages.paired.split :=
  congrArg PropertyTable.toProperties stages.result

theorem table_getters_get? (stages : Stages builder name table) (property : String) :
    table.getters.get? property = (stages.paired.getters.get? property).map Property.accessor := by
  rw [stages.split_eq, Paired.split, OrderedMap.get?_mapValues]

theorem table_getterTypes_get? (stages : Stages builder name table) (property : String) :
    table.getterTypes.get? property = (stages.paired.getters.get? property).map Property.type := by
  rw [stages.split_eq, Paired.split, OrderedMap.get?_mapValues]

theorem table_setters_get? (stages : Stages builder name table) (property : String) :
    table.setters.get? property = (stages.paired.setters.get? property).map Property.accessor := by
  rw [stages.split_eq, Paired.split, OrderedMap.get?_mapValues]

theorem table_setterTypes_get? (stages : Stages builder name table) (property : String) :
    table.setterTypes.get? property = (stages.paired.setters.get? property).map Property.type := by
  rw [stages.split_eq, Paired.split, OrderedMap.get?_mapValues]

theorem getter_eq_ok_iff (stages : Stages builder name table) {property : String}
    {accessor : Accessor} :
    table.getter property = .ok accessor ↔
      ∃ entry, stages.paired.getters.get? property = some entry ∧ entry.accessor = accessor := by
  rw [PropertyTable.getter, PropertyTable.require_eq_ok_iff, stages.table_getters_get?,
    Option.map_eq_some_iff]

theorem getterType_eq_ok_iff (stages : Stages builder name table) {property : String}
    {type : TypeExpr} :
    table.getterType property = .ok type ↔
      ∃ entry, stages.paired.getters.get? property = some entry ∧ entry.type = type := by
  rw [PropertyTable.getterType, PropertyTable.require_eq_ok_iff, stages.table_getterTypes_get?,
    Option.map_eq_some_iff]

theorem setter_eq_ok_iff (stages : Stages builder name table) {property : String}
    {accessor : Accessor} :
    table.setter property = .ok accessor ↔
      ∃ entry, stages.paired.setters.get? property = some entry ∧ entry.accessor = accessor := by
  rw [PropertyTable.setter, PropertyTable.require_eq_ok_iff, stages.table_setters_get?,
    Option.map_eq_some_iff]

theorem setterType_eq_ok_iff (stages : Stages builder name table) {property : String}
    {type : TypeExpr} :
    table.setterType property = .ok type ↔
      ∃ entry, stages.paired.setters.get? property = some entry ∧ entry.type = type := by
  rw [PropertyTable.setterType, PropertyTable.require_eq_ok_iff, stages.table_setterTypes_get?,
    Option.map_eq_some_iff]

theorem mem_readable_iff (stages : Stages builder name table) {property : String} :
    property ∈ table.readable ↔
      ∃ entry, stages.paired.getters.get? property = some entry := by
  have shown : table.readable = (stages.paired.getters.mapValues Property.accessor).keys :=
    congrArg (·.readable) stages.result
  rw [shown, OrderedMap.keys_mapValues, OrderedMap.mem_keys_iff]

theorem mem_writable_iff (stages : Stages builder name table) {property : String} :
    property ∈ table.writable ↔
      ∃ entry, stages.paired.setters.get? property = some entry := by
  have shown : table.writable = (stages.paired.setters.mapValues Property.accessor).keys :=
    congrArg (·.writable) stages.result
  rw [shown, OrderedMap.keys_mapValues, OrderedMap.mem_keys_iff]

theorem readable_eq (stages : Stages builder name table) :
    table.readable = (stages.methods.filterMap (builder.propertyOf? .getter) ++
      (propertyFields stages.chain).map fun entry => entry.2.name).eraseDups := by
  rw [← stages.keys_getters, ← OrderedMap.keys_mapValues Property.accessor]
  exact congrArg PropertyTable.readable stages.result

theorem writable_eq (stages : Stages builder name table) :
    table.writable = (stages.methods.filterMap (builder.propertyOf? .setter) ++
      ((propertyFields stages.chain).filter fun entry => !entry.2.isConstant).map
        fun entry => entry.2.name).eraseDups := by
  rw [← stages.keys_setters, ← OrderedMap.keys_mapValues Property.accessor]
  exact congrArg PropertyTable.writable stages.result

end Stages

end TableBuilder

end Introspection
