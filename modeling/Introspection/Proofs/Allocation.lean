import Introspection.Proofs.FailedAccess

/-!
# What a new object holds

The slots of a new object are put one after another, those of the outermost class first, so the last
one put under a name is the one that counts (`get?_newInstance`). Read from the other end, that is
the field declared nearest to the class, and the last one of its name there (`NearestInstanceField`):
`freshObject_of_allocate` says that this is what an allocation sets up, and nothing else.
-/

set_option autoImplicit false

namespace Introspection

/-- Of the fields of its name that the declaration keeps with each instance, the field is the last
one written. -/
def TypeDecl.LastInstanceField (decl : TypeDecl) (field : Field) : Prop :=
  ∃ before later, decl.fields = before ++ field :: later ∧ field.isStatic = false ∧
    ∀ other ∈ later, other.name = field.name → other.isStatic = true

/-- No class further down the chain keeps a field of the name with each instance, and in its own
class the field is the last one that does. -/
def NearestInstanceField (chain : List TypeDecl) (field : Field) : Prop :=
  ∃ front decl rest, chain = front ++ decl :: rest ∧ decl.LastInstanceField field ∧
    ∀ lower ∈ front, ∀ other ∈ lower.fields, other.name = field.name → other.isStatic = true

/-! ## The last slot of a name -/

def lastValue? (slots : List (String × Value)) (name : String) : Option Value :=
  (slots.reverse.find? (fun slot => slot.1 == name)).map Prod.snd

theorem lastValue?_cons (slot : String × Value) (slots : List (String × Value)) (name : String) :
    lastValue? (slot :: slots) name =
      (lastValue? slots name).or (if slot.1 = name then some slot.2 else none) := by
  unfold lastValue?
  rw [List.reverse_cons, List.find?_append, Option.map_or, List.find?_singleton]
  by_cases same : slot.1 = name <;> simp [same]

namespace Store

theorem get?_putSlots (store : Store) (object : ObjectRef)
    (born : object.number < store.nextNumber) (slots : List (String × Value)) (name : String) :
    (store.putSlots object slots).get? (.slot object name) =
      (lastValue? slots name).or (store.get? (.slot object name)) := by
  induction slots generalizing store with
  | nil => rfl
  | cons slot rest ih =>
      have bornStill : object.number < (store.put (.slot object slot.1) slot.2).nextNumber := by
        rw [nextNumber_put]
        exact born
      have put : (store.put (.slot object slot.1) slot.2).get? (.slot object name) =
          (if slot.1 = name then some slot.2 else none).or (store.get? (.slot object name)) := by
        rw [get?_put]
        by_cases same : slot.1 = name <;> simp [same, Location.isBornBefore, born]
      show ((store.put (.slot object slot.1) slot.2).putSlots object rest).get? _ = _
      rw [ih _ bornStill, put, lastValue?_cons, Option.or_assoc]

/-- Nothing but the slots that are put makes up a new object. -/
theorem get?_newInstance (store : Store) (typeName : String) (slots : List (String × Value))
    (name : String) :
    (store.newInstance typeName slots).2.get?
      (.slot (store.newInstance typeName slots).1 name) = lastValue? slots name := by
  have unborn : (store.newObject typeName).2.get?
      (.slot (store.newObject typeName).1 name) = none :=
    store.get?_eq_none_of_unborn _ name (Nat.le_refl _)
  have put := (store.newObject typeName).2.get?_putSlots (store.newObject typeName).1
    (Nat.lt_succ_self _) slots name
  rw [unborn, Option.or_none] at put
  exact put

end Store

/-! ## The nearest field of a name -/

def nearestInstanceField? (chain : List TypeDecl) (name : String) : Option Field :=
  chain.findSome? fun decl => decl.instanceFields.reverse.find? fun field => field.name == name

theorem lastValue?_freshSlots (chain : List TypeDecl) (name : String) :
    lastValue? (Registry.freshSlots chain) name =
      (nearestInstanceField? chain name).map Field.initialValue := by
  unfold lastValue? Registry.freshSlots nearestInstanceField?
  rw [List.reverse_flatMap, List.reverse_reverse, List.find?_flatMap, List.map_findSome?,
    List.map_findSome?]
  congr 1
  funext decl
  simp only [Function.comp_apply, ← List.map_reverse, List.find?_map, Option.map_map]
  rfl

theorem TypeDecl.find?_instanceFields_eq_some_iff {decl : TypeDecl} {name : String}
    {field : Field} :
    decl.instanceFields.reverse.find? (fun field => field.name == name) = some field ↔
      decl.LastInstanceField field ∧ field.name = name := by
  unfold TypeDecl.instanceFields LastInstanceField
  rw [← List.filter_reverse, List.find?_filter, List.find?_eq_some_iff_append]
  simp only [Bool.not_eq_true', beq_iff_eq, decide_eq_true_eq, decide_eq_false_iff_not]
  constructor
  · rintro ⟨⟨ofInstances, same⟩, later, before, written, others⟩
    refine ⟨⟨before.reverse, later.reverse, by simpa using congrArg List.reverse written,
      ofInstances, ?_⟩, same⟩
    intro other inside sameName
    have skipped := others other (List.mem_reverse.mp inside)
    rw [sameName, same] at skipped
    simpa using skipped
  · rintro ⟨⟨before, later, written, ofInstances, others⟩, rfl⟩
    refine ⟨⟨ofInstances, rfl⟩, later.reverse, before.reverse, by simp [written], ?_⟩
    intro other inside ⟨ofInstances, sameName⟩
    rw [others other (List.mem_reverse.mp inside) sameName] at ofInstances
    cases ofInstances

theorem TypeDecl.find?_instanceFields_eq_none_iff {decl : TypeDecl} {name : String} :
    decl.instanceFields.reverse.find? (fun field => field.name == name) = none ↔
      ∀ other ∈ decl.fields, other.name = name → other.isStatic = true := by
  simp only [TypeDecl.instanceFields, List.find?_eq_none, List.mem_reverse, List.mem_filter,
    Bool.not_eq_true', beq_iff_eq, and_imp]
  constructor
  · intro missing other inside sameName
    cases isStatic : other.isStatic with
    | true => rfl
    | false => exact absurd sameName (missing other inside isStatic)
  · intro onlyStatic other inside ofInstances sameName
    rw [onlyStatic other inside sameName] at ofInstances
    cases ofInstances

theorem nearestInstanceField?_eq_some_iff {chain : List TypeDecl} {name : String} {field : Field} :
    nearestInstanceField? chain name = some field ↔
      NearestInstanceField chain field ∧ field.name = name := by
  unfold nearestInstanceField? NearestInstanceField
  simp only [List.findSome?_eq_some_iff, TypeDecl.find?_instanceFields_eq_some_iff,
    TypeDecl.find?_instanceFields_eq_none_iff]
  constructor
  · rintro ⟨front, decl, rest, split, ⟨last, rfl⟩, onlyStatic⟩
    exact ⟨⟨front, decl, rest, split, last, onlyStatic⟩, rfl⟩
  · rintro ⟨⟨front, decl, rest, split, last, onlyStatic⟩, rfl⟩
    exact ⟨front, decl, rest, split, ⟨last, rfl⟩, onlyStatic⟩

theorem isSome_nearestInstanceField?_iff {chain : List TypeDecl} {name : String} :
    (nearestInstanceField? chain name).isSome = true ↔
      ∃ decl ∈ chain, ∃ field ∈ decl.fields, field.isStatic = false ∧ field.name = name := by
  simp only [nearestInstanceField?, List.findSome?_isSome_iff, List.find?_isSome, List.mem_reverse,
    TypeDecl.instanceFields, List.mem_filter, Bool.not_eq_true', beq_iff_eq, and_assoc]

/-! ## Allocation -/

namespace Registry

variable {registry : Registry} {name : String} {chain : List TypeDecl} {store made : Store}
  {object : ObjectRef}

def Instantiable (registry : Registry) (name : String) (chain : List TypeDecl) : Prop :=
  registry.hierarchy name = .ok chain ∧ ∃ decl, registry.lookup? name = some decl ∧
    decl.kind = .classKind ∧ decl.modifiers.isAbstract = false

theorem isAbstract_eq_false_iff {decl : TypeDecl} :
    decl.isAbstract = false ↔ decl.kind = .classKind ∧ decl.modifiers.isAbstract = false := by
  unfold TypeDecl.isAbstract TypeDecl.isInterface
  rw [Bool.or_eq_false_iff]
  cases decl.kind <;> simp

theorem instanceChain_eq_ok_iff :
    registry.instanceChain name = .ok chain ↔ registry.Instantiable name chain := by
  constructor
  · intro admitted
    obtain ⟨walked, decl, found, concrete⟩ := instanceChain_eq_ok admitted
    exact ⟨walked, decl, found, isAbstract_eq_false_iff.mp concrete⟩
  · rintro ⟨walked, decl, found, concrete⟩
    obtain ⟨first, foundFirst, _, _, linked⟩ := hierarchy_chain walked
    rw [found, Option.some.injEq] at foundFirst
    subst foundFirst
    have head : chain.head? = some decl := by cases linked <;> rfl
    have notAbstract := isAbstract_eq_false_iff.mpr concrete
    simp [instanceChain, walked, head, notAbstract]

theorem allocate_eq_ok_iff :
    registry.allocate name store = .ok object made ↔
      ∃ chain, registry.Instantiable name chain ∧
        store.newInstance name (freshSlots chain) = (object, made) := by
  simp only [← instanceChain_eq_ok_iff]
  unfold allocate
  cases registry.instanceChain name with
  | error error => simp
  | ok chain => simp [Prod.ext_iff]

/-- The object is a new one of the named type, its slots are those of the fields that the chain
declares, and all else is as it was. -/
structure FreshObject (name : String) (chain : List TypeDecl) (store : Store) (object : ObjectRef)
    (made : Store) : Prop where
  typeName : object.typeName = name
  /-- No object that there was has the number of the new one, and no later one will have it. -/
  number : object.number = store.nextNumber ∧ object.number < made.nextNumber
  slots : ∀ slot, (made.get? (.slot object slot)).isSome = true ↔
    ∃ decl ∈ chain, ∃ field ∈ decl.fields, field.isStatic = false ∧ field.name = slot
  values : ∀ slot value, made.get? (.slot object slot) = some value ↔
    ∃ field, NearestInstanceField chain field ∧ field.name = slot ∧
      value = field.initial.getD field.type.zero
  others : ∀ location, (∀ slot, location ≠ .slot object slot) →
    made.get? location = store.get? location

theorem freshObject_newInstance (name : String) (chain : List TypeDecl) (store : Store) :
    FreshObject name chain store (store.newInstance name (freshSlots chain)).1
      (store.newInstance name (freshSlots chain)).2 := by
  constructor
  · rfl
  · refine ⟨rfl, ?_⟩
    show store.nextNumber < ((store.newObject name).2.putSlots _ _).nextNumber
    rw [Store.nextNumber_putSlots]
    exact Nat.lt_succ_self _
  · intro slot
    rw [Store.get?_newInstance, lastValue?_freshSlots, Option.isSome_map,
      isSome_nearestInstanceField?_iff]
  · intro slot value
    rw [Store.get?_newInstance, lastValue?_freshSlots, Option.map_eq_some_iff]
    simp only [nearestInstanceField?_eq_some_iff, and_assoc, eq_comm (b := value)]
    rfl
  · intro location other
    exact Store.get?_putSlots_of_ne other _ _

/-- A type can be allocated just when it has a hierarchy and is neither an interface nor abstract.
Then there is one more object, which holds for each field that its class chain keeps with instances
what the nearest one of the name starts with; and a failed allocation leaves the store alone. -/
theorem freshObject_of_allocate (registry : Registry) (name : String) (store : Store) :
    ((∃ object made, registry.allocate name store = .ok object made) ↔
      ∃ chain, registry.Instantiable name chain) ∧
    (∀ object made, registry.allocate name store = .ok object made →
      ∃ chain, registry.Instantiable name chain ∧ FreshObject name chain store object made) ∧
    ∀ error after, registry.allocate name store = .error error after → after = store := by
  refine ⟨?_, ?_, fun error after failed => (allocate_eq_error failed).2.symm⟩
  · simp only [allocate_eq_ok_iff]
    constructor
    · rintro ⟨_, _, chain, admitted, _⟩
      exact ⟨chain, admitted⟩
    · rintro ⟨chain, admitted⟩
      exact ⟨_, _, chain, admitted, rfl⟩
  · intro object made allocated
    obtain ⟨chain, admitted, same⟩ := allocate_eq_ok_iff.mp allocated
    have fresh := freshObject_newInstance name chain store
    rw [same] at fresh
    exact ⟨chain, admitted, fresh⟩

def reading (name : String) (flags : List Modifier) (initial : Option Value) : Field :=
  ⟨name, .primitive .int, .ofList flags, initial, ""⟩

def meterClass : TypeDecl :=
  (((TypeDecl.ofClass "Meter").addField (reading "count" [] (some (.int 1)))).addField
    (reading "unit" [] (some (.int 2)))).addField (reading "count" [] (some (.int 3)))

def gaugeClass : TypeDecl :=
  ({ TypeDecl.ofClass "Gauge" with superclass := some (.named "Meter") }.addField
    (reading "count" [.static] (some (.int 4)))).addField (reading "unit" [] none)

def dialClass : TypeDecl :=
  { TypeDecl.ofAbstractClass "Dial" with superclass := some (.named "Gauge") }.addField
    (reading "unit" [.static] (some (.int 5)))

def clockClass : TypeDecl :=
  { TypeDecl.ofClass "Clock" with superclass := some (.named "Dial") }

def meters : Registry :=
  (((Registry.builtin.register meterClass).register gaugeClass).register dialClass).register
    clockClass

theorem freshObject_of_allocate_meters :
    (∃ object made, meters.allocate "Clock" meters.initialStore = .ok object made ∧
      object.typeName = "Clock" ∧ made.get? (.slot object "count") = some (.int 3) ∧
      made.get? (.slot object "unit") = some (.int 0) ∧ made.get? (.slot object "time") = none ∧
      made.get? (.static "Gauge" "count") = some (.int 4)) ∧
    ¬ ∃ object made, meters.allocate "Dial" meters.initialStore = .ok object made := by
  let chain := [clockClass, dialClass, gaugeClass, meterClass, .bare rootName .classKind]
  have walked : meters.hierarchy "Clock" = .ok chain := rfl
  have count : nearestInstanceField? chain "count" =
      some { reading "count" [] (some (.int 3)) with declaring := "Meter" } := rfl
  have unit : nearestInstanceField? chain "unit" =
      some { reading "unit" [] none with declaring := "Gauge" } := rfl
  have timeless : ¬ ∃ decl ∈ chain, ∃ field ∈ decl.fields,
      field.isStatic = false ∧ field.name = "time" := by decide
  obtain ⟨succeeds, holds, _⟩ := freshObject_of_allocate meters "Clock" meters.initialStore
  constructor
  · obtain ⟨object, made, allocated⟩ := succeeds.mpr ⟨_, walked, clockClass, rfl, rfl, rfl⟩
    obtain ⟨again, ⟨walkedAgain, _⟩, fresh⟩ := holds object made allocated
    rw [walked, Except.ok.injEq] at walkedAgain
    rw [← walkedAgain] at fresh
    refine ⟨object, made, allocated, fresh.typeName, ?_, ?_, ?_, ?_⟩
    · obtain ⟨nearest, named⟩ := nearestInstanceField?_eq_some_iff.mp count
      exact (fresh.values _ _).mpr ⟨_, nearest, named, rfl⟩
    · obtain ⟨nearest, named⟩ := nearestInstanceField?_eq_some_iff.mp unit
      exact (fresh.values _ _).mpr ⟨_, nearest, named, rfl⟩
    · rw [← fresh.slots] at timeless
      simpa using timeless
    · rw [fresh.others _ (by simp)]
      rfl
  · rw [(freshObject_of_allocate meters "Dial" meters.initialStore).1]
    rintro ⟨_, _, decl, found, _, concrete⟩
    cases found
    cases concrete

end Registry

end Introspection
