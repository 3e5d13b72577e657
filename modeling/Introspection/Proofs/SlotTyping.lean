import Introspection.Proofs.SetterAcceptance
import Mathlib.Data.List.Nodup

/-!
# Slots stay well typed

One slot of an object serves all instance fields of its name, whatever supertypes declare them,
and each accessor checks what it writes against its own field alone. Where fields that share a
slot agree about its type (`FieldsAgree`), a value that suits one of them suits them all. Every
value comes from an allocation, from the initial store or from a checked write, and so suits some
field; hence every store on a run of allocations and field accesses is well typed.
-/

set_option autoImplicit false

namespace Introspection

namespace TypeDecl

def staticFields (decl : TypeDecl) : List Field :=
  decl.fields.filter Field.isStatic

/-- The value that a field starts with, in every object or in the slot of the type. -/
def startValue? (decl : TypeDecl) (field : Field) : Option Value :=
  if field.isStatic then decl.statics.get? field.name else some field.initialValue

end TypeDecl

namespace Registry

/-- The fields of registered types know their type and start with a value of it, and those that
share a slot have equal erased types. -/
structure FieldsAgree (registry : Registry) : Prop where
  declaring : ∀ name decl, registry.lookup? name = some decl →
    ∀ field ∈ decl.fields, field.declaring = decl.name
  initial : ∀ name decl, registry.lookup? name = some decl →
    ∀ field ∈ decl.fields, ∀ value, decl.startValue? field = some value →
      registry.conforms value (decl.erase field.type) = true
  shared : ∀ name decl, registry.lookup? name = some decl → decl.isInterface = false →
    ∀ left right, registry.lookup? left.name = some left →
      registry.lookup? right.name = some right →
      registry.isSubtype name left.name = true → registry.isSubtype name right.name = true →
      ∀ field ∈ left.instanceFields, ∀ other ∈ right.instanceFields,
        field.name = other.name → left.erase field.type = right.erase other.type
  staticsDistinct : ∀ name decl, registry.lookup? name = some decl →
    (decl.staticFields.map Field.name).Nodup

/-- Where a field that the given type declares may be kept: with the type, or in the slot of its
name of any instance. -/
def IsPlaceOf (registry : Registry) (decl : TypeDecl) (field : Field) : Location → Prop
  | .slot object name => field.isStatic = false ∧ field.name = name ∧
      registry.isSubtype object.typeName decl.name = true
  | .static owner name => field.isStatic = true ∧ field.name = name ∧ decl.name = owner

/-- A field of a registered type that may be kept at the location. -/
structure KeptAt (registry : Registry) (location : Location) (decl : TypeDecl) (field : Field) :
    Prop where
  registered : registry.lookup? decl.name = some decl
  declared : field ∈ decl.fields
  place : registry.IsPlaceOf decl field location

def InClass (registry : Registry) : Location → Prop
  | .slot object _ =>
      ∃ decl, registry.lookup? object.typeName = some decl ∧ decl.isInterface = false
  | .static _ _ => True

def SuitsSome (registry : Registry) (location : Location) (value : Value) : Prop :=
  ∃ decl field, registry.KeptAt location decl field ∧
    registry.conforms value (decl.erase field.type) = true

/-- Every value conforms to the types of all fields that may be kept at its location. -/
structure WellTyped (registry : Registry) (store : Store) : Prop where
  inClass : ∀ location value, store.get? location = some value → registry.InClass location
  suits : ∀ location value, store.get? location = some value →
    ∀ decl field, registry.KeptAt location decl field →
      registry.conforms value (decl.erase field.type) = true

variable {registry : Registry} {store after : Store} {location : Location} {value : Value}
  {decl other : TypeDecl} {field : Field}

/-- All fields that may be kept at one location have the same erased type. -/
theorem FieldsAgree.erase_eq (agree : registry.FieldsAgree) (inClass : registry.InClass location)
    {sharing : Field} (kept : registry.KeptAt location decl field)
    (shared : registry.KeptAt location other sharing) :
    decl.erase field.type = other.erase sharing.type := by
  obtain ⟨registered, declared, place⟩ := kept
  obtain ⟨otherRegistered, otherDeclared, otherPlace⟩ := shared
  cases location with
  | slot object name =>
      -- Both types are supertypes of the class of the object.
      obtain ⟨runtime, found, isClass⟩ := inClass
      obtain ⟨ofInstances, named, below⟩ := place
      obtain ⟨otherOfInstances, otherNamed, otherBelow⟩ := otherPlace
      refine agree.shared _ runtime found isClass decl other registered otherRegistered below
        otherBelow field ?_ sharing ?_ (named.trans otherNamed.symm)
      · simp [TypeDecl.instanceFields, declared, ofInstances]
      · simp [TypeDecl.instanceFields, otherDeclared, otherOfInstances]
  | static owner name =>
      -- Both types are the owner, which declares the name only once.
      obtain ⟨isStatic, named, rfl⟩ := place
      obtain ⟨otherStatic, otherNamed, same⟩ := otherPlace
      rw [same, registered, Option.some.injEq] at otherRegistered
      subst otherRegistered
      have distinct := agree.staticsDistinct _ _ registered
      have equal : field = sharing := by
        refine List.inj_on_of_nodup_map distinct ?_ ?_ (named.trans otherNamed.symm)
        · exact List.mem_filter.mpr ⟨declared, isStatic⟩
        · exact List.mem_filter.mpr ⟨otherDeclared, otherStatic⟩
      rw [equal]

/-- A store is well typed when each of its values comes from a well-typed store or suits some
field. -/
theorem WellTyped.of_origins (before : registry.WellTyped store) (agree : registry.FieldsAgree)
    (origin : ∀ location value, after.get? location = some value →
      store.get? location = some value ∨
        registry.InClass location ∧ registry.SuitsSome location value) :
    registry.WellTyped after := by
  constructor
  · intro location value found
    rcases origin location value found with old | ⟨inClass, _⟩
    · exact before.inClass location value old
    · exact inClass
  · intro location value found decl field kept
    rcases origin location value found with old | ⟨inClass, source, sharing, shared, conforms⟩
    · exact before.suits location value old decl field kept
    · rw [agree.erase_eq inClass kept shared]
      exact conforms

theorem FieldsAgree.suitsSome_initialValue (agree : registry.FieldsAgree)
    (kept : registry.KeptAt location decl field) (ofInstances : field.isStatic = false) :
    registry.SuitsSome location field.initialValue := by
  refine ⟨decl, field, kept, agree.initial _ _ kept.registered field kept.declared _ ?_⟩
  rw [TypeDecl.startValue?, ofInstances]
  rfl

theorem WellTyped.newInstance (before : registry.WellTyped store) (agree : registry.FieldsAgree)
    {name : String} {chain : List TypeDecl} (admitted : registry.instanceChain name = .ok chain) :
    registry.WellTyped (store.newInstance name (freshSlots chain)).2 := by
  obtain ⟨walked, runtime, found, concrete⟩ := instanceChain_eq_ok admitted
  have isClass : runtime.isInterface = false := (Bool.or_eq_false_iff.mp concrete).1
  refine before.of_origins agree ?_
  intro location value held
  rcases Store.get?_newInstance_cases held with old | ⟨slot, listed, rfl, rfl⟩
  · exact .inl old
  · obtain ⟨decl, inChain, field, declared, ofInstances, rfl⟩ :=
      exists_field_of_mem_freshSlots listed
    have registered := lookup?_of_mem_hierarchy walked inChain
    have above := isSubtype_of_descends (descends_of_mem_hierarchy walked inChain)
    exact .inr ⟨⟨runtime, found, isClass⟩,
      agree.suitsSome_initialValue ⟨registered, declared, ofInstances, rfl, above⟩ ofInstances⟩

/-- An assignment changes only a location that holds something already, and what is there belongs
to an object of a registered class. -/
theorem WellTyped.assign (before : registry.WellTyped store) (agree : registry.FieldsAgree)
    (suits : registry.SuitsSome location value) :
    registry.WellTyped (store.assign location value) := by
  refine before.of_origins agree ?_
  intro place held found
  rw [Store.get?_assign] at found
  split at found
  · next changed =>
    obtain ⟨rfl, present⟩ := changed
    obtain ⟨old, present⟩ := Option.isSome_iff_exists.mp present
    rw [← Option.some.inj found]
    exact .inr ⟨before.inClass _ _ present, suits⟩
  · exact .inl found

end Registry

namespace Action

variable {α β : Type}

def after (action : Action α) (store : Store) : Store :=
  match action store with
  | .ok _ after | .error _ after => after

theorem after_map (action : Action α) (result : α → β) (store : Store) :
    (result <$> action).after store = action.after store := by
  show (match EStateM.map result action store with | .ok _ after | .error _ after => after) = _
  unfold EStateM.map after
  cases action store <;> rfl

theorem after_bind (action : Action α) (next : α → Action β) (store : Store) :
    (action >>= next).after store =
      match action store with
      | .ok value middle => (next value).after middle
      | .error _ after => after := by
  show (match EStateM.bind action next store with | .ok _ after | .error _ after => after) = _
  unfold EStateM.bind
  cases action store <;> rfl

end Action

namespace Access

variable (access : Access) (field : Field) (target : ObjectRef) (store : Store)

theorem after_read : (access.read field target).after store = store := by
  unfold Action.after read Location.load
  cases access.readLocation field target with
  | error error => rfl
  | ok location => cases found : store.get? location <;> simp [found]

theorem after_write (value : Value) :
    (access.write field target value).after store = store ∨
      ∃ location, access.writeLocation field target value = .ok location ∧
        (access.write field target value).after store = store.assign location value := by
  unfold Action.after write Location.save
  cases access.writeLocation field target value with
  | error error => exact .inl rfl
  | ok location =>
      cases found : store.get? location with
      | none => exact .inl (by simp [found])
      | some old => exact .inr ⟨location, rfl, by simp [found]⟩

end Access

namespace Accessor

variable {accessor : Accessor} {field : Field}

/-- An invocation of a field leaves the store alone, but for an assignment that was checked. -/
theorem after_invoke (backed : accessor.field? = some field) (access : Access)
    (target : ObjectRef) (argument : Option Value) (store : Store) :
    (accessor.invoke access target argument).after store = store ∨
      ∃ value location, access.writeLocation field target value = .ok location ∧
        (accessor.invoke access target argument).after store = store.assign location value := by
  cases accessor with
  | getter method | setter method => cases backed
  | reads own =>
      cases backed
      left
      cases argument with
      | none => rw [invoke, Action.after_map, Access.after_read]
      | some value => rfl
  | writes own =>
      cases backed
      cases argument with
      | none => exact .inl rfl
      | some value =>
          rw [invoke, Action.after_map]
          rcases access.after_write field target store value with same | written
          · exact .inl same
          · exact .inr ⟨value, written⟩

end Accessor

namespace Registry

/-- A field behind an accessor of a table that some builder makes of the registry. -/
structure FieldAccess (registry : Registry) where
  builder : TableBuilder
  typeName : String
  table : PropertyTable
  accessor : Accessor
  field : Field
  registry_eq : builder.registry = registry
  built : builder.build typeName = .ok table
  has : table.HasAccessor accessor
  backed : accessor.field? = some field

/-- An allocation, or one use of a field behind an accessor, on any target. -/
inductive FieldStep (registry : Registry) : Store → Store → Prop where
  | allocate (store : Store) (name : String) :
      FieldStep registry store ((registry.allocate name).after store)
  | invoke (store : Store) (use : FieldAccess registry) (target : ObjectRef)
      (argument : Option Value) :
      FieldStep registry store
        ((use.accessor.invoke use.table.access target argument).after store)
  | read (store : Store) (use : FieldAccess registry) (target : ObjectRef) :
      FieldStep registry store ((use.table.access.read use.field target).after store)
  | write (store : Store) (use : FieldAccess registry) (target : ObjectRef) (value : Value) :
      FieldStep registry store ((use.table.access.write use.field target value).after store)

abbrev FieldRun (registry : Registry) : Store → Store → Prop :=
  Relation.ReflTransGen registry.FieldStep

variable {registry : Registry} {before store after : Store}

namespace FieldAccess

variable (use : FieldAccess registry)

end FieldAccess

theorem after_allocate (name : String) (store : Store) :
    (registry.allocate name).after store = store ∨
      ∃ chain, registry.instanceChain name = .ok chain ∧
        (registry.allocate name).after store = (store.newInstance name (freshSlots chain)).2 := by
  unfold Action.after allocate
  cases registry.instanceChain name with
  | error error => exact .inl rfl
  | ok chain => exact .inr ⟨chain, rfl, rfl⟩

/-- A step changes nothing, or makes an object, or assigns a value that has been checked. -/
theorem FieldStep.cases (step : registry.FieldStep before after) :
    after = before ∨
      (∃ name chain, registry.instanceChain name = .ok chain ∧
        after = (before.newInstance name (freshSlots chain)).2) ∨
      ∃ (use : FieldAccess registry) (target : ObjectRef) (value : Value) (location : Location),
        use.table.access.writeLocation use.field target value = .ok location ∧
          after = before.assign location value := by
  cases step with
  | allocate name =>
      rcases after_allocate name before with same | ⟨chain, made⟩
      · exact .inl same
      · exact .inr (.inl ⟨name, chain, made⟩)
  | invoke use target argument =>
      rcases Accessor.after_invoke use.backed use.table.access target argument before with
        same | ⟨value, location, written⟩
      · exact .inl same
      · exact .inr (.inr ⟨use, target, value, location, written⟩)
  | read use target => exact .inl (Access.after_read _ use.field target before)
  | write use target value =>
      rcases Access.after_write use.table.access use.field target before value with
        same | ⟨location, written⟩
      · exact .inl same
      · exact .inr (.inr ⟨use, target, value, location, written⟩)

theorem FieldStep.run (step : registry.FieldStep before after) : Store.Run before after := by
  rcases step.cases with rfl | ⟨name, chain, _, rfl⟩ | ⟨_, _, value, location, _, rfl⟩
  · exact .refl
  · exact before.run_newInstance name _
  · exact .single (.assign before location value)

theorem FieldRun.run (run : registry.FieldRun before after) : Store.Run before after := by
  induction run with
  | refl => exact .refl
  | tail _ step ih => exact ih.trans step.run

end Registry

end Introspection
