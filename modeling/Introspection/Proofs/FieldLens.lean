import Introspection.Proofs.AccessorChecks
import Introspection.Proofs.StoreRuns

/-!
# A property is a lens on its field

A read and a write that go to one location obey the laws of a lens (`Lens`): a write changes that
location and nothing else, the value can be read back, writing back what was read changes nothing,
and a later write hides an earlier one. `lens_of_field` says so for the two accessors of a field,
and for the methods that read and store one, in all combinations.
-/

set_option autoImplicit false

namespace Introspection

namespace Store

variable {store : Store} {location : Location} {value : Value}

theorem eq_of_cells {left right : Store} (cells : left.cells = right.cells)
    (numbers : left.nextNumber = right.nextNumber) : left = right := by
  cases left
  cases right
  simp_all

theorem cells_assign (found : store.get? location = some value) (newer : Value) :
    (store.assign location newer).cells = store.cells.insert location newer := by
  simp [assign, found, put, isBornBefore_of_get? found, insertBorn]

theorem assign_self (found : store.get? location = some value) :
    store.assign location value = store := by
  refine eq_of_cells ?_ (nextNumber_assign store location value)
  rw [cells_assign found, OrderedMap.insert_self _ _ _ found]

theorem assign_assign (store : Store) (location : Location) (first second : Value) :
    (store.assign location first).assign location second = store.assign location second := by
  cases found : store.get? location with
  | none => simp [assign, found]
  | some old =>
      have written : (store.assign location first).get? location = some first := by
        simp [get?_assign, found]
      refine eq_of_cells ?_ (by simp only [nextNumber_assign])
      rw [cells_assign written, cells_assign found, cells_assign found, OrderedMap.insert_insert]

end Store

/-- The first action is the second one where that is admitted, and is refused otherwise. -/
def Action.Admits {α : Type} (admitted : Prop) (action inner : Action α) : Prop :=
  (admitted ∧ action = inner) ∨ (¬ admitted ∧ ∃ error, action = throw error)

theorem Action.Admits.ok_iff {α : Type} {admitted : Prop} {action inner : Action α}
    (admits : Action.Admits admitted action inner) {store after : Store} {result : α} :
    action store = .ok result after ↔ admitted ∧ inner store = .ok result after := by
  rcases admits with ⟨opened, rfl⟩ | ⟨closed, error, rfl⟩
  · simp [opened]
  · simp only [closed, false_and, iff_false]
    intro impossible
    cases impossible

/-- A read and a write of one place. The write goes through for the values that fit, as long as the
place holds a value at all. -/
structure Lens (place : Location) (fits : Value → Prop) (read : Action Value)
    (write : Value → Action Unit) : Prop where
  written_iff : ∀ value store, (∃ after, write value store = .ok () after) ↔
    fits value ∧ (store.get? place).isSome
  changes : ∀ value store after, write value store = .ok () after →
    after.nextNumber = store.nextNumber ∧
      ∀ location, after.get? location = if location = place then some value else store.get? location
  read_back : ∀ value store after, write value store = .ok () after → read after = .ok value after
  write_back : ∀ value store after, read store = .ok value after → after = store ∧
    (write value store = .ok () store ∨ ∃ error, write value store = .error error store)
  overwritten : ∀ first second store between, write first store = .ok () between →
    ∀ after, write second between = .ok () after ↔ write second store = .ok () after

namespace Location

variable {place : Location} {store after : Store} {value : Value}

theorem load_eq_ok_iff :
    place.load store = .ok value after ↔ store.get? place = some value ∧ after = store := by
  unfold load
  cases store.get? place <;> simp [eq_comm]

theorem save_eq_ok_iff :
    place.save value store = .ok () after ↔
      (store.get? place).isSome ∧ after = store.assign place value := by
  unfold save
  cases store.get? place <;> simp [eq_comm]

theorem get?_of_save (saved : place.save value store = .ok () after) (location : Location) :
    after.get? location = if location = place then some value else store.get? location := by
  obtain ⟨present, rfl⟩ := save_eq_ok_iff.mp saved
  simp [Store.get?_assign, present, eq_comm]

end Location

/-- A read and writes that are admitted to one place make a lens, if the read is admitted wherever
a write is. -/
theorem Lens.of_admits {place : Location} {readable : Prop} {fits : Value → Prop}
    {read : Action Value} {write : Value → Action Unit}
    (reads : Action.Admits readable read place.load)
    (writes : ∀ value, Action.Admits (fits value) (write value) (place.save value))
    (enough : ∀ value, fits value → readable) : Lens place fits read write where
  written_iff value store := by
    simp [(writes value).ok_iff, Location.save_eq_ok_iff]
  changes value store after succeeded := by
    obtain ⟨_, saved⟩ := (writes value).ok_iff.mp succeeded
    refine ⟨?_, Location.get?_of_save saved⟩
    rw [(Location.save_eq_ok_iff.mp saved).2, Store.nextNumber_assign]
  read_back value store after succeeded := by
    obtain ⟨fit, saved⟩ := (writes value).ok_iff.mp succeeded
    simp [reads.ok_iff, Location.load_eq_ok_iff, Location.get?_of_save saved, enough value fit]
  write_back value store after succeeded := by
    obtain ⟨_, loaded⟩ := reads.ok_iff.mp succeeded
    obtain ⟨held, rfl⟩ := Location.load_eq_ok_iff.mp loaded
    refine ⟨rfl, ?_⟩
    -- The value that is held need not fit, and is then refused.
    rcases writes value with ⟨_, same⟩ | ⟨_, error, refused⟩
    · left
      simp [same, Location.save_eq_ok_iff, held, Store.assign_self held]
    · exact .inr ⟨error, congrFun refused after⟩
  overwritten first second store between succeeded after := by
    obtain ⟨present, rfl⟩ :=
      Location.save_eq_ok_iff.mp ((writes first).ok_iff.mp succeeded).2
    simp [(writes second).ok_iff, Location.save_eq_ok_iff, Store.assign_assign, Store.get?_assign,
      present]

/-! ## What the checks admit -/

namespace Access

variable {access : Access} {field : Field} {target : ObjectRef} {value : Value}
  {method ran : Method} {body : Body}

/-- A static field takes any target, another field the instances of its type. -/
def Suits (access : Access) (field : Field) (target : ObjectRef) : Prop :=
  field.isStatic = false → access.registry.isSubtype target.typeName field.declaring = true

theorem readLocation_of_suits
    (allowed : access.permissions.allowsRead field.modifiers.isPublic = true)
    (suits : access.Suits field target) :
    access.readLocation field target = .ok (field.location target) := by
  cases kept : field.isStatic with
  | true => simp [readLocation, allowed, kept, pure, Except.pure]
  | false => simp [readLocation, allowed, kept, checkTarget, suits kept, pure, Except.pure, bind,
      Except.bind]

theorem writeLocation_of_suits
    (allowed : access.permissions.allowsWrite field.modifiers.isPublic = true)
    (fits : access.registry.conforms value (access.fieldType field) = true)
    (suits : access.Suits field target) :
    access.writeLocation field target value = .ok (field.location target) := by
  cases kept : field.isStatic with
  | true => simp [writeLocation, allowed, kept, checkArgument, fits, pure, Except.pure, bind,
      Except.bind]
  | false => simp [writeLocation, allowed, kept, checkArgument, fits, checkTarget, suits kept, pure,
      Except.pure, bind, Except.bind]

theorem reached_of_checks {arguments : List Value}
    (allowed : access.permissions.allowsInvoke method.modifiers.isPublic = true)
    (instanceOf : access.registry.isSubtype target.typeName method.declaring = true)
    (counted : arguments.length = method.parameters.length)
    (fits : access.checkArguments method.name (access.parameterTypes method) arguments = .ok ())
    (dispatched : access.registry.implementation? target.typeName method = some ran)
    (written : ran.body = some body) :
    access.reached method target arguments = .ok (ran, body) := by
  have sameLength : (access.parameterTypes method).length = method.parameters.length :=
    List.length_map _
  simp [reached, allowed, checkTarget, instanceOf, sameLength, counted, fits, dispatched, written,
    pure, Except.pure, bind, Except.bind]

end Access

namespace Accessor

variable {access : Access} {field : Field} {target : ObjectRef} {value : Value}
  {accessor : Accessor} {method ran : Method}

theorem admits_get {admitted : Prop} {inner : Action Value}
    (opened : admitted → accessor.checked access target none = .ok (some <$> inner))
    (closed : ¬ admitted → ∃ error, accessor.checked access target none = .error error) :
    Action.Admits admitted (accessor.get access target) inner := by
  have mapped : accessor.get access target =
      (fun result => result.getD .null) <$> accessor.invoke access target none :=
    bind_pure_comp _ _
  rw [mapped, invoke_eq_checked]
  by_cases admits : admitted
  · rw [opened admits, Functor.map_map]
    exact .inl ⟨admits, id_map _⟩
  · obtain ⟨error, decided⟩ := closed admits
    rw [decided]
    exact .inr ⟨admits, error, rfl⟩

theorem admits_set {admitted : Prop} {rest : Action (Option Value)} {inner : Action Unit}
    (opened : admitted → accessor.checked access target (some value) = .ok rest)
    (closed : ¬ admitted → ∃ error, accessor.checked access target (some value) = .error error)
    (same : (fun _ => ()) <$> rest = inner) :
    Action.Admits admitted (accessor.set access target value) inner := by
  have mapped : accessor.set access target value =
      (fun _ => ()) <$> accessor.invoke access target (some value) :=
    bind_pure_comp _ _
  rw [mapped, invoke_eq_checked]
  by_cases admits : admitted
  · rw [opened admits]
    exact .inl ⟨admits, same⟩
  · obtain ⟨error, decided⟩ := closed admits
    rw [decided]
    exact .inr ⟨admits, error, rfl⟩

theorem admits_get_reads (access : Access) (target : ObjectRef)
    (allowed : access.permissions.allowsRead field.modifiers.isPublic = true) :
    Action.Admits (access.Suits field target) ((reads field).get access target)
      (field.location target).load := by
  refine admits_get ?_ ?_
  · intro suits
    simp only [checked, Access.readLocation_of_suits allowed suits, Except.map]
  · intro unsuited
    cases outcome : access.readLocation field target with
    | ok location => exact absurd (Access.isSubtype_of_readLocation outcome) unsuited
    | error error => exact ⟨error, by simp only [checked, outcome, Except.map]⟩

theorem admits_set_writes (access : Access) (target : ObjectRef)
    (allowed : access.permissions.allowsWrite field.modifiers.isPublic = true) (value : Value) :
    Action.Admits
      (access.registry.conforms value (access.fieldType field) = true ∧ access.Suits field target)
      ((writes field).set access target value) ((field.location target).save value) := by
  refine admits_set ?_ ?_ ((Functor.map_map (fun _ => none) (fun _ => ()) _).trans (id_map _))
  · intro ⟨fits, suits⟩
    simp only [checked, Access.writeLocation_of_suits allowed fits suits, Except.map]
  · intro unfit
    cases outcome : access.writeLocation field target value with
    | ok location => exact absurd (Access.checks_of_writeLocation outcome) unfit
    | error error => exact ⟨error, by simp only [checked, outcome, Except.map]⟩

theorem admits_get_getter {name : String}
    (allowed : access.permissions.allowsInvoke method.modifiers.isPublic = true)
    (instanceOf : access.registry.isSubtype target.typeName method.declaring = true)
    (bare : method.parameters = []) (returns : method.returns ≠ .void)
    (dispatched : access.registry.implementation? target.typeName method = some ran)
    (written : ran.body = some (Body.readField name)) :
    Action.Admits True ((getter method).get access target)
      (Location.slot target name).load := by
  have reached : access.reached method target [] = .ok (ran, Body.readField name) := by
    refine Access.reached_of_checks allowed instanceOf ?_ ?_ dispatched written
    · simp only [bare, List.length_nil]
    · simp only [Access.parameterTypes, bare, List.map_nil, Access.checkArguments]
  refine admits_get ?_ (absurd trivial)
  intro _
  simp only [checked, Option.toList_none, reached, Except.map, returns, if_false, Body.readField]

theorem map_storeFirst (target : ObjectRef) (name : String) (value : Value)
    (result : Value → Option Value) :
    (fun _ => ()) <$> result <$> Body.storeFirst name target [value] =
      (Location.slot target name).save value := by
  rw [Functor.map_map]
  funext store
  show EStateM.map _ (EStateM.bind ((Location.slot target name).save value) _) store = _
  unfold EStateM.map EStateM.bind
  cases (Location.slot target name).save value store <;> rfl

theorem admits_set_setter {name : String} {parameter : TypeExpr}
    (allowed : access.permissions.allowsInvoke method.modifiers.isPublic = true)
    (instanceOf : access.registry.isSubtype target.typeName method.declaring = true)
    (single : method.parameters = [parameter])
    (dispatched : access.registry.implementation? target.typeName method = some ran)
    (written : ran.body = some (Body.storeFirst name)) (value : Value) :
    Action.Admits
      (access.registry.conforms value (access.registry.eraseIn method.declaring parameter) = true)
      ((setter method).set access target value) ((Location.slot target name).save value) := by
  have types : access.parameterTypes method =
      [access.registry.eraseIn method.declaring parameter] := by
    simp only [Access.parameterTypes, single, List.map_singleton]
  refine admits_set ?_ ?_ (map_storeFirst target name value
    fun result => if method.returns = .void then none else some result)
  · intro fits
    have reached : access.reached method target [value] = .ok (ran, Body.storeFirst name) := by
      refine Access.reached_of_checks allowed instanceOf ?_ ?_ dispatched written
      · simp only [single, List.length_singleton]
      · simp [types, Access.checkArguments, Access.checkArgument, fits]
    simp only [checked, Option.toList_some, reached, Except.map]
  · intro unfit
    cases outcome : access.reached method target [value] with
    | ok found =>
        obtain ⟨_, _, _, conform, _⟩ := Access.reached_eq_ok outcome
        have paired : (access.registry.eraseIn method.declaring parameter, value) ∈
            (access.parameterTypes method).zip [value] := by simp [types]
        exact absurd (conform _ paired) unfit
    | error error => exact ⟨error, by simp only [checked, Option.toList_some, outcome, Except.map]⟩

/-- The accessors that read a field of the target: the one of the field itself, and getters whose
dispatched body reads it. -/
inductive ReadsSlot (registry : Registry) (field : Field) (target : ObjectRef) :
    Accessor → Prop where
  | direct : ReadsSlot registry field target (.reads field)
  | method {method ran : Method} : method.parameters = [] → method.returns ≠ .void →
      registry.implementation? target.typeName method = some ran →
      ran.body = some (Body.readField field.name) → ReadsSlot registry field target (.getter method)

/-- The accessors that store a value in a field of the target: the one of the field itself, and
setters whose dispatched body stores there. -/
inductive WritesSlot (registry : Registry) (field : Field) (target : ObjectRef) :
    Accessor → Prop where
  | direct : WritesSlot registry field target (.writes field)
  | method {method ran : Method} {parameter : TypeExpr} : method.parameters = [parameter] →
      registry.implementation? target.typeName method = some ran →
      ran.body = some (Body.storeFirst field.name) →
      WritesSlot registry field target (.setter method)

def Fits (accessor : Accessor) (access : Access) (value : Value) : Prop :=
  ∀ type ∈ accessor.argumentTypes access, access.registry.conforms value type = true

theorem ReadsSlot.admits {reader : Accessor} (reads : ReadsSlot access.registry field target reader)
    (ofInstances : field.isStatic = false) (allowed : reader.allowed access = true)
    (instanceOf : access.registry.isSubtype target.typeName reader.declaring = true) :
    Action.Admits True (reader.get access target) (Location.slot target field.name).load := by
  have place : field.location target = .slot target field.name := by
    simp [Field.location, ofInstances]
  cases reads with
  | direct =>
      have suits : access.Suits field target := fun _ => instanceOf
      simpa only [suits, place] using admits_get_reads access target allowed
  | method bare returns dispatched written =>
      exact admits_get_getter allowed instanceOf bare returns dispatched written

theorem WritesSlot.admits {writer : Accessor}
    (writes : WritesSlot access.registry field target writer)
    (ofInstances : field.isStatic = false) (allowed : writer.allowed access = true)
    (instanceOf : access.registry.isSubtype target.typeName writer.declaring = true)
    (value : Value) :
    Action.Admits (writer.Fits access value) (writer.set access target value)
      ((Location.slot target field.name).save value) := by
  have place : field.location target = .slot target field.name := by
    simp [Field.location, ofInstances]
  cases writes with
  | direct =>
      have suits : access.Suits field target := fun _ => instanceOf
      have admits := admits_set_writes access target allowed value
      simpa [Fits, argumentTypes, suits, place] using admits
  | @method method ran parameter single dispatched written =>
      have admits := admits_set_setter allowed instanceOf single dispatched written value
      simpa [Fits, argumentTypes, Access.parameterTypes, single] using admits

/-- Reading and writing a field are a lens on the place where it is kept, on one target or, for a
static field, on any two. For a field of instances so are a getter and a setter whose dispatched
bodies read and store it, each also beside the field itself. -/
theorem lens_of_field (registry : Registry) (field : Field) (reading writing : Permissions) :
    (reading.allowsRead field.modifiers.isPublic = true →
      writing.allowsWrite field.modifiers.isPublic = true →
      ∀ target other, field.isStatic = true ∨ other = target →
        Lens (field.location target)
          (fun value =>
            registry.conforms value (registry.eraseIn field.declaring field.type) = true ∧
            (field.isStatic = false →
              registry.isSubtype target.typeName field.declaring = true))
          ((reads field).get ⟨registry, reading⟩ other)
          ((writes field).set ⟨registry, writing⟩ target)) ∧
    (field.isStatic = false →
      ∀ target reader writer, ReadsSlot registry field target reader →
        WritesSlot registry field target writer →
        reader.allowed ⟨registry, reading⟩ = true → writer.allowed ⟨registry, writing⟩ = true →
        registry.isSubtype target.typeName reader.declaring = true →
        registry.isSubtype target.typeName writer.declaring = true →
        Lens (.slot target field.name) (writer.Fits ⟨registry, writing⟩)
          (reader.get ⟨registry, reading⟩ target) (writer.set ⟨registry, writing⟩ target)) := by
  constructor
  · intro readAllowed writeAllowed target other shared
    have place : field.location other = field.location target := by
      rcases shared with kept | rfl
      · simp [Field.location, kept]
      · rfl
    have reads := admits_get_reads ⟨registry, reading⟩ other readAllowed
    rw [place] at reads
    refine Lens.of_admits reads (admits_set_writes ⟨registry, writing⟩ target writeAllowed) ?_
    intro value fits ofInstances
    rcases shared with kept | rfl
    · rw [kept] at ofInstances
      cases ofInstances
    · exact fits.2 ofInstances
  · intro ofInstances target reader writer readsSlot writesSlot readAllowed writeAllowed
      readerOf writerOf
    exact Lens.of_admits (readsSlot.admits ofInstances readAllowed readerOf)
      (writesSlot.admits ofInstances writeAllowed writerOf) fun _ _ => trivial

def lampLevel : Field := ⟨"level", .primitive .int, .ofList [.privateAccess], some (.int 3), "Lamp"⟩

def lampLimit : Field := ⟨"limit", .primitive .int, .ofList [.static], some (.int 9), "Lamp"⟩

def lampGetter : Method :=
  { Method.abstractMethod "getLevel" [] (.primitive .int) with declaring := "Lamp" }

def lampSetter : Method :=
  { Method.abstractMethod "setLevel" [.primitive .int] .void with declaring := "Lamp" }

def lamps : Registry :=
  (Registry.builtin.register
    ((((TypeDecl.ofAbstractClass "Lamp").addField lampLevel).addField lampLimit).addMethod
      lampGetter |>.addMethod lampSetter)).register
    (({ TypeDecl.ofClass "Dimmer" with superclass := some (.named "Lamp") }.addMethod
      (Method.getterOf "getLevel" "level" (.primitive .int))).addMethod
      (Method.setterOf "setLevel" "level" (.primitive .int)))

theorem lens_of_field_lamps :
    ∃ made after, lamps.allocate "Dimmer" lamps.initialStore = .ok ⟨"Dimmer", 0⟩ made ∧
      (setter lampSetter).set ⟨lamps, .all⟩ ⟨"Dimmer", 0⟩ (.int 5) made = .ok () after ∧
      (reads lampLevel).get ⟨lamps, .all⟩ ⟨"Dimmer", 0⟩ after = .ok (.int 5) after ∧
      (∀ reader ∈ [reads lampLevel, getter lampGetter],
        ∀ writer ∈ [writes lampLevel, setter lampSetter],
          Lens (.slot ⟨"Dimmer", 0⟩ "level") (writer.Fits ⟨lamps, .all⟩)
            (reader.get ⟨lamps, .all⟩ ⟨"Dimmer", 0⟩) (writer.set ⟨lamps, .all⟩ ⟨"Dimmer", 0⟩)) ∧
      ∃ final, (writes lampLimit).set ⟨lamps, .all⟩ ⟨"Dimmer", 0⟩ (.int 7) after = .ok () final ∧
        (reads lampLimit).get ⟨lamps, .all⟩ ⟨"String", 1⟩ final = .ok (.int 7) final := by
  have reading : ∀ reader ∈ [reads lampLevel, getter lampGetter],
      ReadsSlot lamps lampLevel ⟨"Dimmer", 0⟩ reader ∧ reader.allowed ⟨lamps, .all⟩ = true ∧
        lamps.isSubtype "Dimmer" reader.declaring = true := by
    intro reader listed
    rcases List.mem_pair.mp listed with rfl | rfl
    · exact ⟨.direct, by decide, by decide⟩
    · exact ⟨.method rfl (by decide) rfl rfl, by decide, by decide⟩
  have writing : ∀ writer ∈ [writes lampLevel, setter lampSetter],
      WritesSlot lamps lampLevel ⟨"Dimmer", 0⟩ writer ∧ writer.allowed ⟨lamps, .all⟩ = true ∧
        lamps.isSubtype "Dimmer" writer.declaring = true := by
    intro writer listed
    rcases List.mem_pair.mp listed with rfl | rfl
    · exact ⟨.direct, by decide, by decide⟩
    · exact ⟨.method rfl rfl rfl, by decide, by decide⟩
  have lenses : ∀ reader ∈ [reads lampLevel, getter lampGetter],
      ∀ writer ∈ [writes lampLevel, setter lampSetter],
        Lens (.slot ⟨"Dimmer", 0⟩ "level") (writer.Fits ⟨lamps, .all⟩)
          (reader.get ⟨lamps, .all⟩ ⟨"Dimmer", 0⟩) (writer.set ⟨lamps, .all⟩ ⟨"Dimmer", 0⟩) := by
    intro reader inReaders writer inWriters
    obtain ⟨readsSlot, readAllowed, readerOf⟩ := reading reader inReaders
    obtain ⟨writesSlot, writeAllowed, writerOf⟩ := writing writer inWriters
    exact (lens_of_field lamps lampLevel .all .all).2 rfl _ reader writer readsSlot writesSlot
      readAllowed writeAllowed readerOf writerOf
  have level := lenses (reads lampLevel) (by simp) (setter lampSetter) (by simp)
  have limit := (lens_of_field lamps lampLimit .all .all).1 (by decide) (by decide)
    ⟨"Dimmer", 0⟩ ⟨"String", 1⟩ (.inl rfl)
  obtain ⟨made, after, final, allocated, stored, limited⟩ : ∃ made after final,
      lamps.allocate "Dimmer" lamps.initialStore = .ok ⟨"Dimmer", 0⟩ made ∧
      (setter lampSetter).set ⟨lamps, .all⟩ ⟨"Dimmer", 0⟩ (.int 5) made = .ok () after ∧
      (writes lampLimit).set ⟨lamps, .all⟩ ⟨"Dimmer", 0⟩ (.int 7) after = .ok () final :=
    ⟨_, _, _, rfl, rfl, rfl⟩
  exact ⟨made, after, allocated, stored, level.read_back _ _ _ stored, lenses, final, limited,
    limit.read_back _ _ _ limited⟩

end Accessor

end Introspection
