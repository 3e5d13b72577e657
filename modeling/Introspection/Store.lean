import Introspection.Error
import Introspection.OrderedMap
import Introspection.Value

/-!
# The store

All that changes over time: the slots of objects and the static fields of
types, each at a `Location`. `get?_assign` and `get?_put` say that an update
touches no other location; `get?_eq_none_of_unborn` says that a reference that
has not been handed out yet has no slots, so a new object shares nothing with
an old one.
-/

set_option autoImplicit false

namespace Introspection

/-- A place that holds one value. -/
inductive Location where
  /-- A slot of an object. -/
  | slot (object : ObjectRef) (field : String)
  /-- A static field of a type. -/
  | static (typeName field : String)
  deriving DecidableEq

namespace Location

def field : Location → String
  | slot _ field => field
  | static _ field => field

def holder : Location → String
  | slot object _ => object.typeName
  | static typeName _ => typeName

def missing (location : Location) : AccessError :=
  .unknownField location.field location.holder

/-- Slots exist only in objects numbered below the bound. -/
def isBornBefore (bound : Nat) : Location → Prop
  | slot object _ => object.number < bound
  | static _ _ => True

instance (bound : Nat) (location : Location) : Decidable (location.isBornBefore bound) :=
  match location with
  | slot object _ => inferInstanceAs (Decidable (object.number < bound))
  | static _ _ => inferInstanceAs (Decidable True)

end Location

/-- The values at all locations, and the number of the next new object. -/
structure Store where
  /-- The value at each location. -/
  cells : OrderedMap Location Value
  /-- The number that the next object will get. -/
  nextNumber : Nat
  /-- No object has slots before it is made. -/
  born : ∀ location ∈ cells.keys, location.isBornBefore nextNumber

namespace Store

def empty : Store := ⟨∅, 0, fun _ member => nomatch member⟩

def get? (store : Store) (location : Location) : Option Value := store.cells.get? location

/-- Set a location that the bound allows. -/
def insertBorn (store : Store) (location : Location) (value : Value)
    (allowed : location.isBornBefore store.nextNumber) : Store where
  cells := store.cells.insert location value
  nextNumber := store.nextNumber
  born := by
    intro other member
    rw [OrderedMap.keys_insert] at member
    split at member
    · exact store.born other member
    · rcases List.mem_append.mp member with old | new
      · exact store.born other old
      · rw [List.mem_singleton.mp new]
        exact allowed

/-- Set a location, adding it when it is new. Slots can be added only to
objects that have been made; otherwise nothing happens. -/
def put (store : Store) (location : Location) (value : Value) : Store :=
  if allowed : location.isBornBefore store.nextNumber then
    store.insertBorn location value allowed
  else store

/-- Overwrite a location that holds a value; a location without one stays so. -/
def assign (store : Store) (location : Location) (value : Value) : Store :=
  if (store.get? location).isSome then store.put location value else store

def newObject (store : Store) (typeName : String) : ObjectRef × Store :=
  (⟨typeName, store.nextNumber⟩,
    { cells := store.cells
      nextNumber := store.nextNumber + 1
      born := by
        intro location member
        have older := store.born location member
        cases location with
        | slot object field => exact Nat.lt_succ_of_lt older
        | static typeName field => trivial })

theorem isBornBefore_of_get? {store : Store} {location : Location} {value : Value}
    (found : store.get? location = some value) : location.isBornBefore store.nextNumber := by
  apply store.born
  exact Classical.byContradiction fun missing => by
    have absent := (store.cells.get?_eq_none_iff location).mpr missing
    rw [get?, absent] at found
    cases found

/-- An object that has not been made yet has no slots. -/
theorem get?_eq_none_of_unborn (store : Store) (object : ObjectRef) (field : String)
    (unborn : store.nextNumber ≤ object.number) :
    store.get? (.slot object field) = none := by
  cases found : store.get? (.slot object field) with
  | none => rfl
  | some value => exact absurd (isBornBefore_of_get? found) (Nat.not_lt.mpr unborn)

theorem get?_put (store : Store) (location other : Location) (value : Value) :
    (store.put location value).get? other =
      if location = other ∧ location.isBornBefore store.nextNumber then some value
      else store.get? other := by
  by_cases allowed : location.isBornBefore store.nextNumber
  · simp [put, allowed, insertBorn, get?, OrderedMap.get?_insert]
  · simp [put, allowed]

/-- An assignment changes its own location, if that holds a value, and no other. -/
theorem get?_assign (store : Store) (location other : Location) (value : Value) :
    (store.assign location value).get? other =
      if location = other ∧ (store.get? location).isSome then some value
      else store.get? other := by
  cases found : store.get? location with
  | none => simp [assign, found]
  | some old =>
      have allowed := isBornBefore_of_get? found
      simp [assign, found, get?_put, allowed]

end Store

/-- An operation on the store, which succeeds with a result or fails with an
error; both leave a store behind. -/
abbrev Action (α : Type) : Type := EStateM AccessError Store α

namespace Location

def load (location : Location) : Action Value := fun store =>
  match store.get? location with
  | some value => .ok value store
  | none => .error location.missing store

def save (location : Location) (value : Value) : Action Unit := fun store =>
  match store.get? location with
  | some _ => .ok () (store.assign location value)
  | none => .error location.missing store

end Location

end Introspection
