import Introspection.Proofs.Hierarchy
import Introspection.Proofs.OrderedMap
import Introspection.Registry.Allocation
import Mathlib.Logic.Relation

/-!
# Runs of the store

A store changes by overwriting, by putting a value at a location and by making
objects; nothing is ever taken away. A run is any sequence of such steps. What
a location holds may change along a run, but a location that holds something
keeps holding something (`Run.isSome_get?`), so the slots that an allocation
sets up and the static fields of the initial store are there for good.
-/

set_option autoImplicit false

namespace Introspection

namespace Store

inductive Step : Store → Store → Prop where
  | assign (store : Store) (location : Location) (value : Value) :
      Step store (store.assign location value)
  | put (store : Store) (location : Location) (value : Value) :
      Step store (store.put location value)
  | newObject (store : Store) (typeName : String) : Step store (store.newObject typeName).2

abbrev Run : Store → Store → Prop := Relation.ReflTransGen Step

theorem nextNumber_put (store : Store) (location : Location) (value : Value) :
    (store.put location value).nextNumber = store.nextNumber := by
  unfold put
  split <;> rfl

theorem nextNumber_assign (store : Store) (location : Location) (value : Value) :
    (store.assign location value).nextNumber = store.nextNumber := by
  unfold assign
  split
  · exact nextNumber_put store location value
  · rfl

def putAll (store : Store) (cells : List (Location × Value)) : Store :=
  cells.foldl (fun current cell => current.put cell.1 cell.2) store

theorem run_putAll (store : Store) (cells : List (Location × Value)) :
    Run store (store.putAll cells) := by
  induction cells generalizing store with
  | nil => exact .refl
  | cons cell rest ih => exact .head (.put store cell.1 cell.2) (ih _)

/-- What is found after values have been put was there before or is one of them. -/
theorem get?_putAll_cases {store : Store} {cells : List (Location × Value)} {location : Location}
    {value : Value} (found : (store.putAll cells).get? location = some value) :
    store.get? location = some value ∨ (location, value) ∈ cells := by
  induction cells generalizing store with
  | nil => exact .inl found
  | cons cell rest ih =>
      rcases ih found with before | later
      · rw [get?_put] at before
        split at before
        · next own =>
          rw [← own.1, ← Option.some.inj before]
          exact .inr List.mem_cons_self
        · exact .inl before
      · exact .inr (List.mem_cons_of_mem _ later)

theorem putSlots_eq_putAll (store : Store) (object : ObjectRef) (slots : List (String × Value)) :
    store.putSlots object slots =
      store.putAll (slots.map fun slot => (.slot object slot.1, slot.2)) := by
  rw [putSlots, putAll, List.foldl_map]

theorem run_newInstance (store : Store) (typeName : String) (slots : List (String × Value)) :
    Run store (store.newInstance typeName slots).2 := by
  refine .head (.newObject store typeName) ?_
  rw [newInstance, putSlots_eq_putAll]
  exact run_putAll _ _

theorem get?_newInstance_cases {store : Store} {typeName : String} {slots : List (String × Value)}
    {location : Location} {value : Value}
    (found : (store.newInstance typeName slots).2.get? location = some value) :
    store.get? location = some value ∨
      ∃ slot ∈ slots, location = .slot (store.newInstance typeName slots).1 slot.1 ∧
        value = slot.2 := by
  rw [newInstance, putSlots_eq_putAll] at found
  rcases get?_putAll_cases found with before | fresh
  · exact .inl before
  · obtain ⟨slot, listed, same⟩ := List.mem_map.mp fresh
    rw [Prod.mk.injEq] at same
    exact .inr ⟨slot, listed, same.1.symm, same.2.symm⟩

end Store

namespace Registry

variable {registry : Registry} {name slot : String} {field : Field}

theorem exists_field_of_mem_freshSlots {chain : List TypeDecl} {slot : String × Value}
    (listed : slot ∈ freshSlots chain) :
    ∃ decl ∈ chain, ∃ field ∈ decl.fields, field.isStatic = false ∧
      slot = (field.name, field.initialValue) := by
  obtain ⟨decl, inChain, listed⟩ := List.mem_flatMap.mp listed
  obtain ⟨field, declared, same⟩ := List.mem_map.mp listed
  obtain ⟨declared, ofInstances⟩ := List.mem_filter.mp declared
  rw [Bool.not_eq_true'] at ofInstances
  exact ⟨decl, List.mem_reverse.mp inChain, field, declared, ofInstances, same.symm⟩

/-- Only a registered class that is not abstract has instances. -/
theorem instanceChain_eq_ok {chain : List TypeDecl}
    (admitted : registry.instanceChain name = .ok chain) :
    registry.hierarchy name = .ok chain ∧
      ∃ decl, registry.lookup? name = some decl ∧ decl.isAbstract = false := by
  unfold instanceChain at admitted
  cases walked : registry.hierarchy name with
  | error error =>
      rw [walked] at admitted
      cases admitted
  | ok whole =>
      rw [walked] at admitted
      dsimp only at admitted
      split at admitted
      · cases admitted
      · next concrete =>
        cases admitted
        obtain ⟨decl, registered, _, _, linked⟩ := hierarchy_chain walked
        refine ⟨rfl, decl, registered, ?_⟩
        cases linked with
        | last | link => simpa using concrete

theorem allocate_eq_ok {before made : Store} {object : ObjectRef}
    (allocated : registry.allocate name before = .ok object made) :
    ∃ chain, registry.hierarchy name = .ok chain ∧
      (object, made) = before.newInstance name (freshSlots chain) := by
  unfold allocate at allocated
  cases admitted : registry.instanceChain name with
  | error error =>
      rw [admitted] at allocated
      cases allocated
  | ok chain =>
      rw [admitted] at allocated
      cases allocated
      exact ⟨chain, (instanceChain_eq_ok admitted).1, rfl⟩

theorem allocate_eq_error {store after : Store} {error : AccessError}
    (failed : registry.allocate name store = .error error after) :
    registry.instanceChain name = .error error ∧ store = after := by
  unfold allocate at failed
  cases admitted : registry.instanceChain name with
  | ok chain =>
      rw [admitted] at failed
      cases failed
  | error raised =>
      rw [admitted] at failed
      obtain ⟨rfl, rfl⟩ := EStateM.Result.error.inj failed
      exact ⟨rfl, rfl⟩

end Registry

end Introspection
