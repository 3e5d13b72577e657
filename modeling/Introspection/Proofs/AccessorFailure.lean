import Introspection.Proofs.AccessorChecks

/-!
# How an invocation fails

An invocation fails in one of three ways (`Accessor.Failure`): a check of the accessor refuses it,
so that no body runs, a field has no value where it is kept, or the body that was reached fails.
Whatever is to be known of an error of an accessor is read off these cases.
-/

set_option autoImplicit false

namespace Introspection

namespace Action

variable {α β : Type} {store after : Store} {error : AccessError}

theorem map_eq_error_iff {action : Action α} {result : α → β} :
    (result <$> action) store = .error error after ↔ action store = .error error after := by
  show EStateM.map result action store = .error error after ↔ _
  unfold EStateM.map
  cases action store <;> simp

theorem bind_eq_error_iff {action : Action α} {next : α → Action β} :
    (action >>= next) store = .error error after ↔
      action store = .error error after ∨
        ∃ value middle, action store = .ok value middle ∧ next value middle = .error error after := by
  show EStateM.bind action next store = .error error after ↔ _
  unfold EStateM.bind
  cases action store <;> simp

theorem map_eq_ok_iff {action : Action α} {result : α → β} {final : β} :
    (result <$> action) store = .ok final after ↔
      ∃ value, action store = .ok value after ∧ result value = final := by
  show EStateM.map result action store = .ok final after ↔ _
  unfold EStateM.map
  cases action store <;> simp [and_comm]

theorem throw_eq_error_iff {raised : AccessError} :
    (throw raised : Action α) store = .error error after ↔ raised = error ∧ store = after := by
  show EStateM.Result.error raised store = .error error after ↔ _
  rw [EStateM.Result.error.injEq]

end Action

namespace Location

variable {location : Location} {store after : Store} {error : AccessError}

theorem load_eq_error_iff :
    location.load store = .error error after ↔
      store.get? location = none ∧ location.missing = error ∧ store = after := by
  unfold load
  cases store.get? location <;> simp

theorem save_eq_error_iff {value : Value} :
    location.save value store = .error error after ↔
      store.get? location = none ∧ location.missing = error ∧ store = after := by
  unfold save
  cases store.get? location <;> simp

end Location

def Access.ran? (access : Access) (method : Method) (target : ObjectRef) (arguments : List Value) :
    Option Method :=
  match access.reached method target arguments with
  | .ok (ran, _) => some ran
  | .error _ => none

namespace Accessor

def field? : Accessor → Option Field
  | getter _ | setter _ => none
  | reads field | writes field => some field

def ran? (accessor : Accessor) (access : Access) (target : ObjectRef) (arguments : List Value) :
    Option Method :=
  accessor.method?.bind fun method => access.ran? method target arguments

variable {accessor : Accessor} {access : Access} {target : ObjectRef} {argument : Option Value}
  {store after : Store} {error : AccessError}

theorem ran?_eq_none_of_checked
    (decided : accessor.checked access target argument = .error error) :
    accessor.ran? access target argument.toList = none := by
  cases accessor with
  | getter method | setter method =>
      show access.ran? method target argument.toList = none
      rw [Access.ran?, Fallible.map_eq_error_iff.mp decided]
  | reads field | writes field => rfl

/-- How an invocation fails, and the store that it leaves behind. -/
inductive Failure (accessor : Accessor) (access : Access) (target : ObjectRef)
    (argument : Option Value) (store : Store) : AccessError → Store → Prop where
  /-- A check of the accessor refuses it: no body runs, and it would be refused in any store. -/
  | refused (error : AccessError)
      (decided : accessor.checked access target argument = .error error)
      (refusal : accessor.Refusal access target argument error)
      (idle : accessor.ran? access target argument.toList = none)
      (always : ∀ other, accessor.invoke access target argument other = .error error other) :
      Failure accessor access target argument store error store
  /-- There is no value where the field is kept. -/
  | missing (field : Field) (backed : accessor.field? = some field)
      (absent : store.get? (field.location target) = none) :
      Failure accessor access target argument store (field.location target).missing store
  /-- The body that dispatch reaches fails. -/
  | body (method ran : Method) (body : Body) (error : AccessError) (after : Store)
      (backed : accessor.method? = some method)
      (found : access.reached method target argument.toList = .ok (ran, body))
      (failed : body target argument.toList store = .error error after) :
      Failure accessor access target argument store error after

theorem refused_of_checked (decided : accessor.checked access target argument = .error error)
    (store : Store) : accessor.Failure access target argument store error store := by
  refine .refused error decided (refusal_of_checked decided) (ran?_eq_none_of_checked decided) ?_
  intro other
  rw [invoke_eq_checked, decided]
  rfl

theorem failure_of_invoke
    (failed : accessor.invoke access target argument store = .error error after) :
    accessor.Failure access target argument store error after := by
  rw [invoke_eq_checked] at failed
  cases decided : accessor.checked access target argument with
  | error raised =>
      rw [decided] at failed
      obtain ⟨rfl, rfl⟩ := Action.throw_eq_error_iff.mp failed
      exact refused_of_checked decided store
  | ok rest =>
      rw [decided] at failed
      cases accessor with
      | getter method | setter method =>
          obtain ⟨⟨ran, body⟩, found, rfl⟩ := Fallible.map_eq_ok_iff.mp decided
          exact .body method ran body error after rfl found (Action.map_eq_error_iff.mp failed)
      | reads field =>
          cases argument with
          | some value => cases decided
          | none =>
              obtain ⟨location, looked, rfl⟩ := Fallible.map_eq_ok_iff.mp decided
              obtain ⟨absent, rfl, rfl⟩ :=
                Location.load_eq_error_iff.mp (Action.map_eq_error_iff.mp failed)
              obtain rfl := Access.readLocation_eq_ok looked
              exact .missing field rfl absent
      | writes field =>
          cases argument with
          | none => cases decided
          | some value =>
              obtain ⟨location, looked, rfl⟩ := Fallible.map_eq_ok_iff.mp decided
              obtain ⟨absent, rfl, rfl⟩ :=
                Location.save_eq_error_iff.mp (Action.map_eq_error_iff.mp failed)
              obtain rfl := Access.writeLocation_eq_ok looked
              exact .missing field rfl absent

end Accessor

end Introspection
