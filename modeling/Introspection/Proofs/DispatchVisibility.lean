import Introspection.Proofs.AccessorFailure
import Introspection.Proofs.Dispatch
import Introspection.Proofs.TableBuilder

/-!
# The visibility of the body that runs

A call is checked for the method that it names, and the body is chosen afterwards, by the class
of the target. What dispatch chooses is the nearest override (`Registry.NearestOverride`) or,
where there is none, the method itself. So permission to invoke public methods alone makes the
named method public, and the body that runs is public exactly when the nearest override is
(`runsByDispatch_of_build`); an override that is not public runs all the same.
-/

set_option autoImplicit false

namespace Introspection

namespace Registry

variable {registry : Registry} {runtimeType : String} {method ran : Method}

/-- The method that a call of a public method reaches is public exactly when the nearest override
is, if there is one. -/
theorem isPublic_iff_of_implementation? (isPublic : method.modifiers.isPublic = true)
    (dispatched : registry.implementation? runtimeType method = some ran) :
    ran.modifiers.isPublic = true ↔
      ∀ override, registry.NearestOverride runtimeType method override →
        override.modifiers.isPublic = true := by
  rcases implementation?_cases dispatched with nearest | ⟨rfl, none⟩
  · constructor
    · intro visible override other
      rw [other.unique nearest]
      exact visible
    · intro visible
      exact visible ran nearest
  · constructor
    · intro _ override nearest
      exact absurd nearest (none override)
    · intro _
      exact isPublic

end Registry

theorem Permissions.isPublic_of_allowsInvoke {permissions : Permissions} {isPublic : Bool}
    (withheld : permissions.contains .invokePrivate = false)
    (allowed : permissions.allowsInvoke isPublic = true) : isPublic = true := by
  cases isPublic with
  | true => rfl
  | false => exact absurd (withheld.symm.trans allowed) (by decide)

namespace Access

variable {access : Access} {method ran : Method} {target : ObjectRef} {arguments : List Value}

theorem call_eq_error_of_ran? (none : access.ran? method target arguments = none) :
    ∃ error, ∀ store, access.call method target arguments store = .error error store := by
  unfold ran? at none
  split at none
  · cases none
  · next error refused =>
    refine ⟨error, ?_⟩
    intro store
    rw [call, refused]

theorem reached_of_ran? (some : access.ran? method target arguments = some ran) :
    ∃ body, access.reached method target arguments = .ok (ran, body) := by
  unfold ran? at some
  split at some
  · next same body found =>
    rw [Option.some.injEq] at some
    exact ⟨body, some ▸ found⟩
  · cases some

end Access

namespace Accessor

/-- An accessor either is refused or runs one body, chosen by dispatch from a public method; that
body is public exactly when the nearest override of the method is. -/
structure RunsByDispatch (accessor : Accessor) (access : Access) : Prop where
  /-- An invocation is a call of the method, and loses the result of a `void` method. -/
  invoked : ∀ method, accessor.method? = some method → ∀ target argument,
    accessor.invoke access target argument =
      (fun result => if method.returns = .void then none else some result) <$>
        access.call method target argument.toList
  refused : ∀ method, accessor.method? = some method → ∀ target arguments,
    accessor.ran? access target arguments = none →
      ∃ error, ∀ store, access.call method target arguments store = .error error store
  ran : ∀ target arguments ran, accessor.ran? access target arguments = some ran →
    ∃ method body, accessor.method? = some method ∧ method.modifiers.isPublic = true ∧
      access.registry.implementation? target.typeName method = some ran ∧
      ran.body = some body ∧
      (∀ store, access.call method target arguments store = body target arguments store) ∧
      (ran.modifiers.isPublic = true ↔
        ∀ override, access.registry.NearestOverride target.typeName method override →
          override.modifiers.isPublic = true)

theorem invoke_eq_map_call {accessor : Accessor} {method : Method} (access : Access)
    (backed : accessor.method? = some method) (target : ObjectRef) (argument : Option Value) :
    accessor.invoke access target argument =
      (fun result => if method.returns = .void then none else some result) <$>
        access.call method target argument.toList := by
  cases accessor with
  | getter own | setter own =>
      cases backed
      exact invokeMethod_eq_map_call access _ target argument
  | reads | writes => cases backed

theorem runsByDispatch (accessor : Accessor) {access : Access}
    (withheld : access.permissions.contains .invokePrivate = false) :
    accessor.RunsByDispatch access where
  invoked _ backed := invoke_eq_map_call access backed
  refused method backed target arguments none := by
    rw [ran?, backed, Option.bind_some] at none
    exact Access.call_eq_error_of_ran? none
  ran target arguments ran some := by
    obtain ⟨method, backed, some⟩ := Option.bind_eq_some_iff.mp some
    obtain ⟨body, found⟩ := Access.reached_of_ran? some
    obtain ⟨allowed, _, _, _, dispatched, written⟩ := Access.reached_eq_ok found
    have isPublic := Permissions.isPublic_of_allowsInvoke withheld allowed
    refine ⟨method, body, backed, isPublic, dispatched, written, ?_,
      Registry.isPublic_iff_of_implementation? isPublic dispatched⟩
    intro store
    rw [Access.call, found]

end Accessor

namespace TableBuilder

/-- Every accessor of a table built without the permission to invoke non-public methods runs
public bodies alone, except where the nearest override of the method behind it is not public. -/
theorem runsByDispatch_of_build {builder : TableBuilder} {name : String} {table : PropertyTable}
    (withheld : builder.permissions.contains .invokePrivate = false)
    (built : builder.build name = .ok table) (accessor : Accessor) :
    accessor.RunsByDispatch table.access := by
  obtain ⟨stages⟩ := nonempty_stages built
  rw [stages.access_eq]
  exact accessor.runsByDispatch withheld

def openPin : Method :=
  { Method.ofHeader "getPin" [] (.primitive .int) with
    declaring := "Safe", body := some (Body.constant (.int 1)) }

def hiddenPin : Method :=
  { Method.ofHeader "getPin" [] (.primitive .int) with
    modifiers := .ofList [.protectedAccess]
    declaring := "DeepSafe", body := some (Body.constant (.int 2)) }

def safes : Registry :=
  (Registry.builtin.register ((TypeDecl.ofClass "Safe").addMethod openPin)).register
    ({ TypeDecl.ofClass "DeepSafe" with superclass := some (.named "Safe") }.addMethod hiddenPin)

theorem exists_table_safes :
    ∃ table, { ofRegistry safes with permissions := .publicOnly }.build "Safe" = .ok table ∧
      table.getter "pin" = .ok (.getter openPin) := by
  have succeeds :
      ({ ofRegistry safes with permissions := .publicOnly }.build "Safe").isOk = true := by decide
  obtain ⟨table, built⟩ := Fallible.exists_of_isOk succeeds
  have answered : ({ ofRegistry safes with permissions := .publicOnly }.build "Safe").bind
      (·.getter "pin") = .ok (.getter openPin) := rfl
  rw [built] at answered
  exact ⟨table, built, answered⟩

theorem runsByDispatch_of_build_safes :
    Permissions.publicOnly.contains .invokePrivate = false ∧
    ∃ table, { ofRegistry safes with permissions := .publicOnly }.build "Safe" = .ok table ∧
      table.getter "pin" = .ok (.getter openPin) ∧
      (Accessor.getter openPin).RunsByDispatch table.access := by
  have withheld : Permissions.publicOnly.contains .invokePrivate = false := by decide
  obtain ⟨table, built, answered⟩ := exists_table_safes
  exact ⟨withheld, table, built, answered, runsByDispatch_of_build withheld built _⟩

/-- On an object of the subclass the getter for public access runs the protected body. -/
theorem runs_override_not_public_safes :
    Permissions.publicOnly.contains .invokePrivate = false ∧
    ∃ table target store,
      { ofRegistry safes with permissions := .publicOnly }.build "Safe" = .ok table ∧
      table.getter "pin" = .ok (.getter openPin) ∧
      safes.allocate "DeepSafe" safes.initialStore = .ok target store ∧
      (Accessor.getter openPin).ran? table.access target [] = some hiddenPin ∧
      hiddenPin.modifiers.isPublic = false ∧
      (Accessor.getter openPin).invoke table.access target none store =
        .ok (some (.int 2)) store := by
  obtain ⟨table, built, answered⟩ := exists_table_safes
  obtain ⟨stages⟩ := nonempty_stages built
  refine ⟨by decide, table, _, _, built, answered, rfl, ?_⟩
  rw [stages.access_eq]
  exact ⟨rfl, by decide, rfl⟩

end TableBuilder

end Introspection
