import Introspection.Proofs.InstanceAccess
import Introspection.Proofs.Narrowing

/-!
# Setters accept what they promise

The type of a setter is resolved in the described type, while the accessor checks its argument
against the erasure in the declaring type. Resolving only narrows and conforming values can be
stored wherever their type can, so a value of the promised type passes the check. Whoever
still sees a mismatched argument has it from the body of the method.
-/

set_option autoImplicit false

namespace Introspection

namespace Registry

variable {registry : Registry} {decl : TypeDecl}

theorem eraseIn_of_lookup? {name : String} (registered : registry.lookup? name = some decl)
    (type : TypeExpr) : registry.eraseIn name type = decl.erase type := by
  rw [eraseIn, registered]

end Registry

namespace Accessor

variable {accessor : Accessor} {access : Access} {target : ObjectRef} {argument : Option Value}
  {member actual : String} {expected : TypeExpr}

theorem set_eq_error_iff {value : Value} {store after : Store} {error : AccessError} :
    accessor.set access target value store = .error error after ↔
      accessor.invoke access target (some value) store = .error error after := by
  show EStateM.bind (accessor.invoke access target (some value)) _ store = _ ↔ _
  unfold EStateM.bind
  cases accessor.invoke access target (some value) store <;> simp [pure, EStateM.pure]

/-- A mismatch that the accessor's own check did not report was raised by a body. -/
theorem exists_body_of_argumentMismatch
    (admits : accessor.checked access target argument ≠
      .error (.argumentMismatch member expected actual)) {store after : Store}
    (failed : accessor.invoke access target argument store =
      .error (.argumentMismatch member expected actual) after) :
    ∃ method reached body, accessor.method? = some method ∧
      access.reached method target argument.toList = .ok (reached, body) ∧
      body target argument.toList store =
        .error (.argumentMismatch member expected actual) after := by
  generalize raised : AccessError.argumentMismatch member expected actual = error at *
  cases failure_of_invoke failed with
  | refused error decided => exact absurd decided admits
  | missing field => cases raised
  | body method ran body error after backed found failed =>
      exact ⟨method, ran, body, backed, found, failed⟩

/-- The accessor never refuses the value for its type: the check passes, and a mismatch seen when
the value is set was raised by the body of the method behind the accessor. -/
def AcceptsValue (accessor : Accessor) (access : Access) (value : Value) : Prop :=
  ∀ target member expected actual,
    accessor.checked access target (some value) ≠
      .error (.argumentMismatch member expected actual) ∧
    ∀ store after, accessor.set access target value store =
        .error (.argumentMismatch member expected actual) after →
      ∃ method reached body, accessor = .setter method ∧
        access.reached method target [value] = .ok (reached, body) ∧
        body target [value] store = .error (.argumentMismatch member expected actual) after

theorem acceptsValue_of_conforms (writing : ∀ method, accessor ≠ .getter method) {type : TypeExpr}
    (checks : accessor.argumentTypes access = [type]) {value : Value}
    (conforms : access.registry.conforms value type = true) :
    accessor.AcceptsValue access value := by
  intro target member expected actual
  have admits : accessor.checked access target (some value) ≠
      .error (.argumentMismatch member expected actual) := by
    apply checked_ne_argumentMismatch
    intro pair paired
    rw [checks] at paired
    rw [List.mem_singleton.mp paired]
    exact conforms
  refine ⟨admits, ?_⟩
  intro store after failed
  obtain ⟨method, reached, body, backed, found, raised⟩ :=
    exists_body_of_argumentMismatch admits (set_eq_error_iff.mp failed)
  refine ⟨method, reached, body, ?_, found, raised⟩
  cases accessor with
  | getter own => exact absurd rfl (writing own)
  | setter own =>
      cases backed
      rfl
  | reads | writes => cases backed

end Accessor

namespace TableBuilder

variable {builder : TableBuilder} {name : String} {table : PropertyTable} {property : String}

/-- A setter checks its argument against a type in which the promised type can be stored. -/
theorem Stages.exists_argumentType (stages : Stages builder name table)
    (bare : builder.registry.RootIsBare) (known : builder.registry.MembersKnowTheirType)
    (within : builder.registry.ArgumentsWithinBounds) (generic : builder.resolver = .generic)
    {entry : Property} (stored : stages.paired.setters.get? property = some entry) :
    ∃ checkedType, entry.accessor.argumentTypes builder.access = [checkedType] ∧
      builder.registry.isAssignable checkedType entry.type = true := by
  have registered := Registry.lookup?_name stages.registered
  rcases (stages.setter_cases stored).2 with
    ⟨winner, parameter, type, _, single, resolved, rfl⟩ | ⟨_, source, nearest, rfl⟩
  · obtain ⟨declaring, required, rfl⟩ := Fallible.map_eq_ok_iff.mp resolved
    have found := Registry.require_eq_ok_iff.mp required
    refine ⟨declaring.erase parameter, ?_, ?_⟩
    · show winner.parameters.map (builder.registry.eraseIn winner.declaring) = _
      rw [single, List.map_singleton, Registry.eraseIn_of_lookup? found]
    · rw [generic]
      exact Registry.isAssignable_generic bare within (Registry.lookup?_name found) registered
        parameter
  · obtain ⟨inChain, declared, _⟩ := nearestField?_eq_some nearest
    have found := Registry.lookup?_of_mem_hierarchy stages.walked inChain
    refine ⟨source.1.erase source.2.type, ?_, ?_⟩
    · have declaring := (known _ _ found).1 source.2 declared
      show [builder.registry.eraseIn source.2.declaring source.2.type] = _
      rw [declaring, Registry.eraseIn_of_lookup? found]
    · rw [fieldProperty, generic]
      exact Registry.isAssignable_generic bare within found registered source.2.type

theorem Stages.setter_ne_getter (stages : Stages builder name table) {entry : Property}
    (stored : stages.paired.setters.get? property = some entry) (method : Method) :
    entry.accessor ≠ .getter method := by
  intro reading
  rcases (stages.setter_cases stored).2 with ⟨_, _, _, _, _, _, rfl⟩ | ⟨_, _, _, rfl⟩
  · cases reading
  · cases reading

/-- Every property that is listed as writable has a setter that accepts the values of its type. -/
theorem accepts_setterType_of_build (bare : builder.registry.RootIsBare)
    (known : builder.registry.MembersKnowTheirType)
    (within : builder.registry.ArgumentsWithinBounds) (generic : builder.resolver = .generic)
    (built : builder.build name = .ok table) (listed : property ∈ table.writable) :
    ∃ accessor type, table.setter property = .ok accessor ∧
      table.setterType property = .ok type ∧
      ∀ value, builder.registry.conforms value type = true →
        accessor.AcceptsValue table.access value := by
  obtain ⟨stages⟩ := nonempty_stages built
  obtain ⟨entry, stored⟩ := stages.mem_writable_iff.mp listed
  obtain ⟨checkedType, checks, assignable⟩ :=
    stages.exists_argumentType bare known within generic stored
  refine ⟨entry.accessor, entry.type, stages.setter_eq_ok_iff.mpr ⟨entry, stored, rfl⟩,
    stages.setterType_eq_ok_iff.mpr ⟨entry, stored, rfl⟩, ?_⟩
  intro value conforms
  rw [stages.access_eq]
  exact Accessor.acceptsValue_of_conforms (stages.setter_ne_getter stored) checks
    (Registry.conforms_of_isAssignable bare assignable conforms)

/-- A parameter bounded by `Number` is narrowed to one bounded by `Long`, which the lowest class
leaves open. -/
def keyed : Registry :=
  ((Registry.builtin.register
      ({ TypeDecl.ofClass "Entity" with parameters := [⟨"ID", some (.named "Number")⟩] }.addMethod
        (.setterOf "setKeys" "keys" (.array (.var "ID"))))).register
    { TypeDecl.ofClass "Stored" with
      parameters := [⟨"K", some (.named "Long")⟩]
      superclass := some (.applied "Entity" [.var "K"]) }).register
    { TypeDecl.ofClass "User" with superclass := some (.named "Stored") }

theorem accepts_setterType_of_build_keyed :
    ∃ table accessor, (ofRegistry keyed).build "User" = .ok table ∧
      table.setter "keys" = .ok accessor ∧
      table.setterType "keys" = .ok (.array (.named "Long")) ∧
      keyed.conforms (.array [.int 7, .null]) (.array (.named "Long")) = true ∧
      accessor.AcceptsValue table.access (.array [.int 7, .null]) := by
  have bare : keyed.RootIsBare := Registry.rootIsBare_of_lookup? rfl rfl
  have known : keyed.MembersKnowTheirType :=
    Registry.membersKnowTheirType_of_declarations (by decide)
  have within : keyed.ArgumentsWithinBounds :=
    Registry.argumentsWithinBounds_of_declarations (by decide)
  have succeeds : ((ofRegistry keyed).build "User").isOk = true := by decide
  obtain ⟨table, built⟩ := Fallible.exists_of_isOk succeeds
  have listed : ((ofRegistry keyed).build "User").map PropertyTable.writable = .ok ["keys"] := by
    decide
  have promised : ((ofRegistry keyed).build "User").bind (·.setterType "keys") =
      .ok (.array (.named "Long")) := by decide
  rw [built] at listed promised
  have writable : "keys" ∈ table.writable := by
    rw [Except.ok.inj listed]
    exact List.mem_singleton_self _
  obtain ⟨accessor, type, found, typed, accepts⟩ :=
    accepts_setterType_of_build bare known within rfl built writable
  obtain rfl : TypeExpr.array (.named "Long") = type :=
    Except.ok.inj (promised.symm.trans typed)
  have conforms : keyed.conforms (.array [.int 7, .null]) (.array (.named "Long")) = true := by
    decide
  exact ⟨table, accessor, built, found, typed, conforms, accepts _ conforms⟩

end TableBuilder

end Introspection
