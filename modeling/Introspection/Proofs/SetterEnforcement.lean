import Introspection.Proofs.Resolution
import Introspection.Proofs.SetterAcceptance

/-!
# What setters enforce

A value that a setter has taken passed the accessor's own check, and that is against the declared
type, erased in the type that declares the member. Only a type variable, or an array of one, means
something narrower in the described type than where it is declared; for all other declared types
a value that was taken conforms to the promised type.
-/

set_option autoImplicit false

namespace Introspection

namespace Registry

variable {registry : Registry}

-- Erasure replaces variables and drops type arguments, and values never see type arguments.
theorem conforms_eraseWith (erasure : String → TypeExpr) {type : TypeExpr}
    (outer : type.isVariable = false) (value : Value) :
    registry.conforms value (type.eraseWith erasure) = registry.conforms value type := by
  induction type using TypeExpr.rec (motive_2 := fun _ => True) generalizing value with
  | void | primitive | named => rfl
  | var => cases outer
  | applied raw arguments => exact (conforms_eq_of_rawName? value rfl).symm
  | array element ih =>
      cases value with
      | array items =>
          simp only [TypeExpr.eraseWith, conforms, ih outer]
      | _ => rfl
  | nil | cons => trivial

theorem conforms_erase (decl : TypeDecl) {type : TypeExpr} (outer : type.isVariable = false)
    (value : Value) : registry.conforms value (decl.erase type) = registry.conforms value type :=
  conforms_eraseWith _ outer value

theorem conforms_eraseIn (declaring : String) {type : TypeExpr} (outer : type.isVariable = false)
    (value : Value) :
    registry.conforms value (registry.eraseIn declaring type) = registry.conforms value type := by
  unfold eraseIn
  split
  · next decl _ => exact conforms_erase decl outer value
  · rfl

theorem conforms_generic (declaring context : TypeDecl) {type : TypeExpr}
    (outer : type.isVariable = false) (value : Value) :
    registry.conforms value (TypeResolver.generic registry type declaring context) =
      registry.conforms value type := by
  rw [TypeResolver.generic_eq_erase registry declaring context outer]
  exact conforms_erase declaring outer value

end Registry

namespace Accessor

variable {accessor : Accessor} {access : Access} {target : ObjectRef} {argument : Option Value}
  {store after : Store}

def declaredType? : Accessor → Option TypeExpr
  | setter method => method.parameters.head?
  | writes field => some field.type
  | getter _ | reads _ => none

/-- Where an invocation succeeds, the arguments passed the check. -/
theorem conforms_of_invoke {result : Option Value}
    (succeeded : accessor.invoke access target argument store = .ok result after) :
    ∀ pair ∈ (accessor.argumentTypes access).zip argument.toList,
      access.registry.conforms pair.2 pair.1 = true := by
  rw [invoke_eq_checked] at succeeded
  cases decided : accessor.checked access target argument with
  | error raised =>
      rw [decided] at succeeded
      cases succeeded
  | ok rest =>
      clear succeeded
      cases accessor with
      | getter method | setter method =>
          obtain ⟨⟨ran, body⟩, found, _⟩ := Fallible.map_eq_ok_iff.mp decided
          obtain ⟨_, _, _, typed, _⟩ := Access.reached_eq_ok found
          exact typed
      | reads field => exact fun _ listed => nomatch listed
      | writes field =>
          cases argument with
          | none => exact fun _ listed => nomatch listed
          | some value =>
              obtain ⟨location, found, _⟩ := Fallible.map_eq_ok_iff.mp decided
              obtain ⟨typed, _⟩ := Access.checks_of_writeLocation found
              intro pair listed
              rw [List.mem_singleton.mp listed]
              exact typed

theorem set_eq_ok_iff {value : Value} :
    accessor.set access target value store = .ok () after ↔
      ∃ result, accessor.invoke access target (some value) store = .ok result after := by
  show EStateM.bind (accessor.invoke access target (some value)) _ store = _ ↔ _
  unfold EStateM.bind
  cases accessor.invoke access target (some value) store <;> simp [pure, EStateM.pure]

theorem conforms_of_set {value : Value} {type : TypeExpr}
    (checks : accessor.argumentTypes access = [type])
    (succeeded : accessor.set access target value store = .ok () after) :
    access.registry.conforms value type = true := by
  obtain ⟨result, invoked⟩ := set_eq_ok_iff.mp succeeded
  refine conforms_of_invoke invoked (type, value) ?_
  rw [checks]
  exact List.mem_singleton_self _

end Accessor

namespace TableBuilder

variable {builder : TableBuilder} {name : String} {table : PropertyTable} {property : String}

/-- The type that a setter checks and the type that it promises, from the one that is declared. -/
theorem Stages.exists_declaredType (stages : Stages builder name table)
    (generic : builder.resolver = .generic) {entry : Property}
    (stored : stages.paired.setters.get? property = some entry) :
    ∃ declared, entry.accessor.declaredType? = some declared ∧
      entry.accessor.argumentTypes builder.access =
        [builder.registry.eraseIn entry.accessor.declaring declared] ∧
      ∃ declaring, entry.type =
        TypeResolver.generic builder.registry declared declaring stages.decl := by
  rcases (stages.setter_cases stored).2 with
    ⟨winner, parameter, type, _, single, resolved, rfl⟩ | ⟨_, source, _, rfl⟩
  · obtain ⟨declaring, _, rfl⟩ := Fallible.map_eq_ok_iff.mp resolved
    refine ⟨parameter, ?_, ?_, declaring, ?_⟩
    · rw [Accessor.declaredType?, single, List.head?_cons]
    · show winner.parameters.map (builder.registry.eraseIn winner.declaring) = _
      rw [single]
      rfl
    · rw [generic]
  · refine ⟨source.2.type, rfl, rfl, source.1, ?_⟩
    rw [fieldProperty, generic]

/-- A value that a setter has taken conforms to the erasure of the declared type and, unless that
is a variable or an array of one, to the promised type. -/
theorem conforms_of_set_of_build (generic : builder.resolver = .generic)
    (built : builder.build name = .ok table) (listed : property ∈ table.writable) :
    ∃ accessor type declared, table.setter property = .ok accessor ∧
      table.setterType property = .ok type ∧ accessor.declaredType? = some declared ∧
      ∀ target value store after,
        accessor.set table.access target value store = .ok () after →
          builder.registry.conforms value
            (builder.registry.eraseIn accessor.declaring declared) = true ∧
          (declared.isVariable = false → builder.registry.conforms value type = true) := by
  obtain ⟨stages⟩ := nonempty_stages built
  obtain ⟨entry, stored⟩ := stages.mem_writable_iff.mp listed
  obtain ⟨declared, writes, checks, declaring, promised⟩ :=
    stages.exists_declaredType generic stored
  refine ⟨entry.accessor, entry.type, declared,
    stages.setter_eq_ok_iff.mpr ⟨entry, stored, rfl⟩,
    stages.setterType_eq_ok_iff.mpr ⟨entry, stored, rfl⟩, writes, ?_⟩
  intro target value store after taken
  rw [stages.access_eq] at taken
  have enforced : builder.registry.conforms value _ = true := Accessor.conforms_of_set checks taken
  refine ⟨enforced, ?_⟩
  intro outer
  rw [promised, Registry.conforms_generic _ _ outer]
  rw [Registry.conforms_eraseIn _ outer] at enforced
  exact enforced

def setId : Method := { Method.setterOf "setId" "id" (.var "T") with declaring := "Entity" }

def setAlias : Method :=
  { Method.setterOf "setAlias" "id" (.named "String") with declaring := "Entity" }

def users : Registry :=
  (Registry.builtin.register
      ((({ TypeDecl.ofClass "Entity" with parameters := [⟨"T", none⟩] }.addField
        ⟨"id", .root, .empty, none, ""⟩).addMethod setId).addMethod setAlias)).register
    { TypeDecl.ofClass "User" with superclass := some (.applied "Entity" [.named "Long"]) }

theorem conforms_of_set_of_build_users :
    ∃ table, (ofRegistry users).build "User" = .ok table ∧
      table.setter "alias" = .ok (.setter setAlias) ∧
      table.setterType "alias" = .ok (.named "String") ∧
      ∀ target value store after,
        (Accessor.setter setAlias).set table.access target value store = .ok () after →
          users.conforms value (.named "String") = true := by
  have succeeds : ((ofRegistry users).build "User").isOk = true := by decide
  obtain ⟨table, built⟩ := Fallible.exists_of_isOk succeeds
  have listed : ((ofRegistry users).build "User").map PropertyTable.writable =
      .ok ["id", "alias"] := by decide
  have answered : ((ofRegistry users).build "User").bind (·.setter "alias") =
      .ok (.setter setAlias) := rfl
  have promised : ((ofRegistry users).build "User").bind (·.setterType "alias") =
      .ok (.named "String") := by decide
  rw [built] at listed answered promised
  have writable : "alias" ∈ table.writable := by
    rw [Except.ok.inj listed]
    decide
  obtain ⟨accessor, type, declared, found, typed, writes, enforced⟩ :=
    conforms_of_set_of_build rfl built writable
  obtain rfl : .setter setAlias = accessor := Except.ok.inj (answered.symm.trans found)
  obtain rfl : .named "String" = type := Except.ok.inj (promised.symm.trans typed)
  obtain rfl : .named "String" = declared := Option.some.inj writes
  refine ⟨table, built, answered, promised, ?_⟩
  intro target value store after taken
  exact (enforced target value store after taken).2 rfl

/-- The setter of the variable takes a text where a `Long` is promised. -/
theorem not_conforms_of_set_users :
    ∃ table, (ofRegistry users).build "User" = .ok table ∧
      table.setter "id" = .ok (.setter setId) ∧ table.setterType "id" = .ok (.named "Long") ∧
      ∃ target store, users.allocate "User" users.initialStore = .ok target store ∧
        (∃ after,
          (Accessor.setter setId).set table.access target (.string "none") store = .ok () after) ∧
        users.conforms (.string "none") (.named "Long") = false := by
  have succeeds : ((ofRegistry users).build "User").isOk = true := by decide
  obtain ⟨table, built⟩ := Fallible.exists_of_isOk succeeds
  have answered : ((ofRegistry users).build "User").bind (·.setter "id") = .ok (.setter setId) :=
    rfl
  have promised : ((ofRegistry users).build "User").bind (·.setterType "id") =
      .ok (.named "Long") := by decide
  rw [built] at answered promised
  obtain ⟨stages⟩ := nonempty_stages built
  refine ⟨table, built, answered, promised, _, _, rfl, ?_, by decide⟩
  rw [stages.access_eq]
  exact ⟨_, rfl⟩

end TableBuilder

end Introspection
