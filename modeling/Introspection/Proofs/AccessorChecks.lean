import Introspection.Accessor
import Introspection.Proofs.Fallible

/-!
# What accessors check

An invocation first decides from the accessor, the target and the argument
whether it goes ahead, and only then runs a body or touches a location. The
decision is separated here from the rest (`invoke_eq_checked`), so that an error
of the accessor can be told from an error of the body it runs. Each decision is
taken apart once, into the checks that can refuse it (`Accessor.Refusal`).
-/

set_option autoImplicit false

namespace Introspection

namespace Access

variable {access : Access} {target : ObjectRef} {error : AccessError}

theorem checkTarget_eq_error_iff {declaring : String} :
    access.checkTarget declaring target = .error error ↔
      access.registry.isSubtype target.typeName declaring = false ∧
        error = .targetMismatch declaring target.typeName := by
  unfold checkTarget
  cases access.registry.isSubtype target.typeName declaring <;> simp [eq_comm]

theorem checkArgument_eq_error_iff {member : String} {type : TypeExpr} {value : Value} :
    access.checkArgument member type value = .error error ↔
      access.registry.conforms value type = false ∧
        error = .argumentMismatch member type value.kindName := by
  unfold checkArgument
  cases access.registry.conforms value type <;> simp [eq_comm]

theorem checkArguments_eq_error {member : String} {types : List TypeExpr} {values : List Value}
    (refused : access.checkArguments member types values = .error error) :
    ∃ type value, (type, value) ∈ types.zip values ∧
      access.registry.conforms value type = false ∧
      error = .argumentMismatch member type value.kindName := by
  induction types generalizing values with
  | nil => cases refused
  | cons type types ih =>
      cases values with
      | nil => cases refused
      | cons value values =>
          rw [checkArguments] at refused
          cases outcome : access.checkArgument member type value with
          | ok done =>
              rw [outcome] at refused
              obtain ⟨later, misfit, paired, refusal⟩ := ih refused
              exact ⟨later, misfit, List.mem_cons_of_mem _ paired, refusal⟩
          | error raised =>
              rw [outcome] at refused
              exact ⟨type, value, List.mem_cons_self,
                checkArgument_eq_error_iff.mp (refused ▸ outcome)⟩

/-- Why a call is refused before any body runs. -/
theorem reached_eq_error {method : Method} {arguments : List Value}
    (refused : access.reached method target arguments = .error error) :
    (access.permissions.allowsInvoke method.modifiers.isPublic = false ∧
        error = .accessDenied method.name method.declaring) ∨
      (access.registry.isSubtype target.typeName method.declaring = false ∧
        error = .targetMismatch method.declaring target.typeName) ∨
      (arguments.length ≠ method.parameters.length ∧
        error = .argumentCount method.name method.parameters.length arguments.length) ∨
      (∃ type value, (type, value) ∈ (access.parameterTypes method).zip arguments ∧
        access.registry.conforms value type = false ∧
        error = .argumentMismatch method.name type value.kindName) ∨
      ((access.registry.implementation? target.typeName method).bind Method.body = none ∧
        error = .abstractMethod method.name target.typeName) := by
  unfold reached at refused
  dsimp only at refused
  split at refused
  · next closed =>
    exact .inl ⟨by simpa using closed, Fallible.throw_bind_eq_error_iff.mp refused⟩
  rcases Fallible.bind_eq_error_iff.mp refused with mistarget | ⟨_, _, refused⟩
  · exact .inr (.inl (checkTarget_eq_error_iff.mp mistarget))
  split at refused
  · rename_i miscounted
    rw [parameterTypes, List.length_map] at miscounted
    have raised := Fallible.throw_bind_eq_error_iff.mp refused
    rw [parameterTypes, List.length_map] at raised
    exact .inr (.inr (.inl ⟨miscounted, raised⟩))
  rcases Fallible.bind_eq_error_iff.mp refused with misfit | ⟨_, _, refused⟩
  · exact .inr (.inr (.inr (.inl (checkArguments_eq_error misfit))))
  split at refused
  · next dispatched =>
    split at refused
    · cases refused
    · next bodiless =>
      exact .inr (.inr (.inr (.inr ⟨by rw [dispatched, Option.bind_some, bodiless],
        Fallible.throw_eq_error_iff.mp refused⟩)))
  · next unreached =>
    exact .inr (.inr (.inr (.inr ⟨by rw [unreached, Option.bind_none],
      Fallible.throw_eq_error_iff.mp refused⟩)))

/-- Why a read is refused before any location is looked at. -/
theorem readLocation_eq_error {field : Field}
    (refused : access.readLocation field target = .error error) :
    (access.permissions.allowsRead field.modifiers.isPublic = false ∧
        error = .accessDenied field.name field.declaring) ∨
      (access.registry.isSubtype target.typeName field.declaring = false ∧
        error = .targetMismatch field.declaring target.typeName) := by
  unfold readLocation at refused
  dsimp only at refused
  split at refused
  · next closed =>
    exact .inl ⟨by simpa using closed, Fallible.throw_bind_eq_error_iff.mp refused⟩
  split at refused
  · rcases Fallible.bind_eq_error_iff.mp refused with mistarget | ⟨_, _, refused⟩
    · exact .inr (checkTarget_eq_error_iff.mp mistarget)
    · cases refused
  · cases refused

/-- Why a write is refused before any location is touched. -/
theorem writeLocation_eq_error {field : Field} {value : Value}
    (refused : access.writeLocation field target value = .error error) :
    (access.permissions.allowsWrite field.modifiers.isPublic = false ∧
        error = .accessDenied field.name field.declaring) ∨
      (access.registry.conforms value (access.fieldType field) = false ∧
        error = .argumentMismatch field.name (access.fieldType field) value.kindName) ∨
      (access.registry.isSubtype target.typeName field.declaring = false ∧
        error = .targetMismatch field.declaring target.typeName) := by
  unfold writeLocation at refused
  dsimp only at refused
  split at refused
  · next closed =>
    exact .inl ⟨by simpa using closed, Fallible.throw_bind_eq_error_iff.mp refused⟩
  rcases Fallible.bind_eq_error_iff.mp refused with misfit | ⟨_, _, refused⟩
  · exact .inr (.inl (checkArgument_eq_error_iff.mp misfit))
  split at refused
  · rcases Fallible.bind_eq_error_iff.mp refused with mistarget | ⟨_, _, refused⟩
    · exact .inr (.inr (checkTarget_eq_error_iff.mp mistarget))
    · cases refused
  · cases refused

theorem conforms_of_checkArgument {member : String} {type : TypeExpr} {value : Value}
    (passed : access.checkArgument member type value = .ok ()) :
    access.registry.conforms value type = true := by
  unfold checkArgument at passed
  split at passed
  · assumption
  · cases passed

theorem isSubtype_of_checkTarget {declaring : String}
    (passed : access.checkTarget declaring target = .ok ()) :
    access.registry.isSubtype target.typeName declaring = true := by
  unfold checkTarget at passed
  split at passed
  · assumption
  · cases passed

theorem conforms_of_checkArguments {member : String} {types : List TypeExpr}
    {values : List Value} (passed : access.checkArguments member types values = .ok ()) :
    ∀ pair ∈ types.zip values, access.registry.conforms pair.2 pair.1 = true := by
  induction types generalizing values with
  | nil => simp
  | cons type types ih =>
      cases values with
      | nil => simp
      | cons value values =>
          rw [checkArguments] at passed
          split at passed
          · next first =>
              rw [List.zip_cons_cons, List.forall_mem_cons]
              exact ⟨conforms_of_checkArgument first, ih passed⟩
          · cases passed

/-- What holds when a call goes ahead, and where its body comes from. -/
theorem reached_eq_ok {method ran : Method} {arguments : List Value} {body : Body}
    (found : access.reached method target arguments = .ok (ran, body)) :
    access.permissions.allowsInvoke method.modifiers.isPublic = true ∧
      access.registry.isSubtype target.typeName method.declaring = true ∧
      arguments.length = method.parameters.length ∧
      (∀ pair ∈ (access.parameterTypes method).zip arguments,
        access.registry.conforms pair.2 pair.1 = true) ∧
      access.registry.implementation? target.typeName method = some ran ∧
      ran.body = some body := by
  unfold reached at found
  dsimp only at found
  split at found
  · cases found
  next allowed =>
  obtain ⟨_, targeted, found⟩ := Fallible.bind_eq_ok_iff.mp found
  split at found
  · cases found
  next counted =>
  obtain ⟨_, typed, found⟩ := Fallible.bind_eq_ok_iff.mp found
  split at found
  · next dispatched =>
      split at found
      · next backed =>
          cases found
          rw [parameterTypes, List.length_map, ne_eq, not_not] at counted
          rw [Bool.not_eq_true', Bool.not_eq_false] at allowed
          exact ⟨allowed, isSubtype_of_checkTarget targeted, counted,
            conforms_of_checkArguments typed, dispatched, backed⟩
      · cases found
  · cases found

/-- A read that goes ahead looks where the field is kept. -/
theorem readLocation_eq_ok {field : Field} {location : Location}
    (admitted : access.readLocation field target = .ok location) :
    location = field.location target := by
  unfold readLocation at admitted
  dsimp only at admitted
  split at admitted
  · cases admitted
  split at admitted
  · obtain ⟨_, _, admitted⟩ := Fallible.bind_eq_ok_iff.mp admitted
    cases admitted
    rfl
  · cases admitted
    rfl

/-- A write that goes ahead ends where the field is kept. -/
theorem writeLocation_eq_ok {field : Field} {value : Value} {location : Location}
    (admitted : access.writeLocation field target value = .ok location) :
    location = field.location target := by
  unfold writeLocation at admitted
  dsimp only at admitted
  split at admitted
  · cases admitted
  obtain ⟨_, _, admitted⟩ := Fallible.bind_eq_ok_iff.mp admitted
  split at admitted
  · obtain ⟨_, _, admitted⟩ := Fallible.bind_eq_ok_iff.mp admitted
    cases admitted
    rfl
  · cases admitted
    rfl

theorem isSubtype_of_readLocation {field : Field} {location : Location}
    (admitted : access.readLocation field target = .ok location)
    (ofInstances : field.isStatic = false) :
    access.registry.isSubtype target.typeName field.declaring = true := by
  unfold readLocation at admitted
  dsimp only at admitted
  split at admitted
  · cases admitted
  rw [ofInstances, if_pos (by rfl)] at admitted
  obtain ⟨_, targeted, _⟩ := Fallible.bind_eq_ok_iff.mp admitted
  exact isSubtype_of_checkTarget targeted

theorem checks_of_writeLocation {field : Field} {value : Value} {location : Location}
    (admitted : access.writeLocation field target value = .ok location) :
    access.registry.conforms value (access.fieldType field) = true ∧
      (field.isStatic = false →
        access.registry.isSubtype target.typeName field.declaring = true) := by
  unfold writeLocation at admitted
  dsimp only at admitted
  split at admitted
  · cases admitted
  obtain ⟨_, typed, admitted⟩ := Fallible.bind_eq_ok_iff.mp admitted
  refine ⟨conforms_of_checkArgument typed, ?_⟩
  intro ofInstances
  rw [ofInstances, if_pos (by rfl)] at admitted
  obtain ⟨_, targeted, _⟩ := Fallible.bind_eq_ok_iff.mp admitted
  exact isSubtype_of_checkTarget targeted

end Access

namespace Accessor

/-- The decision of an accessor whether an invocation goes ahead, and what there is
left to do when it does. -/
def checked (accessor : Accessor) (access : Access) (target : ObjectRef)
    (argument : Option Value) : Except AccessError (Action (Option Value)) :=
  match accessor, argument with
  | getter method, argument | setter method, argument =>
      (access.reached method target argument.toList).map fun reached =>
        (fun result => if method.returns = .void then none else some result) <$>
          reached.2 target argument.toList
  | reads field, none =>
      (access.readLocation field target).map fun location => some <$> location.load
  | reads field, some _ => .error (.argumentCount field.name 0 1)
  | writes field, some value =>
      (access.writeLocation field target value).map fun location =>
        (fun _ => none) <$> location.save value
  | writes field, none => .error (.argumentCount field.name 1 0)

theorem invokeMethod_eq_map_call (access : Access) (method : Method) (target : ObjectRef)
    (argument : Option Value) :
    invokeMethod access method target argument =
      (fun result => if method.returns = .void then none else some result) <$>
        access.call method target argument.toList :=
  bind_pure_comp _ _

theorem invokeMethod_eq (access : Access) (method : Method) (target : ObjectRef)
    (argument : Option Value) :
    invokeMethod access method target argument =
      match access.reached method target argument.toList with
      | .ok reached =>
          (fun result => if method.returns = .void then none else some result) <$>
            reached.2 target argument.toList
      | .error error => throw error := by
  rw [invokeMethod_eq_map_call]
  funext store
  show EStateM.map _ (access.call method target argument.toList) store = _
  unfold EStateM.map Access.call
  cases access.reached method target argument.toList <;> rfl

/-- An invocation is the decision of the accessor, followed by what it admits. -/
theorem invoke_eq_checked (accessor : Accessor) (access : Access) (target : ObjectRef)
    (argument : Option Value) :
    accessor.invoke access target argument =
      match accessor.checked access target argument with
      | .ok rest => rest
      | .error error => throw error := by
  cases accessor with
  | getter method =>
      rw [invoke, invokeMethod_eq, checked]
      cases access.reached method target argument.toList <;> rfl
  | setter method =>
      rw [invoke, invokeMethod_eq, checked]
      cases access.reached method target argument.toList <;> rfl
  | reads field =>
      cases argument with
      | none =>
          funext store
          show EStateM.map some (access.read field target) store = _
          unfold EStateM.map Access.read checked
          dsimp only
          cases access.readLocation field target <;> rfl
      | some value => rfl
  | writes field =>
      cases argument with
      | none => rfl
      | some value =>
          funext store
          show EStateM.map (fun _ => none) (access.write field target value) store = _
          unfold EStateM.map Access.write checked
          dsimp only
          cases access.writeLocation field target value <;> rfl

section Refusals

variable {accessor : Accessor} {access : Access} {target : ObjectRef} {argument : Option Value}
  {error : AccessError} {member : String}

def arity : Accessor → Nat
  | getter method | setter method => method.arity
  | reads _ => 0
  | writes _ => 1

def argumentTypes (access : Access) : Accessor → List TypeExpr
  | getter method | setter method => access.parameterTypes method
  | reads _ => []
  | writes field => [access.fieldType field]

def method? : Accessor → Option Method
  | getter method | setter method => some method
  | reads _ | writes _ => none

def allowed (access : Access) : Accessor → Bool
  | getter method | setter method => access.permissions.allowsInvoke method.modifiers.isPublic
  | reads field => access.permissions.allowsRead field.modifiers.isPublic
  | writes field => access.permissions.allowsWrite field.modifiers.isPublic

/-- Why a check of the accessor refuses an invocation. -/
inductive Refusal (accessor : Accessor) (access : Access) (target : ObjectRef)
    (argument : Option Value) : AccessError → Prop where
  | permission (closed : accessor.allowed access = false) : Refusal accessor access target argument
      (.accessDenied accessor.memberName accessor.declaring)
  | target (unrelated : access.registry.isSubtype target.typeName accessor.declaring = false) :
      Refusal accessor access target argument
        (.targetMismatch accessor.declaring target.typeName)
  | count (miscounted : argument.toList.length ≠ accessor.arity) :
      Refusal accessor access target argument
        (.argumentCount accessor.memberName accessor.arity argument.toList.length)
  | type (type : TypeExpr) (value : Value)
      (paired : (type, value) ∈ (accessor.argumentTypes access).zip argument.toList)
      (misfit : access.registry.conforms value type = false) :
      Refusal accessor access target argument
        (.argumentMismatch accessor.memberName type value.kindName)
  | implementation (method : Method) (backed : accessor.method? = some method)
      (bodiless : (access.registry.implementation? target.typeName method).bind Method.body = none) :
      Refusal accessor access target argument
        (.abstractMethod accessor.memberName target.typeName)

theorem refusal_of_checked (decided : accessor.checked access target argument = .error error) :
    accessor.Refusal access target argument error := by
  cases accessor with
  | getter method | setter method =>
      rcases Access.reached_eq_error (Fallible.map_eq_error_iff.mp decided) with
        ⟨closed, rfl⟩ | ⟨unrelated, rfl⟩ | ⟨miscounted, rfl⟩ |
          ⟨type, value, paired, misfit, rfl⟩ | ⟨bodiless, rfl⟩
      · exact .permission closed
      · exact .target unrelated
      · exact .count miscounted
      · exact .type type value paired misfit
      · exact .implementation method rfl bodiless
  | reads field =>
      cases argument with
      | some value =>
          cases decided
          exact .count Nat.one_ne_zero
      | none =>
          rcases Access.readLocation_eq_error (Fallible.map_eq_error_iff.mp decided) with
            ⟨closed, rfl⟩ | ⟨unrelated, rfl⟩
          · exact .permission closed
          · exact .target unrelated
  | writes field =>
      cases argument with
      | none =>
          cases decided
          exact .count Nat.zero_ne_one
      | some value =>
          rcases Access.writeLocation_eq_error (Fallible.map_eq_error_iff.mp decided) with
            ⟨closed, rfl⟩ | ⟨misfit, rfl⟩ | ⟨unrelated, rfl⟩
          · exact .permission closed
          · exact .type _ _ List.mem_cons_self misfit
          · exact .target unrelated

theorem checked_ne_argumentCount {expected actual : Nat}
    (counted : argument.toList.length = accessor.arity) :
    accessor.checked access target argument ≠ .error (.argumentCount member expected actual) := by
  intro refused
  cases refusal_of_checked refused with
  | count miscounted => exact miscounted counted

theorem checked_ne_argumentMismatch {expected : TypeExpr} {actual : String}
    (fits : ∀ pair ∈ (accessor.argumentTypes access).zip argument.toList,
      access.registry.conforms pair.2 pair.1 = true) :
    accessor.checked access target argument ≠
      .error (.argumentMismatch member expected actual) := by
  intro refused
  cases refusal_of_checked refused with
  | type type value paired misfit =>
      have conforms := fits _ paired
      rw [misfit] at conforms
      cases conforms

end Refusals

end Accessor

end Introspection
