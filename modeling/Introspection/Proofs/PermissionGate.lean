import Introspection.Proofs.AccessorChecks
import Introspection.Proofs.TableBuilder

/-!
# Permissions are a gate

The permissions of a builder end up in its tables and decide there whether an operation may go
ahead; nothing else depends on them. Every operation needs one flag: it is denied without the
flag, and with it the other permissions make no difference (`Access.Guarded`). So two builds
that differ in their permissions alone fail alike or give tables that answer every query alike,
and an operation under the smaller set is either refused before it touches anything or does
what it does under the larger one (`gated_of_build`).
-/

set_option autoImplicit false

namespace Introspection

namespace Permissions

def invokeFlag (isPublic : Bool) : Permissions := if isPublic then invokePublic else invokePrivate

def readFlag (isPublic : Bool) : Permissions := if isPublic then readPublic else readPrivate

def writeFlag (isPublic : Bool) : Permissions := if isPublic then writePublic else writePrivate

theorem allowsInvoke_eq (permissions : Permissions) (isPublic : Bool) :
    permissions.allowsInvoke isPublic = permissions.contains (invokeFlag isPublic) := rfl

theorem allowsRead_eq (permissions : Permissions) (isPublic : Bool) :
    permissions.allowsRead isPublic = permissions.contains (readFlag isPublic) := rfl

theorem allowsWrite_eq (permissions : Permissions) (isPublic : Bool) :
    permissions.allowsWrite isPublic = permissions.contains (writeFlag isPublic) := rfl

theorem contains_trans {most many few : Permissions} (above : most.contains many = true)
    (within : many.contains few = true) : most.contains few = true := by
  simp only [contains, beq_iff_eq] at above within ⊢
  calc most.word &&& few.word = most.word &&& (many.word &&& few.word) := by rw [within]
    _ = most.word &&& many.word &&& few.word := (BitVec.and_assoc ..).symm
    _ = few.word := by rw [above, within]

end Permissions

namespace Action

variable {α : Type} {restricted full : Action α}

def Denied (action : Action α) (store : Store) : Prop :=
  ∃ member typeName after, action store = .error (.accessDenied member typeName) after

/-- The action ends with a denial of access and leaves the store as it was. -/
def Withheld (action : Action α) (store : Store) : Prop :=
  ∃ member typeName, action store = .error (.accessDenied member typeName) store

/-- Wherever the first action is not the second one, access is denied and nothing is touched;
and where the second is denied access, so is the first. -/
structure Gated (restricted full : Action α) : Prop where
  withheldOrSame : ∀ store, restricted.Withheld store ∨ restricted store = full store
  deniedWithin : ∀ store, full.Denied store → restricted.Denied store

theorem gated_of_withheldOrSame
    (split : ∀ store, restricted.Withheld store ∨ restricted store = full store) :
    restricted.Gated full := by
  refine ⟨split, ?_⟩
  intro store denied
  rcases split store with ⟨member, typeName, withheld⟩ | same
  · exact ⟨member, typeName, store, withheld⟩
  · rw [Denied, same]
    exact denied

theorem gated_of_eq (same : restricted = full) : restricted.Gated full :=
  gated_of_withheldOrSame fun _ => .inr (congrFun same _)

theorem gated_of_denial {member typeName : String}
    (denies : restricted = throw (.accessDenied member typeName)) : restricted.Gated full := by
  apply gated_of_withheldOrSame
  intro store
  rw [denies]
  exact .inl ⟨member, typeName, rfl⟩

end Action

namespace Access

def under (access : Access) (permissions : Permissions) : Access :=
  { access with permissions := permissions }

@[simp] theorem under_permissions (access : Access) (permissions : Permissions) :
    (access.under permissions).permissions = permissions := rfl

/-- The operation needs the flag: without it access is denied, and with it the permissions make
no further difference. -/
structure Guarded {α : Type} (flag : Permissions) (operation : Access → Action α) : Prop where
  denies : ∀ access, access.permissions.contains flag = false →
    ∃ member typeName, operation access = throw (.accessDenied member typeName)
  same : ∀ access permissions, access.permissions.contains flag = true →
    permissions.contains flag = true → operation (access.under permissions) = operation access

namespace Guarded

variable {α β : Type} {flag : Permissions} {operation : Access → Action α}

theorem map (guarded : Guarded flag operation) (after : α → β) :
    Guarded flag fun access => after <$> operation access := by
  constructor
  · intro access denied
    obtain ⟨member, typeName, denies⟩ := guarded.denies access denied
    exact ⟨member, typeName, by rw [denies]; rfl⟩
  · intro access permissions granted again
    rw [guarded.same access permissions granted again]

variable {few many : Permissions}

theorem eq_of_granted (guarded : Guarded flag operation) (within : many.contains few = true)
    (registry : Registry) (granted : few.contains flag = true) :
    operation ⟨registry, few⟩ = operation ⟨registry, many⟩ :=
  (guarded.same ⟨registry, few⟩ many granted (Permissions.contains_trans within granted)).symm

theorem gated (guarded : Guarded flag operation) (within : many.contains few = true)
    (registry : Registry) : (operation ⟨registry, few⟩).Gated (operation ⟨registry, many⟩) := by
  cases granted : few.contains flag with
  | true => exact Action.gated_of_eq (guarded.eq_of_granted within registry granted)
  | false =>
      obtain ⟨member, typeName, denies⟩ := guarded.denies ⟨registry, few⟩ granted
      exact Action.gated_of_denial denies

end Guarded

/-- An operation is guarded when the decision whether it goes ahead is. -/
theorem guarded_of_decision {α δ : Type} {flag : Permissions} {operation : Access → Action α}
    (member typeName : String) (decision : Access → Except AccessError δ) (rest : δ → Action α)
    (runs : ∀ access store, operation access store =
      match decision access with
      | .ok decided => rest decided store
      | .error error => .error error store)
    (denies : ∀ access, access.permissions.contains flag = false →
      decision access = .error (.accessDenied member typeName))
    (same : ∀ access permissions, access.permissions.contains flag = true →
      permissions.contains flag = true → decision (access.under permissions) = decision access) :
    Guarded flag operation := by
  constructor
  · intro access denied
    refine ⟨member, typeName, ?_⟩
    funext store
    rw [runs, denies access denied]
    rfl
  · intro access permissions granted again
    funext store
    rw [runs, runs, same access permissions granted again]

theorem checkArguments_under (access : Access) (permissions : Permissions) (member : String)
    (types : List TypeExpr) (values : List Value) :
    (access.under permissions).checkArguments member types values =
      access.checkArguments member types values := by
  induction types generalizing values with
  | nil => rfl
  | cons type types ih =>
      cases values with
      | nil => rfl
      | cons value values =>
          rw [checkArguments, checkArguments, ih]
          rfl

theorem guarded_call (method : Method) (target : ObjectRef) (arguments : List Value) :
    Guarded (.invokeFlag method.modifiers.isPublic) fun access =>
      access.call method target arguments := by
  refine guarded_of_decision method.name method.declaring
    (fun access => access.reached method target arguments)
    (fun reached => reached.2 target arguments) ?_ ?_ ?_
  · intro access store
    unfold call
    cases access.reached method target arguments <;> rfl
  · intro access denied
    unfold reached
    rw [Permissions.allowsInvoke_eq, denied]
    rfl
  · intro access permissions granted again
    unfold reached
    simp only [under_permissions, Permissions.allowsInvoke_eq, granted, again,
      checkArguments_under]
    rfl

theorem guarded_read (field : Field) (target : ObjectRef) :
    Guarded (.readFlag field.modifiers.isPublic) fun access => access.read field target := by
  refine guarded_of_decision field.name field.declaring
    (fun access => access.readLocation field target) Location.load ?_ ?_ ?_
  · intro access store
    unfold read
    cases access.readLocation field target <;> rfl
  · intro access denied
    unfold readLocation
    rw [Permissions.allowsRead_eq, denied]
    rfl
  · intro access permissions granted again
    unfold readLocation
    simp only [under_permissions, Permissions.allowsRead_eq, granted, again]
    rfl

theorem guarded_write (field : Field) (target : ObjectRef) (value : Value) :
    Guarded (.writeFlag field.modifiers.isPublic) fun access =>
      access.write field target value := by
  refine guarded_of_decision field.name field.declaring
    (fun access => access.writeLocation field target value) (fun location => location.save value)
    ?_ ?_ ?_
  · intro access store
    unfold write
    cases access.writeLocation field target value <;> rfl
  · intro access denied
    unfold writeLocation
    rw [Permissions.allowsWrite_eq, denied]
    rfl
  · intro access permissions granted again
    unfold writeLocation
    simp only [under_permissions, Permissions.allowsWrite_eq, granted, again]
    rfl

theorem guarded_construct (typeName : String) (constructor : Constructor) :
    Guarded (.invokeFlag constructor.modifiers.isPublic) fun access =>
      access.construct typeName constructor := by
  refine ⟨fun access denied => ⟨constructorName, typeName, ?_⟩, ?_⟩
  · unfold construct
    rw [Permissions.allowsInvoke_eq, denied]
    rfl
  · intro access permissions granted again
    unfold construct
    simp only [under_permissions, Permissions.allowsInvoke_eq, granted, again]
    rfl

end Access

namespace Accessor

def flag : Accessor → Permissions
  | getter method | setter method => .invokeFlag method.modifiers.isPublic
  | reads field => .readFlag field.modifiers.isPublic
  | writes field => .writeFlag field.modifiers.isPublic

/-- An invocation needs the flag, unless a field is given an argument to read or none to write:
that is refused under all permissions alike. -/
theorem guarded_invoke (accessor : Accessor) (target : ObjectRef) (argument : Option Value) :
    Access.Guarded accessor.flag (fun access => accessor.invoke access target argument) ∨
      ∀ access permissions, accessor.invoke (access.under permissions) target argument =
        accessor.invoke access target argument := by
  have ofMethod : ∀ method, Access.Guarded (.invokeFlag method.modifiers.isPublic) fun access =>
      invokeMethod access method target argument := by
    intro method
    simp only [invokeMethod_eq_map_call]
    exact (Access.guarded_call method target argument.toList).map _
  cases accessor with
  | getter method => exact .inl (ofMethod method)
  | setter method => exact .inl (ofMethod method)
  | reads field =>
      cases argument with
      | none => exact .inl ((Access.guarded_read field target).map some)
      | some value => exact .inr fun _ _ => rfl
  | writes field =>
      cases argument with
      | none => exact .inr fun _ _ => rfl
      | some value => exact .inl ((Access.guarded_write field target value).map fun _ => none)

variable {few many : Permissions}

theorem gated_invoke (within : many.contains few = true) (registry : Registry)
    (accessor : Accessor) (target : ObjectRef) (argument : Option Value) :
    (accessor.invoke ⟨registry, few⟩ target argument).Gated
      (accessor.invoke ⟨registry, many⟩ target argument) := by
  rcases accessor.guarded_invoke target argument with guarded | blind
  · exact guarded.gated within registry
  · exact Action.gated_of_eq (blind ⟨registry, few⟩ many).symm

theorem invoke_eq_of_granted (within : many.contains few = true) (registry : Registry)
    {accessor : Accessor} (granted : few.contains accessor.flag = true) (target : ObjectRef)
    (argument : Option Value) :
    accessor.invoke ⟨registry, few⟩ target argument =
      accessor.invoke ⟨registry, many⟩ target argument := by
  rcases accessor.guarded_invoke target argument with guarded | blind
  · exact guarded.eq_of_granted within registry granted
  · exact (blind ⟨registry, few⟩ many).symm

end Accessor

namespace PropertyTable

structure SameMetadata (first second : PropertyTable) : Prop where
  decl : first.decl = second.decl
  readable : first.readable = second.readable
  writable : first.writable = second.writable
  getter : ∀ property, first.getter property = second.getter property
  setter : ∀ property, first.setter property = second.setter property
  getterType : ∀ property, first.getterType property = second.getterType property
  setterType : ∀ property, first.setterType property = second.setterType property
  findName? : ∀ name, first.findName? name = second.findName? name
  requireConstructor : first.requireConstructor = second.requireConstructor

/-- Every operation of the first table is the one of the second behind a gate, and the gate is
open for an accessor whose flag the first table has. -/
structure GatedBy (restricted full : PropertyTable) : Prop where
  invoke : ∀ (accessor : Accessor) target argument,
    (accessor.invoke restricted.access target argument).Gated
      (accessor.invoke full.access target argument)
  granted : ∀ accessor : Accessor, restricted.access.permissions.contains accessor.flag = true →
    ∀ target argument, accessor.invoke restricted.access target argument =
      accessor.invoke full.access target argument
  call : ∀ method target arguments,
    (restricted.access.call method target arguments).Gated
      (full.access.call method target arguments)
  read : ∀ field target,
    (restricted.access.read field target).Gated (full.access.read field target)
  write : ∀ field target value,
    (restricted.access.write field target value).Gated (full.access.write field target value)
  construct : ∀ constructor,
    (restricted.construct constructor).Gated (full.construct constructor)

def under (table : PropertyTable) (permissions : Permissions) : PropertyTable :=
  { table with access := table.access.under permissions }

theorem gatedBy_under (table : PropertyTable) {few many : Permissions}
    (within : many.contains few = true) : (table.under few).GatedBy (table.under many) where
  invoke := Accessor.gated_invoke within table.access.registry
  granted _ granted := Accessor.invoke_eq_of_granted within table.access.registry granted
  call method target arguments :=
    (Access.guarded_call method target arguments).gated within table.access.registry
  read field target := (Access.guarded_read field target).gated within table.access.registry
  write field target value :=
    (Access.guarded_write field target value).gated within table.access.registry
  construct constructor :=
    (Access.guarded_construct table.typeName constructor).gated within table.access.registry

end PropertyTable

namespace TableBuilder

/-- The permissions of a builder go into the table and nowhere else. -/
theorem build_with_permissions (builder : TableBuilder) (permissions : Permissions)
    (name : String) :
    { builder with permissions := permissions }.build name =
      (builder.build name).map (·.under permissions) := by
  simp only [build, assemble, Fallible.map_bind]
  rfl

theorem gated_of_build (builder : TableBuilder) (name : String) {few many : Permissions}
    (within : many.contains few = true) :
    (∃ error, { builder with permissions := few }.build name = .error error ∧
        { builder with permissions := many }.build name = .error error) ∨
      ∃ restricted full, { builder with permissions := few }.build name = .ok restricted ∧
        { builder with permissions := many }.build name = .ok full ∧
        restricted.SameMetadata full ∧ restricted.GatedBy full := by
  rw [build_with_permissions builder few, build_with_permissions builder many]
  cases builder.build name with
  | error error => exact .inl ⟨error, rfl, rfl⟩
  | ok table =>
      right
      exact ⟨table.under few, table.under many, rfl, rfl,
        ⟨rfl, rfl, rfl, fun _ => rfl, fun _ => rfl, fun _ => rfl, fun _ => rfl, fun _ => rfl, rfl⟩,
        table.gatedBy_under within⟩

def vaultCode : Field :=
  ⟨"code", .primitive .long, .ofList [.privateAccess], some (.int 7), "Vault"⟩

def vault : Registry := Registry.builtin.register ((TypeDecl.ofClass "Vault").addField vaultCode)

/-- A table for public access withholds the private field that the full table reads. -/
theorem gated_of_build_vault :
    Permissions.all.contains .publicOnly = true ∧
    ∃ restricted full,
      { ofRegistry vault with permissions := .publicOnly }.build "Vault" = .ok restricted ∧
      { ofRegistry vault with permissions := .all }.build "Vault" = .ok full ∧
      restricted.SameMetadata full ∧ restricted.GatedBy full ∧
      restricted.getter "code" = .ok (.reads vaultCode) ∧
      ∃ target store, vault.allocate "Vault" vault.initialStore = .ok target store ∧
        ((Accessor.reads vaultCode).invoke restricted.access target none).Withheld store ∧
        (Accessor.reads vaultCode).invoke full.access target none store =
          .ok (some (.int 7)) store := by
  have within : Permissions.all.contains .publicOnly = true := by decide
  refine ⟨within, ?_⟩
  rcases gated_of_build (ofRegistry vault) "Vault" within with
    ⟨error, failed, _⟩ | ⟨restricted, full, builtRestricted, builtFull, same, gated⟩
  · have succeeds :
        ({ ofRegistry vault with permissions := .publicOnly }.build "Vault").isOk = true := by
      decide
    rw [failed] at succeeds
    cases succeeds
  · have answered : ({ ofRegistry vault with permissions := .publicOnly }.build "Vault").bind
        (·.getter "code") = .ok (.reads vaultCode) := rfl
    rw [builtRestricted] at answered
    obtain ⟨restrictedStages⟩ := nonempty_stages builtRestricted
    obtain ⟨fullStages⟩ := nonempty_stages builtFull
    refine ⟨restricted, full, builtRestricted, builtFull, same, gated, answered, ?_⟩
    rw [restrictedStages.access_eq, fullStages.access_eq]
    exact ⟨_, _, rfl, ⟨_, _, rfl⟩, rfl⟩

end TableBuilder

end Introspection
