import Introspection.Proofs.Resolution
import Introspection.Proofs.TableConsistency

/-!
# The setter that fits the getter

A setter that takes exactly what the getter gives should be preferred to all
others. The getter's type is resolved as seen from the described type, while the
parameters of the candidates are only erased where they are declared. For a
parameter that a subclass binds to another type than its bound, the two differ,
and then the preferred setter can be passed over (`setterType_iff_of_build`).
-/

set_option autoImplicit false

namespace Introspection.TableBuilder

/-- The one parameter of the method is, as seen from the context, of the given type. -/
def Takes (builder : TableBuilder) (context : TypeDecl) (type : TypeExpr)
    (method : Method) : Prop :=
  ∃ parameter, method.parameters = [parameter] ∧
    builder.resolve context method.declaring parameter = .ok type

theorem Takes.unique {builder : TableBuilder} {context : TypeDecl} {first second : TypeExpr}
    {method : Method} (takesFirst : builder.Takes context first method)
    (takesSecond : builder.Takes context second method) : first = second := by
  obtain ⟨parameter, single, resolved⟩ := takesFirst
  obtain ⟨again, singleAgain, resolvedAgain⟩ := takesSecond
  rw [single, List.cons.injEq] at singleAgain
  rw [← singleAgain.1, resolved] at resolvedAgain
  exact Except.ok.inj resolvedAgain

/-- Where the generic resolver is used and the parameter is no variable, what a method
takes is what is left of its parameter after erasure. -/
theorem erasedParameter_eq_of_takes {builder : TableBuilder} {context : TypeDecl}
    {type : TypeExpr} {method : Method} (generic : builder.resolver = .generic)
    (outer : ∀ parameter ∈ method.parameters, parameter.isVariable = false)
    (takes : builder.Takes context type method) :
    builder.registry.erasedParameter method = type := by
  obtain ⟨parameter, single, resolved⟩ := takes
  obtain ⟨decl, registered, rfl⟩ := (resolve_eq_ok_iff _ _ _ _ _).mp resolved
  have plain : parameter.isVariable = false := outer parameter (by rw [single]; simp)
  rw [generic, TypeResolver.generic_eq_erase _ _ _ plain, Registry.erasedParameter,
    Registry.eraseIn, registered, single]
  rfl

namespace Stages

variable {builder : TableBuilder} {name : String} {table : PropertyTable} {property : String}

/-- The getters before fields are added hold every getter that a method stands behind. -/
theorem get?_getters_of_method (stages : Stages builder name table) {getter : Method}
    {type : TypeExpr} (found : table.getter property = .ok (.getter getter))
    (typed : table.getterType property = .ok type) :
    stages.getters.get? property = some ⟨.getter getter, type⟩ := by
  obtain ⟨entry, stored, backing⟩ := stages.getter_eq_ok_iff.mp found
  obtain ⟨again, storedAgain, rfl⟩ := stages.getterType_eq_ok_iff.mp typed
  rw [stored, Option.some.injEq] at storedAgain
  subst storedAgain
  rw [stages.get?_getters] at stored
  cases ofMethod : stages.getters.get? property with
  | some chosen =>
      rw [ofMethod, Option.some_or, Option.some.injEq] at stored
      rw [stored, ← backing]
  | none =>
      rw [ofMethod, Option.none_or, Option.map_eq_some_iff] at stored
      obtain ⟨source, _, rfl⟩ := stored
      cases backing

/-- Where methods set the property, the table has the one that is chosen among them, with
the type that it takes. -/
theorem exists_chosen_setter (stages : Stages builder name table)
    (covered : builder.candidatesOf .setter property stages.methods ≠ []) :
    ∃ winner taken, builder.registry.chooseSetter property
        (builder.candidatesOf .setter property stages.methods)
        ((stages.getters.get? property).map Property.type) = .ok (some winner) ∧
      builder.Takes stages.decl taken winner ∧
      table.setter property = .ok (.setter winner) ∧ table.setterType property = .ok taken := by
  obtain ⟨winner, parameter, taken, selected, single, resolved, stored⟩ :=
    stages.exists_setter_of_candidates covered
  exact ⟨winner, taken, selected, ⟨parameter, single, resolved⟩,
    stages.setter_eq_ok_iff.mpr ⟨_, stored, rfl⟩,
    stages.setterType_eq_ok_iff.mpr ⟨_, stored, rfl⟩⟩

end Stages

/-- Suppose a method reads the property and some method sets it that takes just the type
read. If a candidate erases to that type, the first such one is the setter; if none does,
the one chosen without regard to the getter is. The property is written at the type at
which it is read exactly when that setter takes the type, and it always does where no
candidate declares a variable as its parameter. -/
theorem setterType_iff_of_build {builder : TableBuilder} {name : String} {table : PropertyTable}
    (built : builder.build name = .ok table) :
    ∃ methods, builder.registry.methods name = .ok methods ∧
      ∀ property getter type, table.getter property = .ok (.getter getter) →
        table.getterType property = .ok type →
        (∃ setter ∈ methods, builder.namer.classify setter = some (.setter, property) ∧
          builder.Takes table.decl type setter) →
        (∀ exact, builder.registry.exactSetter? type
            (builder.candidatesOf .setter property methods) = some exact →
          table.setter property = .ok (.setter exact) ∧
            (table.setterType property = .ok type ↔ builder.Takes table.decl type exact)) ∧
        (builder.registry.exactSetter? type
            (builder.candidatesOf .setter property methods) = none →
          ∃ best, builder.registry.chooseSetter property
              (builder.candidatesOf .setter property methods) none = .ok (some best) ∧
            table.setter property = .ok (.setter best) ∧
            (table.setterType property = .ok type ↔ builder.Takes table.decl type best)) ∧
        (builder.resolver = .generic →
          (∀ candidate ∈ builder.candidatesOf .setter property methods,
            ∀ parameter ∈ candidate.parameters, parameter.isVariable = false) →
          table.setterType property = .ok type) := by
  obtain ⟨stages⟩ := nonempty_stages built
  refine ⟨stages.methods, stages.methods_eq, ?_⟩
  intro property getter type found typed ⟨setter, listed, classified, takes⟩
  rw [stages.decl_eq] at takes ⊢
  obtain ⟨entry, stored, _⟩ := stages.getter_eq_ok_iff.mp found
  have candidate : setter ∈ builder.candidatesOf .setter property stages.methods :=
    (mem_candidatesOf_iff _ _ _ _ _).mpr ⟨listed, classified, (stages.getter_cases stored).1⟩
  obtain ⟨winner, taken, selected, takesTaken, written, typedTaken⟩ :=
    stages.exists_chosen_setter (List.ne_nil_of_mem candidate)
  rw [stages.get?_getters_of_method found typed, Option.map_some] at selected
  have fits : table.setterType property = .ok type ↔ builder.Takes stages.decl type winner := by
    rw [typedTaken, Except.ok.injEq]
    exact ⟨fun same => same ▸ takesTaken, takesTaken.unique⟩
  refine ⟨?_, ?_, ?_⟩
  · intro exact isExact
    rw [Registry.chooseSetter_of_exact isExact] at selected
    cases selected
    exact ⟨written, fits⟩
  · intro missing
    rw [Registry.chooseSetter_of_no_exact missing] at selected
    exact ⟨winner, selected, written, fits⟩
  · intro generic plain
    -- Without variables erasure and resolution agree, so the given candidate is an exact match.
    have erases : builder.registry.erasedParameter setter = type :=
      erasedParameter_eq_of_takes generic (plain setter candidate) takes
    cases isExact : builder.registry.exactSetter? type
        (builder.candidatesOf .setter property stages.methods) with
    | none => exact absurd erases (Registry.exactSetter?_eq_none_iff.mp isExact setter candidate)
    | some exact =>
        rw [Registry.chooseSetter_of_exact isExact] at selected
        cases selected
        obtain ⟨inside, exactly⟩ := Registry.exactSetter?_eq_some isExact
        have same := erasedParameter_eq_of_takes generic (plain winner inside) takesTaken
        rw [typedTaken, ← same, exactly]

def readsText : Method :=
  { Method.ofHeader "getCode" [] (.named "String") with declaring := "Ticket" }

def takesNumber : Method :=
  { Method.ofHeader "setCode" [.named "Integer"] .void with declaring := "Ticket" }

def takesText : Method :=
  { Method.ofHeader "setCode" [.named "String"] .void with declaring := "Ticket" }

def takesVariable : Method :=
  { Method.ofHeader "setCode" [.var "T"] .void with declaring := "Entity" }

def plainTickets : Registry :=
  Registry.builtin.register
    ((((TypeDecl.ofClass "Ticket").addMethod readsText).addMethod takesNumber).addMethod takesText)

theorem setterType_iff_of_build_plainTickets :
    ∃ table, (ofRegistry plainTickets).build "Ticket" = .ok table ∧
      table.setterType "code" = .ok (.named "String") := by
  have succeeds : ((ofRegistry plainTickets).build "Ticket").isOk = true := by decide
  obtain ⟨table, built⟩ := Fallible.exists_of_isOk succeeds
  have found : ((ofRegistry plainTickets).build "Ticket").bind (·.getter "code") =
      .ok (.getter readsText) := rfl
  have typed : ((ofRegistry plainTickets).build "Ticket").bind (·.getterType "code") =
      .ok (.named "String") := rfl
  rw [built] at found typed
  obtain ⟨methods, listed, choice⟩ := setterType_iff_of_build built
  have all : plainTickets.methods "Ticket" = .ok [readsText, takesNumber, takesText] := rfl
  rw [ofRegistry, all] at listed
  cases listed
  have fits : ∃ setter ∈ [readsText, takesNumber, takesText],
      Namer.beans.classify setter = some (.setter, "code") ∧
        (ofRegistry plainTickets).Takes table.decl (.named "String") setter :=
    ⟨takesText, by simp, rfl, _, rfl, rfl⟩
  refine ⟨table, built, (choice "code" readsText _ found typed fits).2.2 rfl ?_⟩
  show ∀ candidate ∈ [takesNumber, takesText], ∀ parameter ∈ candidate.parameters,
    parameter.isVariable = false
  decide

/-- A class that inherits the setter of a text as one of a variable, and declares a setter
of a number itself. -/
def boundTickets : Registry :=
  (Registry.builtin.register
      ({ TypeDecl.ofClass "Entity" with parameters := [⟨"T", none⟩] }.addMethod
        takesVariable)).register
    (({ TypeDecl.ofClass "Ticket" with
        superclass := some (.applied "Entity" [.named "String"]) }.addMethod readsText).addMethod
      takesNumber)

/-- The property is read as a text and written as a number, although the inherited setter
takes a text here. -/
theorem setterType_ne_boundTickets :
    ∃ table methods, (ofRegistry boundTickets).build "Ticket" = .ok table ∧
      boundTickets.methods "Ticket" = .ok methods ∧
      table.getter "code" = .ok (.getter readsText) ∧
      table.getterType "code" = .ok (.named "String") ∧
      takesVariable ∈ methods ∧
      Namer.beans.classify takesVariable = some (.setter, "code") ∧
      (ofRegistry boundTickets).Takes table.decl (.named "String") takesVariable ∧
      table.setter "code" = .ok (.setter takesNumber) ∧
      table.setterType "code" = .ok (.named "Integer") := by
  have succeeds : ((ofRegistry boundTickets).build "Ticket").isOk = true := by decide
  obtain ⟨table, built⟩ := Fallible.exists_of_isOk succeeds
  have found : ((ofRegistry boundTickets).build "Ticket").bind (·.getter "code") =
      .ok (.getter readsText) := rfl
  have typed : ((ofRegistry boundTickets).build "Ticket").bind (·.getterType "code") =
      .ok (.named "String") := rfl
  have written : ((ofRegistry boundTickets).build "Ticket").bind (·.setter "code") =
      .ok (.setter takesNumber) := rfl
  have taken : ((ofRegistry boundTickets).build "Ticket").bind (·.setterType "code") =
      .ok (.named "Integer") := rfl
  have resolved : ((ofRegistry boundTickets).build "Ticket").bind (fun made =>
      (ofRegistry boundTickets).resolve made.decl "Entity" (.var "T")) = .ok (.named "String") :=
    rfl
  rw [built] at found typed written taken resolved
  exact ⟨table, [readsText, takesNumber, takesVariable], built, rfl, found, typed, by simp, rfl,
    ⟨_, rfl, resolved⟩, written, taken⟩

end Introspection.TableBuilder
