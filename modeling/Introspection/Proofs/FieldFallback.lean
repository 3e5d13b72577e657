import Introspection.Proofs.TableConsistency

/-!
# Which field stands behind a property

A field redeclared in a subclass should hide the one above it. On the reading
side it does: a getter that falls back on a field reads the most derived one of
the name. On the writing side constants are skipped before the nearest field is
taken, so a constant does not hide a variable field above it, and the two sides
of one property can end at different fields. `followsNearestField_iff` says when
that happens.
-/

set_option autoImplicit false

namespace Introspection.TableBuilder

def mostDerivedField? (chain : List TypeDecl) (property : String) : Option Field :=
  chain.findSome? fun decl => decl.field? property

def mostDerivedVariable? (chain : List TypeDecl) (property : String) : Option Field :=
  chain.findSome? fun decl =>
    decl.fields.find? fun field => field.name == property && !field.isConstant

theorem map_snd_nearestField? (chain : List TypeDecl) (wanted : Field → Bool) :
    (nearestField? chain wanted).map Prod.snd =
      chain.findSome? fun decl => decl.fields.find? wanted := by
  induction chain with
  | nil => rfl
  | cons decl rest ih =>
      unfold nearestField? at ih ⊢
      rw [List.findSome?_cons, List.findSome?_cons]
      cases decl.fields.find? wanted with
      | some field => rfl
      | none => exact ih

theorem mostDerivedField?_eq (chain : List TypeDecl) (property : String) :
    mostDerivedField? chain property = (readField? chain property).map Prod.snd :=
  (map_snd_nearestField? chain _).symm

theorem mostDerivedVariable?_eq (chain : List TypeDecl) (property : String) :
    mostDerivedVariable? chain property = (writeField? chain property).map Prod.snd :=
  (map_snd_nearestField? chain _).symm

/-- Where the nearest field that meets a condition meets a stricter one as well, it is
also the nearest that meets the stricter one. -/
theorem nearestField?_of_stricter {chain : List TypeDecl} {wanted stricter : Field → Bool}
    {entry : TypeDecl × Field} (implied : ∀ field, stricter field = true → wanted field = true)
    (found : nearestField? chain wanted = some entry) (meets : stricter entry.2 = true) :
    nearestField? chain stricter = some entry := by
  have excluded : ∀ field, wanted field = false → stricter field = false := by
    intro field unwanted
    cases strict : stricter field with
    | false => rfl
    | true => rw [implied field strict] at unwanted; cases unwanted
  induction chain with
  | nil => cases found
  | cons decl rest ih =>
      unfold nearestField? at found ih ⊢
      rw [List.findSome?_cons] at found ⊢
      cases nearest : decl.fields.find? wanted with
      | some field =>
          rw [nearest] at found
          cases found
          obtain ⟨_, before, after, split, skipped⟩ := List.find?_eq_some_iff_append.mp nearest
          have stricterFound : decl.fields.find? stricter = some field := by
            refine List.find?_eq_some_iff_append.mpr ⟨meets, before, after, split, ?_⟩
            intro other earlier
            have unwanted := skipped other earlier
            rw [Bool.not_eq_true'] at unwanted ⊢
            exact excluded other unwanted
          rw [stricterFound]
          rfl
      | none =>
          rw [nearest] at found
          have noneStricter : decl.fields.find? stricter = none := by
            rw [List.find?_eq_none] at nearest ⊢
            intro field declared strict
            exact nearest field declared (implied field strict)
          rw [noneStricter]
          exact ih found

/-- The accessors of a property that fields stand behind use the most derived field of its
name, and a constant is never written. -/
structure FollowsNearestField (table : PropertyTable) (chain : List TypeDecl)
    (property : String) : Prop where
  read : ∀ field, table.getter property = .ok (.reads field) →
    mostDerivedField? chain property = some field
  written : ∀ field, table.setter property = .ok (.writes field) →
    mostDerivedField? chain property = some field
  same : ∀ read written, table.getter property = .ok (.reads read) →
    table.setter property = .ok (.writes written) → read = written
  constantKept : ∀ nearest, mostDerivedField? chain property = some nearest →
    nearest.isConstant = true → ∀ field, table.setter property ≠ .ok (.writes field)

namespace Stages

variable {builder : TableBuilder} {name : String} {table : PropertyTable} {property : String}
  {field : Field}

theorem mostDerivedField?_of_reads (stages : Stages builder name table)
    (found : table.getter property = .ok (.reads field)) :
    mostDerivedField? stages.chain property = some field := by
  obtain ⟨entry, stored, same⟩ := stages.getter_eq_ok_iff.mp found
  rcases (stages.getter_cases stored).2 with
    ⟨winner, type, _, _, rfl⟩ | ⟨_, source, nearest, rfl⟩
  · cases same
  · cases same
    rw [mostDerivedField?_eq, nearest]
    rfl

/-- A property is written through a field exactly when no method sets it, and then through
the nearest field that is not constant. -/
theorem setter_eq_writes_iff (stages : Stages builder name table) :
    table.setter property = .ok (.writes field) ↔
      isPropertyName property = true ∧
        builder.candidatesOf .setter property stages.methods = [] ∧
        mostDerivedVariable? stages.chain property = some field := by
  constructor
  · intro found
    obtain ⟨entry, stored, same⟩ := stages.setter_eq_ok_iff.mp found
    rcases stages.setter_cases stored with
      ⟨valid, ⟨winner, parameter, type, _, _, _, rfl⟩ | ⟨uncovered, source, nearest, rfl⟩⟩
    · cases same
    · cases same
      refine ⟨valid, uncovered, ?_⟩
      rw [mostDerivedVariable?_eq, nearest]
      rfl
  · rintro ⟨valid, uncovered, nearest⟩
    rw [mostDerivedVariable?_eq] at nearest
    obtain ⟨source, located, rfl⟩ := Option.map_eq_some_iff.mp nearest
    have free := (get?_methodSetters_eq_none_iff stages.written property).mpr uncovered
    have stored := stages.get?_setters property
    rw [free, if_pos valid, located, Option.map_some, Option.none_or] at stored
    exact stages.setter_eq_ok_iff.mpr ⟨_, stored, rfl⟩

end Stages

section Chain

variable {chain : List TypeDecl} {property : String} {nearest : Field}

theorem isConstant_of_mostDerivedVariable?
    (found : mostDerivedVariable? chain property = some nearest) : nearest.isConstant = false := by
  rw [mostDerivedVariable?_eq] at found
  obtain ⟨source, located, rfl⟩ := Option.map_eq_some_iff.mp found
  have wanted := (nearestField?_eq_some located).2.2
  rw [Bool.and_eq_true, Bool.not_eq_true'] at wanted
  exact wanted.2

theorem mostDerivedVariable?_of_variable
    (found : mostDerivedField? chain property = some nearest)
    (changes : nearest.isConstant = false) :
    mostDerivedVariable? chain property = some nearest := by
  rw [mostDerivedField?_eq] at found
  obtain ⟨source, located, rfl⟩ := Option.map_eq_some_iff.mp found
  have named := (nearestField?_eq_some located).2.2
  rw [mostDerivedVariable?_eq, writeField?, nearestField?_of_stricter _ located]
  · rfl
  · rw [named, changes]
    rfl
  · intro field both
    exact (Bool.and_eq_true_iff.mp both).1

theorem exists_mostDerivedVariable?_iff :
    (∃ field, mostDerivedVariable? chain property = some field) ↔
      ∃ decl ∈ chain, ∃ field ∈ decl.fields, field.name = property ∧ field.isConstant = false := by
  constructor
  · rintro ⟨field, found⟩
    rw [mostDerivedVariable?_eq] at found
    obtain ⟨source, located, rfl⟩ := Option.map_eq_some_iff.mp found
    obtain ⟨inChain, declared, wanted⟩ := nearestField?_eq_some located
    rw [Bool.and_eq_true, Bool.not_eq_true'] at wanted
    exact ⟨source.1, inChain, source.2, declared, eq_of_beq wanted.1, wanted.2⟩
  · rintro ⟨decl, inChain, field, declared, named, changes⟩
    cases found : mostDerivedVariable? chain property with
    | some nearest => exact ⟨nearest, rfl⟩
    | none =>
        rw [mostDerivedVariable?_eq, Option.map_eq_none_iff, writeField?,
          nearestField?_eq_none_iff] at found
        have unwanted := found decl inChain field declared
        rw [named, changes, beq_self_eq_true] at unwanted
        cases unwanted

theorem exists_mostDerivedField?_of_variable
    (found : mostDerivedVariable? chain property = some nearest) :
    ∃ field, mostDerivedField? chain property = some field := by
  obtain ⟨decl, inChain, field, declared, named, _⟩ :=
    exists_mostDerivedVariable?_iff.mp ⟨nearest, found⟩
  cases located : readField? chain property with
  | some source => exact ⟨source.2, by rw [mostDerivedField?_eq, located]; rfl⟩
  | none =>
      have unnamed := (nearestField?_eq_none_iff _ _).mp located decl inChain field declared
      rw [named, beq_self_eq_true] at unnamed
      cases unnamed

end Chain

/-- The most derived field of the name is a constant that a variable field further up shows
through: no method sets the property, and a variable field of the name exists. -/
structure ShowsThrough (builder : TableBuilder) (chain : List TypeDecl) (methods : List Method)
    (property : String) : Prop where
  valid : isPropertyName property = true
  uncovered : builder.candidatesOf .setter property methods = []
  constant : ∃ nearest, mostDerivedField? chain property = some nearest ∧
    nearest.isConstant = true
  changing : ∃ decl ∈ chain, ∃ field ∈ decl.fields, field.name = property ∧
    field.isConstant = false

/-- A field-backed getter always reads the most derived field, and a field-backed setter
always writes the most derived variable field. The two sides follow the most derived field
in all but one situation. -/
theorem followsNearestField_iff {builder : TableBuilder} {name : String} {table : PropertyTable}
    (built : builder.build name = .ok table) :
    ∃ chain methods, builder.registry.hierarchy name = .ok chain ∧
      builder.registry.methods name = .ok methods ∧
      ∀ property,
        (∀ field, table.getter property = .ok (.reads field) →
          mostDerivedField? chain property = some field) ∧
        (∀ field, table.setter property = .ok (.writes field) →
          mostDerivedVariable? chain property = some field) ∧
        (FollowsNearestField table chain property ↔
          ¬ ShowsThrough builder chain methods property) := by
  obtain ⟨stages⟩ := nonempty_stages built
  refine ⟨stages.chain, stages.methods, stages.walked, stages.methods_eq, ?_⟩
  intro property
  refine ⟨fun _ found => stages.mostDerivedField?_of_reads found,
    fun _ found => (stages.setter_eq_writes_iff.mp found).2.2, ?_, ?_⟩
  · intro follows shows
    obtain ⟨nearest, found, constant⟩ := shows.constant
    obtain ⟨field, changes⟩ := exists_mostDerivedVariable?_iff.mpr shows.changing
    exact follows.constantKept nearest found constant field
      (stages.setter_eq_writes_iff.mpr ⟨shows.valid, shows.uncovered, changes⟩)
  · intro hidden
    have written : ∀ field, table.setter property = .ok (.writes field) →
        mostDerivedField? stages.chain property = some field := by
      intro field found
      obtain ⟨valid, uncovered, changing⟩ := stages.setter_eq_writes_iff.mp found
      obtain ⟨nearest, first⟩ := exists_mostDerivedField?_of_variable changing
      -- Only constants are skipped, so a variable at the front is the field that is written.
      cases constant : nearest.isConstant with
      | true =>
          exact absurd ⟨valid, uncovered, ⟨nearest, first, constant⟩,
            exists_mostDerivedVariable?_iff.mp ⟨field, changing⟩⟩ hidden
      | false =>
          have same := mostDerivedVariable?_of_variable first constant
          rw [changing, Option.some.injEq] at same
          rw [first, same]
    refine ⟨fun _ found => stages.mostDerivedField?_of_reads found, written, ?_, ?_⟩
    · intro read changed reading writing
      have first := stages.mostDerivedField?_of_reads reading
      rw [written changed writing, Option.some.injEq] at first
      exact first.symm
    · intro nearest first constant field writing
      have changes := isConstant_of_mostDerivedVariable?
        (stages.setter_eq_writes_iff.mp writing).2.2
      rw [written field writing, Option.some.injEq] at first
      rw [first, constant] at changes
      cases changes

def limitVariable : Field :=
  ⟨"limit", .primitive .int, .ofList [.privateAccess], none, "Base"⟩

def limitConstant : Field :=
  ⟨"limit", .primitive .int, .ofList [.static, .final], some (.int 9), "Derived"⟩

def limits : Registry :=
  (Registry.builtin.register ((TypeDecl.ofClass "Base").addField limitVariable)).register
    ({ TypeDecl.ofClass "Derived" with superclass := some (.named "Base") }.addField limitConstant)

theorem followsNearestField_iff_limits :
    ∃ table, (ofRegistry limits).build "Derived" = .ok table ∧
      ∃ chain methods, limits.hierarchy "Derived" = .ok chain ∧
        limits.methods "Derived" = .ok methods ∧
        ∀ property,
          (∀ field, table.getter property = .ok (.reads field) →
            mostDerivedField? chain property = some field) ∧
          (∀ field, table.setter property = .ok (.writes field) →
            mostDerivedVariable? chain property = some field) ∧
          (FollowsNearestField table chain property ↔
            ¬ ShowsThrough (ofRegistry limits) chain methods property) := by
  have succeeds : ((ofRegistry limits).build "Derived").isOk = true := by decide
  obtain ⟨table, built⟩ := Fallible.exists_of_isOk succeeds
  exact ⟨table, built, followsNearestField_iff built⟩

/-- The constant of the subclass is read and the variable of the superclass written. -/
theorem not_followsNearestField_limits :
    ∃ table chain, (ofRegistry limits).build "Derived" = .ok table ∧
      limits.hierarchy "Derived" = .ok chain ∧
      table.getter "limit" = .ok (.reads limitConstant) ∧
      table.setter "limit" = .ok (.writes limitVariable) ∧
      mostDerivedField? chain "limit" = some limitConstant ∧
      ¬ FollowsNearestField table chain "limit" := by
  have succeeds : ((ofRegistry limits).build "Derived").isOk = true := by decide
  obtain ⟨table, built⟩ := Fallible.exists_of_isOk succeeds
  have read : ((ofRegistry limits).build "Derived").bind (·.getter "limit") =
      .ok (.reads limitConstant) := rfl
  have written : ((ofRegistry limits).build "Derived").bind (·.setter "limit") =
      .ok (.writes limitVariable) := rfl
  rw [built] at read written
  refine ⟨table, _, built, rfl, read, written, rfl, ?_⟩
  intro follows
  have same := congrArg Field.declaring (follows.same _ _ read written)
  exact absurd same (by decide)

end Introspection.TableBuilder
