import Introspection.Proofs.AccessorChecks
import Introspection.Proofs.TableBuilder
import Mathlib.Data.List.Induction

/-!
# The queries of a table agree

The names that a table lists, the accessors and types that it gives for them,
and the search without regard to letter case are separate questions. `Consistent`
says how their answers fit together, and what stands behind an accessor; every
table that is built satisfies it.
-/

set_option autoImplicit false

namespace Introspection

namespace PropertyTable

variable {table : PropertyTable} {asked found property : String}

theorem mem_keys_iff_require {α : Type} (table : PropertyTable) (side : Side)
    (entries : OrderedMap String α) (property : String) :
    property ∈ entries.keys ↔ ∃ found, table.require side entries property = .ok found := by
  rw [OrderedMap.mem_keys_iff]
  simp only [require_eq_ok_iff]

/-! ## Spellings -/

theorem aliasesOf_concat (names : List String) (name : String) :
    aliasesOf (names ++ [name]) = (aliasesOf names).insert (Text.upper name.toList) name := by
  rw [aliasesOf, List.foldl_append]
  rfl

/-- The last of the names with a spelling is the one that stays. -/
theorem get?_aliasesOf (names : List String) (spelling : List Char) :
    (aliasesOf names).get? spelling =
      names.reverse.find? fun name => decide (Text.upper name.toList = spelling) := by
  induction names using List.reverseRecOn with
  | nil => rfl
  | append_singleton names name ih =>
      rw [aliasesOf_concat, OrderedMap.get?_insert, List.reverse_append, List.reverse_singleton,
        List.singleton_append, List.find?_cons, ih]
      by_cases alike : Text.upper name.toList = spelling <;> simp [alike]

namespace InStep

variable (inStep : table.InStep)
include inStep

theorem findName?_eq (asked : String) :
    table.findName? asked = (table.readable ++ table.writable).reverse.find?
      fun listed => decide (Text.upper listed.toList = Text.upper asked.toList) := by
  rw [findName?, inStep.aliases, get?_aliasesOf]

theorem mem_of_findName?_eq_some (matched : table.findName? asked = some found) :
    found ∈ table.readable ++ table.writable ∧
      Text.upper found.toList = Text.upper asked.toList := by
  rw [inStep.findName?_eq] at matched
  have alike := List.find?_some matched
  exact ⟨List.mem_reverse.mp (List.mem_of_find?_eq_some matched), of_decide_eq_true alike⟩

theorem exists_findName?_of_mem (listed : property ∈ table.readable ++ table.writable)
    (alike : Text.upper property.toList = Text.upper asked.toList) :
    ∃ found, table.findName? asked = some found := by
  rw [inStep.findName?_eq, ← Option.isSome_iff_exists, List.find?_isSome]
  exact ⟨property, List.mem_reverse.mpr listed, decide_eq_true alike⟩

/-- A name is listed exactly when each of the queries about reading it has an answer. -/
theorem mem_readable_iff (property : String) :
    (property ∈ table.readable ↔ table.hasGetter property = true) ∧
      (property ∈ table.readable ↔ ∃ accessor, table.getter property = .ok accessor) ∧
      (property ∈ table.readable ↔ ∃ type, table.getterType property = .ok type) := by
  refine ⟨?_, ?_, ?_⟩
  · rw [inStep.readable]
    exact (OrderedMap.contains_iff _ _).symm
  · rw [inStep.readable]
    exact table.mem_keys_iff_require .getter table.getters property
  · rw [inStep.readable, ← inStep.getterTypes]
    exact table.mem_keys_iff_require .getter table.getterTypes property

theorem mem_writable_iff (property : String) :
    (property ∈ table.writable ↔ table.hasSetter property = true) ∧
      (property ∈ table.writable ↔ ∃ accessor, table.setter property = .ok accessor) ∧
      (property ∈ table.writable ↔ ∃ type, table.setterType property = .ok type) := by
  refine ⟨?_, ?_, ?_⟩
  · rw [inStep.writable]
    exact (OrderedMap.contains_iff _ _).symm
  · rw [inStep.writable]
    exact table.mem_keys_iff_require .setter table.setters property
  · rw [inStep.writable, ← inStep.setterTypes]
    exact table.mem_keys_iff_require .setter table.setterTypes property

end InStep

/-- How the answers of a table fit together. The methods and the class chain are those of
the described type, and the namer is the one that sorted the methods. -/
structure Consistent (table : PropertyTable) (namer : Namer) (chain : List TypeDecl)
    (methods : List Method) : Prop where
  readableDistinct : table.readable.Nodup
  writableDistinct : table.writable.Nodup
  readableAnswered : ∀ property,
    (property ∈ table.readable ↔ table.hasGetter property = true) ∧
      (property ∈ table.readable ↔ ∃ accessor, table.getter property = .ok accessor) ∧
      (property ∈ table.readable ↔ ∃ type, table.getterType property = .ok type)
  writableAnswered : ∀ property,
    (property ∈ table.writable ↔ table.hasSetter property = true) ∧
      (property ∈ table.writable ↔ ∃ accessor, table.setter property = .ok accessor) ∧
      (property ∈ table.writable ↔ ∃ type, table.setterType property = .ok type)
  named : ∀ property ∈ table.readable ++ table.writable, isPropertyName property = true
  getterBacked : ∀ property accessor, table.getter property = .ok accessor →
    (∃ method ∈ methods, accessor = .getter method ∧ method.isGenerated = false ∧
        method.parameters = [] ∧ namer.classify method = some (.getter, property)) ∨
      ∃ decl ∈ chain, ∃ field ∈ decl.fields, accessor = .reads field ∧ field.name = property
  setterBacked : ∀ property accessor, table.setter property = .ok accessor →
    (∃ method ∈ methods, accessor = .setter method ∧ method.isGenerated = false ∧
        method.parameters.length = 1 ∧ namer.classify method = some (.setter, property)) ∨
      ∃ decl ∈ chain, ∃ field ∈ decl.fields, accessor = .writes field ∧ field.name = property ∧
        field.isConstant = false
  getterTakesNothing : ∀ property accessor, table.getter property = .ok accessor →
    ∀ access target member expected actual,
      accessor.checked access target none ≠ .error (.argumentCount member expected actual)
  setterTakesOne : ∀ property accessor, table.setter property = .ok accessor →
    ∀ access target value member expected actual,
      accessor.checked access target (some value) ≠
        .error (.argumentCount member expected actual)
  foundAlike : ∀ name found, table.findName? name = some found →
    found ∈ table.readable ++ table.writable ∧
      Text.upper found.toList = Text.upper name.toList
  alikeFound : ∀ name, ∀ listed ∈ table.readable ++ table.writable,
    Text.upper listed.toList = Text.upper name.toList →
      ∃ found, table.findName? name = some found

end PropertyTable

namespace TableBuilder

namespace Stages

variable {builder : TableBuilder} {name : String} {table : PropertyTable} {property : String}
  {accessor : Accessor}

theorem getterBacked (stages : Stages builder name table)
    (found : table.getter property = .ok accessor) :
    (∃ method ∈ stages.methods, accessor = .getter method ∧ method.isGenerated = false ∧
        method.parameters = [] ∧ builder.namer.classify method = some (.getter, property)) ∨
      ∃ decl ∈ stages.chain, ∃ field ∈ decl.fields, accessor = .reads field ∧
        field.name = property := by
  obtain ⟨entry, stored, rfl⟩ := stages.getter_eq_ok_iff.mp found
  rcases (stages.getter_cases stored).2 with
    ⟨winner, type, selected, _, rfl⟩ | ⟨_, source, nearest, rfl⟩
  · left
    obtain ⟨listed, classified, _⟩ :=
      (mem_candidatesOf_iff _ _ _ _ _).mp (Registry.mem_of_chooseGetter selected)
    obtain ⟨_, _, _, _, _, byHand⟩ := Registry.mem_methodsAlong stages.collected listed
    exact ⟨winner, listed, rfl, byHand, Namer.parameters_of_classify_getter classified,
      classified⟩
  · right
    obtain ⟨inChain, declared, wanted⟩ := nearestField?_eq_some nearest
    exact ⟨source.1, inChain, source.2, declared, rfl, eq_of_beq wanted⟩

theorem setterBacked (stages : Stages builder name table)
    (found : table.setter property = .ok accessor) :
    (∃ method ∈ stages.methods, accessor = .setter method ∧ method.isGenerated = false ∧
        method.parameters.length = 1 ∧
        builder.namer.classify method = some (.setter, property)) ∨
      ∃ decl ∈ stages.chain, ∃ field ∈ decl.fields, accessor = .writes field ∧
        field.name = property ∧ field.isConstant = false := by
  obtain ⟨entry, stored, rfl⟩ := stages.setter_eq_ok_iff.mp found
  rcases (stages.setter_cases stored).2 with
    ⟨winner, parameter, type, selected, single, _, rfl⟩ | ⟨_, source, nearest, rfl⟩
  · left
    obtain ⟨listed, classified, _⟩ :=
      (mem_candidatesOf_iff _ _ _ _ _).mp (Registry.mem_of_chooseSetter selected)
    obtain ⟨_, _, _, _, _, byHand⟩ := Registry.mem_methodsAlong stages.collected listed
    exact ⟨winner, listed, rfl, byHand, by rw [single, List.length_singleton], classified⟩
  · right
    obtain ⟨inChain, declared, wanted⟩ := nearestField?_eq_some nearest
    rw [Bool.and_eq_true, Bool.not_eq_true'] at wanted
    exact ⟨source.1, inChain, source.2, declared, rfl, eq_of_beq wanted.1, wanted.2⟩

theorem isPropertyName_of_mem (stages : Stages builder name table)
    (listed : property ∈ table.readable ++ table.writable) :
    isPropertyName property = true := by
  rcases List.mem_append.mp listed with readable | writable
  · obtain ⟨entry, stored⟩ := stages.mem_readable_iff.mp readable
    exact (stages.getter_cases stored).1
  · obtain ⟨entry, stored⟩ := stages.mem_writable_iff.mp writable
    exact (stages.setter_cases stored).1

theorem arity_of_getter (stages : Stages builder name table)
    (found : table.getter property = .ok accessor) : accessor.arity = 0 := by
  rcases stages.getterBacked found with ⟨method, _, rfl, _, none, _⟩ | ⟨_, _, _, _, rfl, _⟩
  · rw [Accessor.arity, Method.arity, none, List.length_nil]
  · rfl

theorem arity_of_setter (stages : Stages builder name table)
    (found : table.setter property = .ok accessor) : accessor.arity = 1 := by
  rcases stages.setterBacked found with ⟨method, _, rfl, _, single, _⟩ | ⟨_, _, _, _, rfl, _⟩
  · exact single
  · rfl

end Stages

/-- Whatever the registry, the namer, the resolver and the permissions are, a table that
is built answers its queries consistently. -/
theorem consistent_of_build {builder : TableBuilder} {name : String} {table : PropertyTable}
    (built : builder.build name = .ok table) :
    ∃ chain methods, builder.registry.hierarchy name = .ok chain ∧
      builder.registry.methods name = .ok methods ∧
      table.Consistent builder.namer chain methods := by
  obtain ⟨stages⟩ := nonempty_stages built
  have inStep := inStep_of_build built
  refine ⟨stages.chain, stages.methods, stages.walked, stages.methods_eq, ?_⟩
  exact
    { readableDistinct := inStep.readable ▸ table.getters.keys_nodup
      writableDistinct := inStep.writable ▸ table.setters.keys_nodup
      readableAnswered := inStep.mem_readable_iff
      writableAnswered := inStep.mem_writable_iff
      named := fun _ listed => stages.isPropertyName_of_mem listed
      getterBacked := fun _ _ found => stages.getterBacked found
      setterBacked := fun _ _ found => stages.setterBacked found
      getterTakesNothing := fun _ _ found _ _ _ _ _ =>
        Accessor.checked_ne_argumentCount (stages.arity_of_getter found).symm
      setterTakesOne := fun _ _ found _ _ _ _ _ _ =>
        Accessor.checked_ne_argumentCount (stages.arity_of_setter found).symm
      foundAlike := fun _ _ matched => inStep.mem_of_findName?_eq_some matched
      alikeFound := fun _ _ member alike => inStep.exists_findName?_of_mem member alike }

/-- A class whose `name` is covered by methods and whose `id` is a field only. -/
def accountClass : TypeDecl :=
  (((TypeDecl.ofClass "Account").addField ⟨"id", .primitive .long, .publicOnly, none, ""⟩).addMethod
      (.getterOf "getName" "id" (.named "String"))).addMethod
    (.setterOf "setName" "id" (.named "String"))

theorem consistent_of_build_account :
    ∃ table, (ofRegistry (Registry.builtin.register accountClass)).build "Account" = .ok table ∧
      ∃ chain methods,
        (Registry.builtin.register accountClass).hierarchy "Account" = .ok chain ∧
        (Registry.builtin.register accountClass).methods "Account" = .ok methods ∧
        table.Consistent .beans chain methods := by
  have succeeds : ((ofRegistry (Registry.builtin.register accountClass)).build "Account").isOk =
      true := by
    decide
  obtain ⟨table, built⟩ := Fallible.exists_of_isOk succeeds
  exact ⟨table, built, consistent_of_build built⟩

end TableBuilder

end Introspection
