import Introspection.Proofs.Hierarchy
import Introspection.Proofs.OrderedMap
import Introspection.PropertyTable.Build

/-!
# The maps of a table stay in step

A build fills four maps in three passes: getters among the methods, setters among
the methods, fields. Whatever a pass finds it enters twice, an accessor into one
map and its type into another. Seen side by side the two are one map of accessors
with types (`Paired`), and each pass is a pass over that map (`addGetters_split`,
`addSetters_split`, `addFields_split`). So the maps of a table that is built have
the same names in the same order, and its lists and spellings are made of them
(`inStep_of_build`).
-/

set_option autoImplicit false

namespace Introspection

/-- One side of a property: how it is reached and the type it has there. -/
structure Property where
  accessor : Accessor
  type : TypeExpr

/-- What has been collected about properties, an accessor and its type in one entry. -/
structure Paired where
  getters : OrderedMap String Property
  setters : OrderedMap String Property

namespace Paired

def split (paired : Paired) : Properties where
  getters := paired.getters.mapValues Property.accessor
  setters := paired.setters.mapValues Property.accessor
  getterTypes := paired.getters.mapValues Property.type
  setterTypes := paired.setters.mapValues Property.type

theorem insertGetter_split (getters setters : OrderedMap String Property) (property : String)
    (accessor : Accessor) (type : TypeExpr) :
    (split ⟨getters, setters⟩).insertGetter property accessor type =
      split ⟨getters.insert property ⟨accessor, type⟩, setters⟩ := by
  simp [split, Properties.insertGetter, OrderedMap.mapValues_insert]

theorem insertSetter_split (getters setters : OrderedMap String Property) (property : String)
    (accessor : Accessor) (type : TypeExpr) :
    (split ⟨getters, setters⟩).insertSetter property accessor type =
      split ⟨getters, setters.insert property ⟨accessor, type⟩⟩ := by
  simp [split, Properties.insertSetter, OrderedMap.mapValues_insert]

end Paired

namespace TableBuilder

/-! ## Methods -/

def chosenGetter (builder : TableBuilder) (context : TypeDecl) (entry : String × List Method) :
    Except MetadataError (Option Property) := do
  match ← builder.registry.chooseGetter entry.1 entry.2 with
  | none => pure none
  | some winner =>
      let type ← builder.resolve context winner.declaring winner.returns
      pure (some ⟨.getter winner, type⟩)

def methodGetters (builder : TableBuilder) (context : TypeDecl) (methods : List Method) :
    Except MetadataError (OrderedMap String Property) :=
  (builder.candidates .getter methods).entries.foldlM
    (OrderedMap.fill (builder.chosenGetter context)) .empty

theorem addGetter_split (builder : TableBuilder) (context : TypeDecl)
    (getters setters : OrderedMap String Property) (entry : String × List Method) :
    builder.addGetter context (Paired.split ⟨getters, setters⟩) entry =
      (OrderedMap.fill (builder.chosenGetter context) getters entry).map
        fun next => Paired.split ⟨next, setters⟩ := by
  unfold addGetter OrderedMap.fill chosenGetter
  cases builder.registry.chooseGetter entry.1 entry.2 with
  | error error => rfl
  | ok choice =>
      cases choice with
      | none => rfl
      | some winner =>
          simp only [bind, Except.bind]
          cases builder.resolve context winner.declaring winner.returns with
          | error error => rfl
          | ok type => exact congrArg Except.ok (Paired.insertGetter_split _ _ _ _ _)

theorem addGetters_split (builder : TableBuilder) (context : TypeDecl) (methods : List Method) :
    builder.addGetters context methods .empty =
      (builder.methodGetters context methods).map fun getters => Paired.split ⟨getters, .empty⟩ :=
  Fallible.foldlM_view (fun getters => Paired.split ⟨getters, .empty⟩)
    (fun entry _ getters => builder.addGetter_split context getters .empty entry) .empty

def chosenSetter (builder : TableBuilder) (context : TypeDecl)
    (getters : OrderedMap String Property) (entry : String × List Method) :
    Except MetadataError (Option Property) := do
  match ← builder.registry.chooseSetter entry.1 entry.2
      ((getters.get? entry.1).map Property.type) with
  | none => pure none
  | some winner =>
      match winner.parameters.head? with
      | none => pure none
      | some parameter =>
          let type ← builder.resolve context winner.declaring parameter
          pure (some ⟨.setter winner, type⟩)

def methodSetters (builder : TableBuilder) (context : TypeDecl)
    (getters : OrderedMap String Property) (methods : List Method) :
    Except MetadataError (OrderedMap String Property) :=
  (builder.candidates .setter methods).entries.foldlM
    (OrderedMap.fill (builder.chosenSetter context getters)) .empty

/-- The type that the choice looks at is the one beside the getter. -/
theorem addSetter_split (builder : TableBuilder) (context : TypeDecl)
    (getters setters : OrderedMap String Property) (entry : String × List Method) :
    builder.addSetter context (Paired.split ⟨getters, setters⟩) entry =
      (OrderedMap.fill (builder.chosenSetter context getters) setters entry).map
        fun next => Paired.split ⟨getters, next⟩ := by
  have beside : (Paired.split ⟨getters, setters⟩).getterTypes.get? entry.1 =
      (getters.get? entry.1).map Property.type := OrderedMap.get?_mapValues _ _ _
  unfold addSetter OrderedMap.fill chosenSetter
  dsimp only
  rw [beside]
  cases builder.registry.chooseSetter entry.1 entry.2
      ((getters.get? entry.1).map Property.type) with
  | error error => rfl
  | ok choice =>
      cases choice with
      | none => rfl
      | some winner =>
          simp only [bind, Except.bind]
          cases winner.parameters.head? with
          | none => rfl
          | some parameter =>
              dsimp only
              cases builder.resolve context winner.declaring parameter with
              | error error => rfl
              | ok type => exact congrArg Except.ok (Paired.insertSetter_split _ _ _ _ _)

theorem addSetters_split (builder : TableBuilder) (context : TypeDecl) (methods : List Method)
    (getters : OrderedMap String Property) :
    builder.addSetters context methods (Paired.split ⟨getters, .empty⟩) =
      (builder.methodSetters context getters methods).map
        fun setters => Paired.split ⟨getters, setters⟩ :=
  Fallible.foldlM_view (fun setters => Paired.split ⟨getters, setters⟩)
    (fun entry _ setters => builder.addSetter_split context getters setters entry) .empty

/-! ## Fields -/

def fieldProperty (builder : TableBuilder) (context : TypeDecl) (accessor : Field → Accessor)
    (entry : TypeDecl × Field) : Property :=
  ⟨accessor entry.2, builder.resolver builder.registry entry.2.type entry.1 context⟩

def withFields (builder : TableBuilder) (context : TypeDecl) (accessor : Field → Accessor)
    (found : OrderedMap String Property) (fields : List (TypeDecl × Field)) :
    OrderedMap String Property :=
  fields.foldl (fun properties entry =>
    properties.insertIfNew entry.2.name (builder.fieldProperty context accessor entry)) found

def withField (builder : TableBuilder) (context : TypeDecl) (paired : Paired)
    (entry : TypeDecl × Field) : Paired where
  getters := paired.getters.insertIfNew entry.2.name (builder.fieldProperty context .reads entry)
  setters :=
    if entry.2.isConstant then paired.setters
    else paired.setters.insertIfNew entry.2.name (builder.fieldProperty context .writes entry)

theorem addField_split (builder : TableBuilder) (context : TypeDecl) (paired : Paired)
    {entry : TypeDecl × Field}
    (registered : builder.registry.lookup? entry.1.name = some entry.1) :
    builder.addField context paired.split entry =
      .ok (builder.withField context paired entry).split := by
  have resolved : builder.resolve context entry.1.name entry.2.type =
      .ok (builder.resolver builder.registry entry.2.type entry.1 context) := by
    rw [resolve, Registry.require_eq_ok_iff.mpr registered]
    rfl
  have read : paired.split.getters.contains entry.2.name =
      paired.getters.contains entry.2.name := OrderedMap.contains_mapValues _ _ _
  have written : paired.split.setters.contains entry.2.name =
      paired.setters.contains entry.2.name := OrderedMap.contains_mapValues _ _ _
  obtain ⟨getters, setters⟩ := paired
  simp only [addField, read, written, resolved]
  -- Which sides are free, and whether the field may be written, decide what is entered.
  cases isRead : getters.contains entry.2.name <;>
    cases isWritten : setters.contains entry.2.name <;>
    cases constant : entry.2.isConstant <;>
    simp [withField, OrderedMap.insertIfNew, isRead, isWritten, constant, bind, Except.bind, pure,
      Except.pure, Paired.insertGetter_split, Paired.insertSetter_split, fieldProperty]

theorem foldl_withField (builder : TableBuilder) (context : TypeDecl)
    (getters setters : OrderedMap String Property) (fields : List (TypeDecl × Field)) :
    fields.foldl (builder.withField context) ⟨getters, setters⟩ =
      ⟨builder.withFields context .reads getters fields,
        builder.withFields context .writes setters
          (fields.filter fun entry => !entry.2.isConstant)⟩ := by
  induction fields generalizing getters setters with
  | nil => rfl
  | cons entry rest ih =>
      rw [List.foldl_cons, withField, ih]
      cases constant : entry.2.isConstant <;> simp [withFields, constant]

theorem addFields_split (builder : TableBuilder) (context : TypeDecl) {chain : List TypeDecl}
    (registered : ∀ decl ∈ chain, builder.registry.lookup? decl.name = some decl)
    (getters setters : OrderedMap String Property) :
    builder.addFields context chain (Paired.split ⟨getters, setters⟩) =
      .ok (Paired.split ⟨builder.withFields context .reads getters (propertyFields chain),
        builder.withFields context .writes setters
          ((propertyFields chain).filter fun entry => !entry.2.isConstant)⟩) := by
  have agree : ∀ entry ∈ propertyFields chain, ∀ paired : Paired,
      builder.addField context paired.split entry =
        (pure (builder.withField context paired entry) : Except MetadataError Paired).map
          Paired.split := by
    intro entry listed paired
    obtain ⟨decl, inChain, made⟩ := List.mem_flatMap.mp listed
    obtain ⟨field, _, rfl⟩ := List.mem_map.mp made
    exact builder.addField_split context paired (registered decl inChain)
  rw [addFields, Fallible.foldlM_view Paired.split agree, List.foldlM_pure, foldl_withField]
  rfl

/-! ## A whole build -/

theorem assemble_split (builder : TableBuilder) (decl : TypeDecl) {chain : List TypeDecl}
    (registered : ∀ decl ∈ chain, builder.registry.lookup? decl.name = some decl)
    (methods : List Method) :
    builder.assemble decl chain methods = do
      let getters ← builder.methodGetters decl methods
      let setters ← builder.methodSetters decl getters methods
      return .ofProperties decl builder.access (Paired.split
        ⟨builder.withFields decl .reads getters (propertyFields chain),
          builder.withFields decl .writes setters
            ((propertyFields chain).filter fun entry => !entry.2.isConstant)⟩) := by
  rw [assemble, addGetters_split]
  cases builder.methodGetters decl methods with
  | error error => rfl
  | ok getters =>
      show (builder.addSetters decl methods (Paired.split ⟨getters, .empty⟩) >>= _) = _
      rw [addSetters_split]
      simp only [bind, Except.bind]
      cases builder.methodSetters decl getters methods with
      | error error => rfl
      | ok setters => simp only [Except.map, addFields_split builder decl registered]

end TableBuilder

namespace PropertyTable

/-- Accessors and types have the same names in the same order, and the lists and the spellings
are made of these names. -/
structure InStep (table : PropertyTable) : Prop where
  getterTypes : table.getterTypes.keys = table.getters.keys
  setterTypes : table.setterTypes.keys = table.setters.keys
  readable : table.readable = table.getters.keys
  writable : table.writable = table.setters.keys
  aliases : table.aliases = aliasesOf (table.readable ++ table.writable)

theorem inStep_ofProperties (decl : TypeDecl) (access : Access) (paired : Paired) :
    (ofProperties decl access paired.split).InStep where
  getterTypes := by simp [ofProperties, Paired.split]
  setterTypes := by simp [ofProperties, Paired.split]
  readable := rfl
  writable := rfl
  aliases := rfl

end PropertyTable

namespace TableBuilder

theorem inStep_of_build {builder : TableBuilder} {name : String} {table : PropertyTable}
    (built : builder.build name = .ok table) : table.InStep := by
  obtain ⟨decl, _, built⟩ := Fallible.bind_eq_ok_iff.mp built
  obtain ⟨chain, walked, built⟩ := Fallible.bind_eq_ok_iff.mp built
  obtain ⟨methods, _, built⟩ := Fallible.bind_eq_ok_iff.mp built
  rw [builder.assemble_split decl (fun _ => Registry.lookup?_of_mem_hierarchy walked)] at built
  obtain ⟨getters, _, built⟩ := Fallible.bind_eq_ok_iff.mp built
  obtain ⟨setters, _, built⟩ := Fallible.bind_eq_ok_iff.mp built
  rw [← Fallible.pure_eq_ok_iff.mp built]
  exact PropertyTable.inStep_ofProperties decl builder.access _

end TableBuilder

end Introspection
