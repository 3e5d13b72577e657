import Introspection.Proofs.TableConsistency

/-!
# Names in any letter case

All names of a table, readable before writable, are entered under their upper-case forms, and a
later one takes the place of an earlier one. So a property finds itself unless another
that agrees with it up to case is entered after it (`findName?_self_iff`). All of them do exactly
when the members of the type never name two properties that differ in case alone.
-/

set_option autoImplicit false

namespace Introspection

namespace PropertyTable.InStep

variable {table : PropertyTable} {asked found property : String} (inStep : table.InStep)
include inStep

theorem findName?_eq_some_iff :
    table.findName? asked = some found ↔
      Text.upper found.toList = Text.upper asked.toList ∧
        ∃ before after, table.readable ++ table.writable = before ++ found :: after ∧
          ∀ later ∈ after, Text.upper later.toList ≠ Text.upper asked.toList := by
  rw [inStep.findName?_eq, List.find?_eq_some_iff_append, decide_eq_true_iff]
  refine and_congr_right fun _ => ?_
  constructor
  · rintro ⟨after, before, split, unlike⟩
    refine ⟨before.reverse, after.reverse, ?_, ?_⟩
    · simpa using congrArg List.reverse split
    · simpa using unlike
  · rintro ⟨before, after, split, unlike⟩
    refine ⟨after.reverse, before.reverse, by simp [split], ?_⟩
    simpa using unlike

/-- A property finds itself when nothing that is entered after it agrees with it. -/
theorem findName?_self_iff :
    table.findName? property = some property ↔
      ∃ before after, table.readable ++ table.writable = before ++ property :: after ∧
        ∀ later ∈ after, Text.upper property.toList ≠ Text.upper later.toList := by
  rw [inStep.findName?_eq_some_iff]
  simp only [true_and, ne_comm]

theorem forall_findName?_self_iff :
    (∀ property ∈ table.readable ++ table.writable,
        table.findName? property = some property) ↔
      ∀ first ∈ table.readable ++ table.writable, ∀ second ∈ table.readable ++ table.writable,
        Text.upper first.toList = Text.upper second.toList → first = second := by
  constructor
  · intro all first inside second alsoInside alike
    have same : table.findName? first = table.findName? second := by
      rw [findName?, findName?, alike]
    rw [all first inside, all second alsoInside] at same
    exact Option.some.inj same
  · intro distinct property listed
    obtain ⟨found, matched⟩ := inStep.exists_findName?_of_mem listed rfl
    obtain ⟨foundListed, alike⟩ := inStep.mem_of_findName?_eq_some matched
    rw [matched, distinct found foundListed property listed alike]

end PropertyTable.InStep

namespace TableBuilder

variable {builder : TableBuilder} {name : String} {table : PropertyTable} {chain : List TypeDecl}
  {methods : List Method} {property : String}

/-- A method or a field gives the property its name. -/
inductive Names (builder : TableBuilder) (chain : List TypeDecl) (methods : List Method) :
    String → Prop where
  | method (side : Side) (method : Method) (property : String) (listed : method ∈ methods)
      (named : builder.propertyOf? side method = some property) :
      Names builder chain methods property
  | field (decl : TypeDecl) (field : Field) (inChain : decl ∈ chain)
      (declared : field ∈ decl.fields) (valid : isPropertyName field.name = true) :
      Names builder chain methods field.name

theorem mem_map_propertyFields_iff :
    property ∈ (propertyFields chain).map (fun entry => entry.2.name) ↔
      ∃ decl ∈ chain, ∃ field ∈ decl.fields, isPropertyName field.name = true ∧
        field.name = property := by
  simp only [propertyFields, List.mem_map, List.mem_flatMap, List.mem_filter]
  constructor
  · rintro ⟨_, ⟨decl, inChain, field, ⟨declared, valid⟩, rfl⟩, rfl⟩
    exact ⟨decl, inChain, field, declared, valid, rfl⟩
  · rintro ⟨decl, inChain, field, declared, valid, rfl⟩
    exact ⟨(decl, field), ⟨decl, inChain, field, ⟨declared, valid⟩, rfl⟩, rfl⟩

/-- The listed names are the ones that members give. -/
theorem Stages.mem_listed_iff (stages : Stages builder name table) :
    property ∈ table.readable ++ table.writable ↔
      builder.Names stages.chain stages.methods property := by
  rw [List.mem_append, stages.readable_eq, stages.writable_eq, List.mem_eraseDups,
    List.mem_eraseDups, List.mem_append, List.mem_append, List.mem_filterMap, List.mem_filterMap,
    mem_map_propertyFields_iff]
  constructor
  · rintro ((⟨method, listed, named⟩ | ⟨decl, inChain, field, declared, valid, rfl⟩) |
      (⟨method, listed, named⟩ | changeable))
    · exact .method .getter method property listed named
    · exact .field decl field inChain declared valid
    · exact .method .setter method property listed named
    · obtain ⟨entry, kept, rfl⟩ := List.mem_map.mp changeable
      obtain ⟨decl, inChain, field, declared, valid, same⟩ :=
        mem_map_propertyFields_iff.mp (List.mem_map_of_mem (List.mem_of_mem_filter kept))
      rw [← same]
      exact .field decl field inChain declared valid
  · intro names
    cases names with
    | method side method _ listed named =>
        cases side with
        | getter => exact .inl (.inl ⟨method, listed, named⟩)
        | setter => exact .inr (.inl ⟨method, listed, named⟩)
    | field decl field inChain declared valid =>
        exact .inl (.inr ⟨decl, inChain, field, declared, valid, rfl⟩)

/-- A property finds itself, and not another of its spelling up to case, exactly when none of that
spelling is entered after it. All do when the members of the type never give two such names. -/
theorem findName?_self_iff_of_build (walked : builder.registry.hierarchy name = .ok chain)
    (collected : builder.registry.methodsAlong chain = .ok methods)
    (built : builder.build name = .ok table) :
    (∀ property ∈ table.readable ++ table.writable,
      (∃ found ∈ table.readable ++ table.writable, table.findName? property = some found ∧
        Text.upper found.toList = Text.upper property.toList) ∧
      (table.findName? property = some property ↔
        ∃ before after, table.readable ++ table.writable = before ++ property :: after ∧
          ∀ later ∈ after, Text.upper property.toList ≠ Text.upper later.toList)) ∧
    ((∀ property ∈ table.readable ++ table.writable,
        table.findName? property = some property) ↔
      ∀ first second, builder.Names chain methods first → builder.Names chain methods second →
        Text.upper first.toList = Text.upper second.toList → first = second) := by
  obtain ⟨stages⟩ := nonempty_stages built
  obtain rfl : stages.chain = chain := Except.ok.inj (stages.walked.symm.trans walked)
  obtain rfl : stages.methods = methods := Except.ok.inj (stages.collected.symm.trans collected)
  have inStep := inStep_of_build built
  constructor
  · intro property listed
    obtain ⟨found, matched⟩ := inStep.exists_findName?_of_mem listed rfl
    obtain ⟨foundListed, alike⟩ := inStep.mem_of_findName?_eq_some matched
    exact ⟨⟨found, foundListed, matched, alike⟩, inStep.findName?_self_iff⟩
  · rw [inStep.forall_findName?_self_iff]
    simp only [stages.mem_listed_iff]
    exact ⟨fun distinct first second named alsoNamed => distinct first named second alsoNamed,
      fun distinct first named second alsoNamed => distinct first second named alsoNamed⟩

def links : Registry :=
  Registry.builtin.register
    (((TypeDecl.ofClass "Link").addField
      ⟨"url", .named "String", .ofList [.privateAccess], none, "Link"⟩).addMethod
        (.getterOf "getURL" "url" (.named "String")))

theorem exists_table_links :
    ∃ table, (ofRegistry links).build "Link" = .ok table ∧ table.readable = ["URL", "url"] ∧
      table.writable = ["url"] := by
  have succeeds : ((ofRegistry links).build "Link").isOk = true := by decide
  obtain ⟨table, built⟩ := Fallible.exists_of_isOk succeeds
  have readable : ((ofRegistry links).build "Link").map PropertyTable.readable =
      .ok ["URL", "url"] := by decide
  have writable : ((ofRegistry links).build "Link").map PropertyTable.writable = .ok ["url"] := by
    decide
  rw [built] at readable writable
  exact ⟨table, built, Except.ok.inj readable, Except.ok.inj writable⟩

theorem findName?_self_iff_of_build_links :
    ∃ table chain methods, links.hierarchy "Link" = .ok chain ∧
      links.methodsAlong chain = .ok methods ∧ (ofRegistry links).build "Link" = .ok table ∧
      "url" ∈ table.readable ++ table.writable ∧ table.findName? "url" = some "url" ∧
      (ofRegistry links).Names chain methods "url" := by
  obtain ⟨table, built, readable, writable⟩ := exists_table_links
  obtain ⟨stages⟩ := nonempty_stages built
  have listed : "url" ∈ table.readable ++ table.writable := by simp [readable]
  have found := ((findName?_self_iff_of_build stages.walked stages.collected built).1 _ listed).2.mpr
    ⟨["URL", "url"], [], by simp [readable, writable], by simp⟩
  exact ⟨table, _, _, stages.walked, stages.collected, built, listed, found,
    stages.mem_listed_iff.mp listed⟩

/-- The readable property `URL` is not found under its own name. -/
theorem findName?_ne_self_links :
    ∃ table, (ofRegistry links).build "Link" = .ok table ∧ "URL" ∈ table.readable ∧
      table.findName? "URL" = some "url" ∧ table.findName? "URL" ≠ some "URL" := by
  obtain ⟨table, built, readable, writable⟩ := exists_table_links
  have found : table.findName? "URL" = some "url" := by
    rw [(inStep_of_build built).findName?_eq, readable, writable]
    decide
  exact ⟨table, built, by simp [readable], found, by simp [found]⟩

end TableBuilder

end Introspection
