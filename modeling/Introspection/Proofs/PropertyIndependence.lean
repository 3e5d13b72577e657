import Introspection.Proofs.InterfaceClosure
import Introspection.Proofs.ResolutionPaths
import Introspection.Proofs.TableBuilder

/-!
# Properties do not interfere

What a table knows of one property depends on the methods that stand for that property, on the
fields and on the types, but on no other method. Two registries may differ by any other methods,
anywhere: as long as both tables can be built, they agree on the property
(`properties_independent`). Methods of one signature stand for one property, so no method that is
added takes the place of one that counts.
-/

set_option autoImplicit false

namespace Introspection

/-- The declaration as it is, or with other methods, where those to be kept are the same. -/
inductive TypeDecl.AlikeOn (keeps : Method → Bool) : TypeDecl → TypeDecl → Prop where
  | others {decl : TypeDecl} {methods : List Method} :
      decl.methods.filter keeps = methods.filter keeps →
      AlikeOn keeps decl { decl with methods := methods }

/-- Every name leads to the same declaration, but for methods that are not to be kept. -/
def Registry.AlikeOn (keeps : Method → Bool) (first second : Registry) : Prop :=
  ∀ name, Option.Rel (TypeDecl.AlikeOn keeps) (first.lookup? name) (second.lookup? name)

def Namer.standsFor (namer : Namer) (property : String) (method : Method) : Bool :=
  (namer.classify method).any fun found => found.2 == property

variable {keeps : Method → Bool}

/-! ## Declarations -/

namespace TypeDecl

variable {decl other : TypeDecl}

theorem AlikeOn.refl (decl : TypeDecl) : decl.AlikeOn keeps decl := .others rfl

/-- Methods that are not to be kept may be added at any place. -/
theorem AlikeOn.of_insert (before added after : List Method)
    (split : decl.methods = before ++ after) (foreign : ∀ method ∈ added, keeps method = false) :
    decl.AlikeOn keeps { decl with methods := before ++ added ++ after } := by
  have dropped : added.filter keeps = [] := by
    rw [List.filter_eq_nil_iff]
    intro method inside
    rw [foreign method inside]
    exact Bool.false_ne_true
  apply AlikeOn.others
  rw [split, List.filter_append, List.filter_append, List.filter_append, dropped, List.append_nil]

theorem eraseVariable?_others (decl : TypeDecl) (methods : List Method) (steps : Nat) :
    { decl with methods := methods }.eraseVariable? steps = decl.eraseVariable? steps := by
  induction steps with
  | zero => rfl
  | succ steps ih =>
      funext name
      rw [eraseVariable?, eraseVariable?, ih]
      rfl

namespace AlikeOn

variable (alike : decl.AlikeOn keeps other)
include alike

theorem name_eq : other.name = decl.name := by
  cases alike
  rfl

theorem clauses_eq : other.clauses = decl.clauses := by
  cases alike
  rfl

theorem parentNames_eq : other.parentNames = decl.parentNames := by
  cases alike
  rfl

theorem interfaceLinks_eq : other.interfaceLinks = decl.interfaceLinks := by
  cases alike
  rfl

theorem superclass_eq : other.superclass = decl.superclass := by
  cases alike
  rfl

theorem fields_eq : other.fields = decl.fields := by
  cases alike
  rfl

theorem substitute_eq : other.substitute = decl.substitute := by
  cases alike
  rfl

theorem erase_eq : other.erase = decl.erase := by
  cases alike with
  | others =>
      funext type
      unfold erase erase?
      rw [eraseVariable?_others]

theorem erasedParameters_eq : other.erasedParameters = decl.erasedParameters := by
  have erasures := alike.erase_eq
  unfold erasedParameters
  rw [erasures]
  cases alike
  rfl

theorem ofMethod_eq : Signature.ofMethod other = Signature.ofMethod decl := by
  funext method
  rw [Signature.ofMethod, Signature.ofMethod, alike.erase_eq]

theorem clauseArguments_eq (actuals : List TypeExpr) (clause : TypeExpr) {parent fellow : TypeDecl}
    (above : parent.AlikeOn keeps fellow) :
    other.clauseArguments actuals clause fellow = decl.clauseArguments actuals clause parent := by
  rw [clauseArguments, clauseArguments, above.erasedParameters_eq, alike.erase_eq,
    alike.substitute_eq]

theorem signedMethods_filter :
    other.signedMethods.filter (fun signed => keeps signed.2) =
      decl.signedMethods.filter fun signed => keeps signed.2 := by
  have swapped : ∀ methods : List Method,
      (methods.filter fun method => !method.isGenerated).filter keeps =
        (methods.filter keeps).filter fun method => !method.isGenerated := by
    intro methods
    simp only [List.filter_filter, Bool.and_comm]
  unfold signedMethods
  rw [List.filter_map, List.filter_map, alike.ofMethod_eq]
  show List.map _ (List.filter keeps _) = List.map _ (List.filter keeps _)
  rw [swapped, swapped]
  cases alike with
  | others same => rw [same]

end AlikeOn

end TypeDecl

namespace Registry

theorem AlikeOn.refl (registry : Registry) : registry.AlikeOn keeps registry := by
  intro name
  cases registry.lookup? name with
  | none => exact .none
  | some decl => exact .some (.refl decl)

variable {first second : Registry} {decl other context context' : TypeDecl}
  (alike : first.AlikeOn keeps second)
include alike

theorem AlikeOn.register (related : decl.AlikeOn keeps other) :
    (first.register decl).AlikeOn keeps (second.register other) := by
  intro name
  rw [lookup?_register, lookup?_register, related.name_eq]
  split
  · exact .some related
  · exact alike name

theorem AlikeOn.lookup?_cases (name : String) :
    (first.lookup? name = none ∧ second.lookup? name = none) ∨
      ∃ decl other, first.lookup? name = some decl ∧ second.lookup? name = some other ∧
        decl.AlikeOn keeps other := by
  have related := alike name
  generalize first.lookup? name = decl? at related ⊢
  generalize second.lookup? name = other? at related ⊢
  cases related with
  | none => exact .inl ⟨rfl, rfl⟩
  | some related => exact .inr ⟨_, _, rfl, rfl, related⟩

theorem AlikeOn.of_lookup? {name : String} (found : first.lookup? name = some decl)
    (foundToo : second.lookup? name = some other) : decl.AlikeOn keeps other := by
  have related := alike name
  rw [found, foundToo] at related
  cases related with
  | some related => exact related

/-! ## Subtyping and erasure -/

theorem AlikeOn.parentNames_eq : second.parentNames = first.parentNames := by
  funext name
  unfold parentNames
  rcases alike.lookup?_cases name with ⟨none, noneToo⟩ | ⟨decl, other, found, foundToo, related⟩
  · rw [none, noneToo]
  · rw [found, foundToo, Option.map_some, Option.map_some, related.parentNames_eq]

theorem AlikeOn.isSubtype_eq : second.isSubtype = first.isSubtype := by
  funext sub super
  rw [Bool.eq_iff_iff, isSubtype_iff, isSubtype_iff, Descends, Descends, alike.parentNames_eq]

theorem AlikeOn.eraseIn_eq : second.eraseIn = first.eraseIn := by
  funext declaring type
  unfold eraseIn
  rcases alike.lookup?_cases declaring with ⟨none, noneToo⟩ | ⟨decl, other, found, foundToo, related⟩
  · rw [none, noneToo]
  · simp only [found, foundToo, related.erase_eq]

theorem AlikeOn.isAssignable_eq : second.isAssignable = first.isAssignable := by
  have carried : ∀ below above : Registry, above.isSubtype = below.isSubtype →
      ∀ target source, below.Fits target source → above.Fits target source := by
    intro below above same target source fits
    induction fits with
    | same type => exact .same type
    | elements boxed otherBoxed _ ih => exact .elements boxed otherBoxed ih
    | arrayAsRoot element => exact .arrayAsRoot element
    | subtype raw sourceRaw under => exact .subtype raw sourceRaw (same ▸ under)
  funext target source
  rw [Bool.eq_iff_iff, isAssignable_iff, isAssignable_iff]
  exact ⟨carried _ _ alike.isSubtype_eq.symm _ _, carried _ _ alike.isSubtype_eq _ _⟩

/-! ## Choosing -/

theorem AlikeOn.chooseGetter_eq : second.chooseGetter = first.chooseGetter := by
  have returns : second.erasedReturn = first.erasedReturn := by
    funext method
    rw [erasedReturn, erasedReturn, alike.eraseIn_eq]
  have better : second.betterGetter = first.betterGetter := by
    funext property current candidate
    unfold betterGetter
    rw [returns, alike.isAssignable_eq]
  funext property candidates
  cases candidates with
  | nil => rfl
  | cons head rest => rw [chooseGetter, chooseGetter, better]

theorem AlikeOn.chooseSetter_eq : second.chooseSetter = first.chooseSetter := by
  have parameter : second.erasedParameter = first.erasedParameter := by
    funext method
    rw [erasedParameter, erasedParameter, alike.eraseIn_eq]
  have better : second.betterSetter = first.betterSetter := by
    funext property current candidate
    unfold betterSetter
    rw [parameter, alike.isAssignable_eq]
  funext property candidates getterType
  unfold chooseSetter
  rw [parameter, better]

/-! ## Resolving -/

theorem AlikeOn.argumentsOf?_eq (related : context.AlikeOn keeps context') (target : String)
    (steps : Nat) (actuals : List TypeExpr) :
    second.argumentsOf? target steps context' actuals =
      first.argumentsOf? target steps context actuals := by
  induction steps generalizing context context' actuals with
  | zero => rw [argumentsOf?, argumentsOf?, related.name_eq]
  | succ steps ih =>
      by_cases reached : context.name = target
      · rw [argumentsOf?, argumentsOf?, related.name_eq, if_pos reached, if_pos reached]
      · have above : context'.name ≠ target := related.name_eq ▸ reached
        rw [argumentsOf?_succ reached, argumentsOf?_succ above, related.clauses_eq]
        congr 1
        funext clause
        rw [parent?, parent?]
        cases clause.rawName? with
        | none => rfl
        | some name =>
            rw [Option.bind_some, Option.bind_some]
            rcases alike.lookup?_cases name with
              ⟨none, noneToo⟩ | ⟨parent, fellow, found, foundToo, higher⟩
            · rw [none, noneToo]
              rfl
            · rw [found, foundToo, Option.bind_some, Option.bind_some,
                related.clauseArguments_eq _ _ higher]
              exact ih higher _

theorem AlikeOn.bindings?_eq (related : context.AlikeOn keeps context') (target : String) :
    second.bindings? target context' = first.bindings? target context := by
  rw [bindings?, bindings?, related.erasedParameters_eq]
  exact alike.argumentsOf?_eq related target longestPath _

theorem AlikeOn.generic_eq (declaring : decl.AlikeOn keeps other)
    (related : context.AlikeOn keeps context') (declared : TypeExpr) :
    TypeResolver.generic second declared other context' =
      TypeResolver.generic first declared decl context := by
  rw [TypeResolver.generic_eq, TypeResolver.generic_eq, declaring.name_eq,
    alike.bindings?_eq related, declaring.erase_eq, declaring.substitute_eq]

/-! ## Class chains and interfaces -/

theorem AlikeOn.of_follow {link : Link} (followed : first.follow link = .ok decl)
    (followedToo : second.follow link = .ok other) : decl.AlikeOn keeps other := by
  obtain ⟨name, rfl, found⟩ := (follow_eq_ok_iff _ _ _).mp followed
  obtain ⟨_, same, foundToo⟩ := (follow_eq_ok_iff _ _ _).mp followedToo
  cases same
  exact alike.of_lookup? found foundToo

theorem AlikeOn.of_superclass? {parent fellow : TypeDecl} (related : decl.AlikeOn keeps other)
    (above : first.superclass? decl = .ok (some parent))
    (aboveToo : second.superclass? other = .ok (some fellow)) : parent.AlikeOn keeps fellow := by
  obtain ⟨clause, name, written, raw, found⟩ := (superclass?_eq_some_iff _ _ _).mp above
  obtain ⟨_, _, writtenToo, rawToo, foundToo⟩ := (superclass?_eq_some_iff _ _ _).mp aboveToo
  rw [related.superclass_eq, written] at writtenToo
  cases writtenToo
  exact alike.of_follow (follow_of_leadsTo ⟨name, raw, found⟩)
    (follow_of_leadsTo ⟨_, rawToo, foundToo⟩)

theorem AlikeOn.forall₂_classChain {chain chain' : List TypeDecl}
    (linked : first.ClassChain decl chain) (linkedToo : second.ClassChain other chain')
    (related : decl.AlikeOn keeps other) : List.Forall₂ (TypeDecl.AlikeOn keeps) chain chain' := by
  induction linked generalizing other chain' with
  | last top =>
      cases linkedToo with
      | last _ => exact .cons related .nil
      | link above _ =>
          obtain ⟨_, _, written, _⟩ := (superclass?_eq_some_iff _ _ _).mp above
          rw [related.superclass_eq, (superclass?_eq_none_iff _ _).mp top] at written
          cases written
  | link above _ ih =>
      cases linkedToo with
      | last top =>
          obtain ⟨_, _, written, _⟩ := (superclass?_eq_some_iff _ _ _).mp above
          rw [← related.superclass_eq, (superclass?_eq_none_iff _ _).mp top] at written
          cases written
      | link aboveToo higher =>
          exact .cons related (ih higher (alike.of_superclass? related above aboveToo))

omit alike in
theorem forall₂_belowRoot {chain chain' : List TypeDecl}
    (chains : List.Forall₂ (TypeDecl.AlikeOn keeps) chain chain') :
    List.Forall₂ (TypeDecl.AlikeOn keeps) (belowRoot chain) (belowRoot chain') := by
  unfold belowRoot
  induction chains with
  | nil => exact .nil
  | cons head _ ih =>
      rw [List.takeWhile_cons, List.takeWhile_cons, head.name_eq]
      split
      · exact .cons head ih
      · exact .nil

theorem AlikeOn.nextInterfaces_eq : second.nextInterfaces = first.nextInterfaces := by
  funext link
  cases link with
  | toNothing text => rfl
  | toType name =>
      unfold nextInterfaces
      rcases alike.lookup?_cases name with ⟨none, noneToo⟩ | ⟨decl, other, found, foundToo, related⟩
      · simp only [none, noneToo]
      · simp only [found, foundToo, Option.map_some, related.interfaceLinks_eq]

/-- The bounds of the two searches may differ, but both pay for the queue, and a search that does
has one result. -/
theorem AlikeOn.interfaceLinksFrom_eq (related : decl.AlikeOn keeps other) :
    second.interfaceLinksFrom other = first.interfaceLinksFrom decl := by
  have run := (first.interfaceLinksFrom_ordered decl).1
  have runToo := (second.interfaceLinksFrom_ordered other).1
  rw [alike.nextInterfaces_eq, related.interfaceLinks_eq] at runToo
  exact runToo.unique run

theorem AlikeOn.forall₂_interfaces (related : decl.AlikeOn keeps other)
    {found found' : List TypeDecl} (collected : first.interfaces decl = .ok found)
    (collectedToo : second.interfaces other = .ok found') :
    List.Forall₂ (TypeDecl.AlikeOn keeps) found found' := by
  rw [interfaces, alike.interfaceLinksFrom_eq related] at collectedToo
  refine Fallible.forall₂_of_mapM ?_ (List.forall₂_eq_eq_eq ▸ rfl) collected collectedToo
  intro link _ same decl other followed followedToo
  exact alike.of_follow followed (same ▸ followedToo)

theorem AlikeOn.forall₂_contributors {chain chain' types types' : List TypeDecl}
    (chains : List.Forall₂ (TypeDecl.AlikeOn keeps) chain chain')
    (collected : first.contributors chain = .ok types)
    (collectedToo : second.contributors chain' = .ok types') :
    List.Forall₂ (TypeDecl.AlikeOn keeps) types types' := by
  obtain ⟨groups, ran, rfl⟩ := Fallible.map_eq_ok_iff.mp collected
  obtain ⟨groups', ranToo, rfl⟩ := Fallible.map_eq_ok_iff.mp collectedToo
  apply List.rel_flatten
  refine Fallible.forall₂_of_mapM ?_ (forall₂_belowRoot chains) ran ranToo
  intro decl other related _ _ passed passedToo
  obtain ⟨found, collected, rfl⟩ := Fallible.map_eq_ok_iff.mp passed
  obtain ⟨found', collectedToo, rfl⟩ := Fallible.map_eq_ok_iff.mp passedToo
  exact .cons related (alike.forall₂_interfaces related collected collectedToo)

omit alike in
theorem signedMethods_filter {types types' : List TypeDecl}
    (related : List.Forall₂ (TypeDecl.AlikeOn keeps) types types') :
    (types'.flatMap TypeDecl.signedMethods).filter (fun signed => keeps signed.2) =
      (types.flatMap TypeDecl.signedMethods).filter fun signed => keeps signed.2 := by
  induction related with
  | nil => rfl
  | cons head _ ih =>
      rw [List.flatMap_cons, List.flatMap_cons, List.filter_append, List.filter_append, ih,
        head.signedMethods_filter]

/-- Where it can be seen from its signature whether a method is to be kept, keeping one method of
each signature does not mix the two sorts. -/
theorem AlikeOn.methodsAlong_filter (test : Signature → Bool)
    (told : ∀ owner method, test (Signature.ofMethod owner method) = keeps method)
    {chain chain' : List TypeDecl} (chains : List.Forall₂ (TypeDecl.AlikeOn keeps) chain chain')
    {methods methods' : List Method} (collected : first.methodsAlong chain = .ok methods)
    (collectedToo : second.methodsAlong chain' = .ok methods') :
    methods'.filter keeps = methods.filter keeps := by
  have agree : ∀ types : List TypeDecl, ∀ signed ∈ types.flatMap TypeDecl.signedMethods,
      test signed.1 = keeps signed.2 := by
    intro types signed declared
    obtain ⟨owner, _, inside⟩ := List.mem_flatMap.mp declared
    obtain ⟨method, _, rfl⟩ := List.mem_map.mp inside
    exact told owner method
  obtain ⟨types, gathered, rfl⟩ := Fallible.map_eq_ok_iff.mp collected
  obtain ⟨types', gatheredToo, rfl⟩ := Fallible.map_eq_ok_iff.mp collectedToo
  have related := alike.forall₂_contributors chains gathered gatheredToo
  rw [← OrderedMap.values_ofFirst_filter test keeps _ (agree types),
    ← OrderedMap.values_ofFirst_filter test keeps _ (agree types'), signedMethods_filter related]

end Registry

/-! ## One property of two tables -/

theorem Namer.standsFor_ofHeader (namer : Namer) (property : String) (owner : TypeDecl)
    (method : Method) :
    namer.standsFor property (.ofHeader (Signature.ofMethod owner method).name
      (Signature.ofMethod owner method).parameters (Signature.ofMethod owner method).returns) =
        namer.standsFor property method := by
  rw [standsFor, classify_ofHeader_signature, standsFor]

namespace TableBuilder

theorem candidatesOf_filter (builder : TableBuilder) (side : Side) (property : String)
    (methods : List Method) :
    builder.candidatesOf side property (methods.filter (builder.namer.standsFor property)) =
      builder.candidatesOf side property methods := by
  rw [candidatesOf, candidatesOf, List.filter_filter]
  apply List.filter_congr
  intro method _
  by_cases counts : builder.propertyOf? side method = some property
  · have classified := ((propertyOf?_eq_some_iff _ _ _ _).mp counts).1
    simp [counts, Namer.standsFor, classified]
  · simp [counts]

variable {first second : Registry} {namer : Namer} {permissions permissions' : Permissions}
  {context context' : TypeDecl}

section Choosing

variable (alike : first.AlikeOn keeps second) (related : context.AlikeOn keeps context')
include alike related

theorem resolve_eq_of_alikeOn :
    resolve ⟨second, namer, .generic, permissions'⟩ context' =
      resolve ⟨first, namer, .generic, permissions⟩ context := by
  funext declaring declared
  unfold resolve Registry.require
  rcases alike.lookup?_cases declaring with ⟨none, noneToo⟩ | ⟨decl, other, found, foundToo, owner⟩
  · simp only [none, noneToo, Except.map]
  · simp only [found, foundToo, Except.map, alike.generic_eq owner related]

theorem chosenGetter_eq_of_alikeOn :
    chosenGetter ⟨second, namer, .generic, permissions'⟩ context' =
      chosenGetter ⟨first, namer, .generic, permissions⟩ context := by
  funext entry
  unfold chosenGetter
  rw [alike.chooseGetter_eq, resolve_eq_of_alikeOn alike related]

theorem chosenSetter_eq_of_alikeOn {getters getters' : OrderedMap String Property}
    {entry : String × List Method} (known : getters'.get? entry.1 = getters.get? entry.1) :
    chosenSetter ⟨second, namer, .generic, permissions'⟩ context' getters' entry =
      chosenSetter ⟨first, namer, .generic, permissions⟩ context getters entry := by
  unfold chosenSetter
  rw [known, alike.chooseSetter_eq, resolve_eq_of_alikeOn alike related]

theorem fieldProperty_nearestField?_eq {chain chain' : List TypeDecl}
    (chains : List.Forall₂ (TypeDecl.AlikeOn keeps) chain chain') (wanted : Field → Bool)
    (accessor : Field → Accessor) :
    (nearestField? chain' wanted).map
        (fieldProperty ⟨second, namer, .generic, permissions'⟩ context' accessor) =
      (nearestField? chain wanted).map
        (fieldProperty ⟨first, namer, .generic, permissions⟩ context accessor) := by
  unfold nearestField?
  induction chains with
  | nil => rw [List.findSome?_nil, Option.map_none, Option.map_none]
  | cons head _ ih =>
      rw [List.findSome?_cons, List.findSome?_cons, head.fields_eq]
      cases List.find? wanted _ with
      | none => exact ih
      | some field =>
          simp only [Option.map_some, fieldProperty, alike.generic_eq head related]

end Choosing

namespace Stages

variable {property name : String} {table table' : PropertyTable}
  (alike : first.AlikeOn (namer.standsFor property) second)
  (stages : Stages ⟨first, namer, .generic, permissions⟩ name table)
  (stages' : Stages ⟨second, namer, .generic, permissions'⟩ name table')
include alike stages stages'

theorem alikeOn_decl : stages.decl.AlikeOn (namer.standsFor property) stages'.decl :=
  alike.of_lookup? stages.registered stages'.registered

theorem forall₂_chain :
    List.Forall₂ (TypeDecl.AlikeOn (namer.standsFor property)) stages.chain stages'.chain := by
  obtain ⟨decl, found, _, _, linked⟩ := Registry.hierarchy_chain stages.walked
  obtain ⟨other, foundToo, _, _, linkedToo⟩ := Registry.hierarchy_chain stages'.walked
  exact alike.forall₂_classChain linked linkedToo (alike.of_lookup? found foundToo)

theorem candidatesOf_eq (side : Side) :
    candidatesOf ⟨second, namer, .generic, permissions'⟩ side property stages'.methods =
      candidatesOf ⟨first, namer, .generic, permissions⟩ side property stages.methods := by
  have kept := alike.methodsAlong_filter
    (fun signature =>
      namer.standsFor property (.ofHeader signature.name signature.parameters signature.returns))
    (namer.standsFor_ofHeader property) (stages.forall₂_chain alike stages') stages.collected
    stages'.collected
  rw [← candidatesOf_filter, ← candidatesOf_filter _ side property stages.methods]
  exact congrArg _ kept

theorem get?_methodGetters_eq : stages'.getters.get? property = stages.getters.get? property := by
  have held := get?_methodGetters stages.read property
  have heldToo := get?_methodGetters stages'.read property
  rw [stages.candidatesOf_eq alike stages',
    chosenGetter_eq_of_alikeOn alike (stages.alikeOn_decl alike stages'), held] at heldToo
  exact (Except.ok.inj heldToo).symm

theorem get?_methodSetters_eq : stages'.setters.get? property = stages.setters.get? property := by
  have held := get?_methodSetters stages.written property
  have heldToo := get?_methodSetters stages'.written property
  rw [stages.candidatesOf_eq alike stages',
    chosenSetter_eq_of_alikeOn alike (stages.alikeOn_decl alike stages')
      (stages.get?_methodGetters_eq alike stages'), held] at heldToo
  exact (Except.ok.inj heldToo).symm

theorem paired_getters_get?_eq :
    stages'.paired.getters.get? property = stages.paired.getters.get? property := by
  rw [stages'.get?_getters, stages.get?_getters, stages.get?_methodGetters_eq alike stages']
  congr 1
  split
  · exact fieldProperty_nearestField?_eq alike (stages.alikeOn_decl alike stages')
      (stages.forall₂_chain alike stages') _ _
  · rw [Option.map_none, Option.map_none]

theorem paired_setters_get?_eq :
    stages'.paired.setters.get? property = stages.paired.setters.get? property := by
  rw [stages'.get?_setters, stages.get?_setters, stages.get?_methodSetters_eq alike stages']
  congr 1
  split
  · exact fieldProperty_nearestField?_eq alike (stages.alikeOn_decl alike stages')
      (stages.forall₂_chain alike stages') _ _
  · rw [Option.map_none, Option.map_none]

theorem typeName_eq : table'.typeName = table.typeName := by
  rw [PropertyTable.typeName, PropertyTable.typeName, stages'.decl_eq, stages.decl_eq]
  exact (stages.alikeOn_decl alike stages').name_eq

end Stages

/-- Other methods than those that stand for a property, wherever they are declared, change nothing
about it as long as the table can be built: whether it can be read and written, by which member of
which type, and with what type. -/
theorem properties_independent {name property : String} {table table' : PropertyTable}
    (alike : first.AlikeOn (namer.standsFor property) second)
    (built : (⟨first, namer, .generic, permissions⟩ : TableBuilder).build name = .ok table)
    (built' : (⟨second, namer, .generic, permissions'⟩ : TableBuilder).build name = .ok table') :
    (table'.hasGetter property = table.hasGetter property ∧
      table'.getter property = table.getter property ∧
      table'.getterType property = table.getterType property) ∧
    table'.hasSetter property = table.hasSetter property ∧
      table'.setter property = table.setter property ∧
      table'.setterType property = table.setterType property := by
  obtain ⟨stages⟩ := nonempty_stages built
  obtain ⟨stages'⟩ := nonempty_stages built'
  have named := stages.typeName_eq alike stages'
  have reads := stages.paired_getters_get?_eq alike stages'
  have writes := stages.paired_setters_get?_eq alike stages'
  have getters : table'.getters.get? property = table.getters.get? property := by
    rw [stages'.table_getters_get?, stages.table_getters_get?, reads]
  have getterTypes : table'.getterTypes.get? property = table.getterTypes.get? property := by
    rw [stages'.table_getterTypes_get?, stages.table_getterTypes_get?, reads]
  have setters : table'.setters.get? property = table.setters.get? property := by
    rw [stages'.table_setters_get?, stages.table_setters_get?, writes]
  have setterTypes : table'.setterTypes.get? property = table.setterTypes.get? property := by
    rw [stages'.table_setterTypes_get?, stages.table_setterTypes_get?, writes]
  exact ⟨⟨congrArg Option.isSome getters, PropertyTable.require_congr named .getter getters,
      PropertyTable.require_congr named .getter getterTypes⟩,
    congrArg Option.isSome setters, PropertyTable.require_congr named .setter setters,
    PropertyTable.require_congr named .setter setterTypes⟩

/-- Methods whose names are close to the accessors of a name, for the type that declares them. -/
def namesakes (declaring : String) : List Method :=
  [Method.ofHeader "getName" [.named "String"] (.named "String"),
    Method.ofHeader "getNames" [] (.array (.named "String")),
    Method.ofHeader "setName" [.named "String", .named "String"] .void,
    Method.ofHeader "setNames" [.array (.named "String")] .void].map
    fun method => { method with declaring := declaring }

def staffTypes : List TypeDecl :=
  [(TypeDecl.ofInterface "Named").addMethod (.abstractMethod "getName" [] (.named "CharSequence")),
    (((TypeDecl.ofClass "Person").addField ⟨"name", .named "String", .publicOnly, none, ""⟩).addMethod
      (.getterOf "getName" "name" (.named "String"))).addMethod
      (.setterOf "setName" "name" (.named "CharSequence")),
    { TypeDecl.ofClass "Employee" with
      superclass := some (.named "Person")
      interfaces := [.named "Named"] }]

def staff : Registry := staffTypes.foldl Registry.register Registry.builtin

def crowdedStaff : Registry :=
  (staffTypes.map fun decl =>
    { decl with methods := namesakes decl.name ++ decl.methods }).foldl
    Registry.register Registry.builtin

theorem properties_independent_staff :
    staff.AlikeOn (Namer.beans.standsFor "name") crowdedStaff ∧
      ∃ table table', (ofRegistry staff).build "Employee" = .ok table ∧
        (ofRegistry crowdedStaff).build "Employee" = .ok table' ∧
        table.readable = ["name"] ∧ table'.readable = ["names", "name"] ∧
        table'.getter "name" = table.getter "name" ∧
        table'.getterType "name" = .ok (.named "String") ∧
        table'.setterType "name" = .ok (.named "CharSequence") := by
  have crowded : ∀ decl ∈ staffTypes, decl.AlikeOn (Namer.beans.standsFor "name")
      { decl with methods := namesakes decl.name ++ decl.methods } := by
    intro decl listed
    have foreign : ∀ decl ∈ staffTypes, ∀ method ∈ namesakes decl.name,
        Namer.beans.standsFor "name" method = false := by decide
    exact .of_insert [] _ decl.methods rfl (foreign decl listed)
  have alike : staff.AlikeOn (Namer.beans.standsFor "name") crowdedStaff := by
    have start : Registry.builtin.AlikeOn (Namer.beans.standsFor "name") Registry.builtin :=
      .refl _
    exact ((start.register (crowded _ (.head _))).register (crowded _ (.tail _ (.head _)))).register
      (crowded _ (.tail _ (.tail _ (.head _))))
  have succeeds : ((ofRegistry staff).build "Employee").isOk = true := by decide
  have succeedsToo : ((ofRegistry crowdedStaff).build "Employee").isOk = true := by decide
  obtain ⟨table, built⟩ := Fallible.exists_of_isOk succeeds
  obtain ⟨table', built'⟩ := Fallible.exists_of_isOk succeedsToo
  have reads : ((ofRegistry staff).build "Employee").bind (·.getterType "name") =
      .ok (.named "String") := rfl
  have writes : ((ofRegistry staff).build "Employee").bind (·.setterType "name") =
      .ok (.named "CharSequence") := rfl
  rw [built] at reads writes
  obtain ⟨⟨_, getter, getterType⟩, _, _, setterType⟩ := properties_independent alike built built'
  refine ⟨alike, table, table', built, built', ?_, ?_, getter, getterType.trans reads,
    setterType.trans writes⟩
  · cases built
    rfl
  · cases built'
    rfl

end TableBuilder

end Introspection
