import Introspection.Proofs.ResolutionPaths
import Mathlib.Data.List.Find
import Mathlib.Data.Set.Function

/-!
# Renaming type variables

The names of the type variables of a declaration are its own affair: renamed throughout one
declaration, they leave what the generic resolver answers as it was, for every declaring type and
every context (`generic_rename`). The names that must be told apart are those the declaration
writes in its head, and those of the type to be resolved where that is written in it too. What
makes it true is that nothing but erased types ever goes up a clause, so no variable is looked up
outside the declaration that writes it.
-/

set_option autoImplicit false

namespace Introspection

private theorem findIdx?_congr {α : Type} {first second : α → Bool} {items : List α}
    (agree : ∀ item ∈ items, first item = second item) :
    items.findIdx? first = items.findIdx? second := by
  induction items with
  | nil => rfl
  | cons item items ih =>
      rw [List.findIdx?_cons, List.findIdx?_cons, agree item List.mem_cons_self,
        ih fun later inside => agree later (List.mem_cons_of_mem _ inside)]

private theorem findSome?_congr {α β : Type} {first second : α → Option β} {items : List α}
    (agree : ∀ item ∈ items, first item = second item) :
    items.findSome? first = items.findSome? second := by
  induction items with
  | nil => rfl
  | cons item items ih =>
      rw [List.findSome?_cons, List.findSome?_cons, agree item List.mem_cons_self,
        ih fun later inside => agree later (List.mem_cons_of_mem _ inside)]

namespace TypeExpr

def rename (relabel : String → String) (type : TypeExpr) : TypeExpr :=
  type.subst fun name => .var (relabel name)

variable (relabel : String → String)

theorem eraseWith_rename (erasure : String → TypeExpr) (type : TypeExpr) :
    (type.rename relabel).eraseWith erasure = type.eraseWith fun name => erasure (relabel name) :=
  eraseWith_subst_eq _ _ _

theorem eraseWith?_rename (erasure : String → Option TypeExpr) (type : TypeExpr) :
    (type.rename relabel).eraseWith? erasure =
      type.eraseWith? fun name => erasure (relabel name) := by
  induction type using TypeExpr.rec (motive_2 := fun _ => True) with
  | void | primitive | named | applied | var => rfl
  | array element ih => exact congrArg (Option.map array) ih
  | nil | cons => trivial

theorem rawName?_rename (type : TypeExpr) : (type.rename relabel).rawName? = type.rawName? := by
  cases type <;> rfl

theorem arguments_rename (type : TypeExpr) :
    (type.rename relabel).arguments = type.arguments.map (rename relabel) := by
  cases type with
  | applied raw arguments => exact substList_eq_map _ _
  | void | primitive | named | array | var => rfl

theorem headVariable?_rename (type : TypeExpr) :
    (type.rename relabel).headVariable? = type.headVariable?.map relabel := by
  induction type using TypeExpr.rec (motive_2 := fun _ => True) with
  | void | primitive | named | applied | var => rfl
  | array element ih => exact ih
  | nil | cons => trivial

theorem rename_eq_var_iff {type : TypeExpr} {name : String} :
    type.rename relabel = .var name ↔ ∃ own, type = .var own ∧ relabel own = name := by
  cases type <;> simp [rename, subst]

end TypeExpr

def TypeParameter.rename (relabel : String → String) (parameter : TypeParameter) : TypeParameter :=
  ⟨relabel parameter.name, parameter.bound.map (TypeExpr.rename relabel)⟩

namespace TypeDecl

def rename (relabel : String → String) (decl : TypeDecl) : TypeDecl :=
  { decl with
    parameters := decl.parameters.map (TypeParameter.rename relabel)
    superclass := decl.superclass.map (TypeExpr.rename relabel)
    interfaces := decl.interfaces.map (TypeExpr.rename relabel)
    fields := decl.fields.map fun field => { field with type := field.type.rename relabel }
    methods := decl.methods.map fun method =>
      { method with
        parameters := method.parameters.map (TypeExpr.rename relabel)
        returns := method.returns.rename relabel }
    constructors := decl.constructors.map fun constructor =>
      { constructor with parameters := constructor.parameters.map (TypeExpr.rename relabel) } }

/-- The type variables in the head of a declaration: its parameters, and what bounds and clauses
mention. -/
def headVariables (decl : TypeDecl) : List String :=
  decl.parameterNames ++
    TypeExpr.variableNamesOf (decl.parameters.filterMap TypeParameter.bound ++ decl.clauses)

/-- The one declaration in its renamed form, and any declaration as it is. -/
inductive RenamedTo (decl : TypeDecl) (relabel : String → String) : TypeDecl → TypeDecl → Prop where
  | itself : RenamedTo decl relabel decl (decl.rename relabel)
  | other (other : TypeDecl) : RenamedTo decl relabel other other

variable {decl : TypeDecl} {relabel : String → String} {names : Set String} {name : String}
  {type : TypeExpr}

theorem clauses_rename (decl : TypeDecl) (relabel : String → String) :
    (decl.rename relabel).clauses = decl.clauses.map (TypeExpr.rename relabel) := by
  rw [clauses, clauses, List.map_append, rename]
  cases decl.superclass <;> rfl

theorem mem_headVariables_of_parameter (listed : name ∈ decl.parameterNames) :
    name ∈ decl.headVariables :=
  List.mem_append_left _ listed

theorem mem_headVariables_of_bound {parameter : TypeParameter} {bound : TypeExpr}
    (listed : parameter ∈ decl.parameters) (bounded : parameter.bound = some bound)
    (mentioned : name ∈ bound.variableNames) : name ∈ decl.headVariables := by
  have written : bound ∈ decl.parameters.filterMap TypeParameter.bound ++ decl.clauses :=
    List.mem_append_left _ (List.mem_filterMap.mpr ⟨parameter, listed, bounded⟩)
  exact List.mem_append_right _ (TypeExpr.variableNames_subset written mentioned)

theorem mem_headVariables_of_argument {clause argument : TypeExpr} (written : clause ∈ decl.clauses)
    (inside : argument ∈ clause.arguments) (mentioned : name ∈ argument.variableNames) :
    name ∈ decl.headVariables := by
  have below : name ∈ clause.variableNames :=
    TypeExpr.variableNames_subset_of_mem_arguments inside mentioned
  exact List.mem_append_right _
    (TypeExpr.variableNames_subset (List.mem_append_right _ written) below)

/-! ## Erasing in the renamed declaration -/

section Erasing

variable (injective : Set.InjOn relabel names) (own : ∀ name ∈ decl.headVariables, name ∈ names)
include injective own

theorem rename_name_beq (inside : name ∈ names) {parameter : TypeParameter}
    (listed : parameter ∈ decl.parameters) :
    ((parameter.rename relabel).name == relabel name) = (parameter.name == name) := by
  have known := own _ (mem_headVariables_of_parameter (List.mem_map_of_mem listed))
  exact Bool.eq_iff_iff.mpr (by simpa [TypeParameter.rename] using injective.eq_iff known inside)

theorem parameter?_rename (inside : name ∈ names) :
    (decl.rename relabel).parameter? (relabel name) =
      (decl.parameter? name).map (TypeParameter.rename relabel) := by
  rw [parameter?, rename, List.find?_map]
  congr 1
  apply List.find?_congr
  intro parameter listed
  exact rename_name_beq injective own inside listed

theorem followsBound_rename_iff (inside : name ∈ names) {bound : TypeExpr} :
    (decl.rename relabel).FollowsBound (relabel name) bound ↔
      ∃ original, decl.FollowsBound name original ∧ original.rename relabel = bound := by
  unfold FollowsBound
  rw [parameter?_rename injective own inside]
  constructor
  · rintro ⟨_, found, bounded, proper⟩
    obtain ⟨parameter, declared, rfl⟩ := Option.map_eq_some_iff.mp found
    obtain ⟨original, written, rfl⟩ := Option.map_eq_some_iff.mp bounded
    refine ⟨original, ⟨parameter, declared, written, ?_⟩, rfl⟩
    rintro rfl
    exact proper rfl
  · rintro ⟨original, ⟨parameter, found, written, proper⟩, rfl⟩
    refine ⟨parameter.rename relabel, by rw [found, Option.map_some], ?_, ?_⟩
    · rw [TypeParameter.rename, written, Option.map_some]
    · -- Only a variable bounded by itself is cut off, and no other becomes one.
      intro renamed
      obtain ⟨next, rfl, same⟩ := (TypeExpr.rename_eq_var_iff relabel).mp renamed
      have listed := List.mem_of_find?_eq_some found
      have known := own _ (mem_headVariables_of_bound listed written (List.mem_singleton_self next))
      exact proper (congrArg TypeExpr.var (injective known inside same))

omit injective in
theorem mem_names_of_followsBound {bound : TypeExpr} {next : String}
    (followed : decl.FollowsBound name bound) (head : bound.headVariable? = some next) :
    next ∈ names := by
  obtain ⟨parameter, found, written, _⟩ := followed
  exact own _ (mem_headVariables_of_bound (List.mem_of_find?_eq_some found) written
    (TypeExpr.mem_variableNames head))

theorem eraseVariable?_rename (steps : Nat) (inside : name ∈ names) :
    (decl.rename relabel).eraseVariable? steps (relabel name) = decl.eraseVariable? steps name := by
  induction steps generalizing name with
  | zero => rfl
  | succ steps ih =>
      by_cases followed : ∃ bound, decl.FollowsBound name bound
      · obtain ⟨bound, followed⟩ := followed
        have renamed := (followsBound_rename_iff injective own inside).mpr ⟨bound, followed, rfl⟩
        rw [eraseVariable?_of_followsBound renamed, eraseVariable?_of_followsBound followed,
          TypeExpr.eraseWith?_rename]
        apply TypeExpr.eraseWith?_congr
        intro next head
        exact ih (mem_names_of_followsBound own followed head)
      · have unbounded := not_exists.mp followed
        have renamed : ∀ bound, ¬ (decl.rename relabel).FollowsBound (relabel name) bound := by
          intro bound again
          obtain ⟨original, followed, _⟩ := (followsBound_rename_iff injective own inside).mp again
          exact unbounded original followed
        rw [eraseVariable?_of_unbounded renamed, eraseVariable?_of_unbounded unbounded]

theorem erase_rename (inside : ∀ name ∈ type.variableNames, name ∈ names) :
    (decl.rename relabel).erase (type.rename relabel) = decl.erase type := by
  rw [erase, erase, TypeExpr.eraseWith_rename]
  apply TypeExpr.eraseWith_congr
  intro name head
  have length : (decl.rename relabel).parameters.length = decl.parameters.length :=
    List.length_map _
  have same := eraseVariable?_rename injective own (decl.parameters.length + 1)
    (inside name (TypeExpr.mem_variableNames head))
  show ((decl.rename relabel).eraseVariable? _ (relabel name)).getD .root = _
  rw [length, same]
  rfl

theorem erase_var_rename (inside : name ∈ names) :
    (decl.rename relabel).erase (.var (relabel name)) = decl.erase (.var name) := by
  have inner : ∀ mentioned ∈ (TypeExpr.var name).variableNames, mentioned ∈ names := by
    intro mentioned written
    rwa [List.mem_singleton.mp written]
  exact erase_rename injective own inner

theorem erasedParameters_rename :
    (decl.rename relabel).erasedParameters = decl.erasedParameters := by
  have parameters : (decl.rename relabel).parameters =
      decl.parameters.map (TypeParameter.rename relabel) := rfl
  rw [erasedParameters, erasedParameters, parameters, List.map_map]
  apply List.map_congr_left
  intro parameter listed
  exact erase_var_rename injective own
    (own _ (mem_headVariables_of_parameter (List.mem_map_of_mem listed)))

/-! ## Substituting in the renamed declaration -/

theorem findIdx?_parameters_rename (inside : name ∈ names) :
    (decl.rename relabel).parameters.findIdx? (fun parameter => parameter.name == relabel name) =
      decl.parameters.findIdx? (fun parameter => parameter.name == name) := by
  rw [rename, List.findIdx?_map]
  apply findIdx?_congr
  intro parameter listed
  exact rename_name_beq injective own inside listed

theorem erase_binding_rename {actuals : List TypeExpr}
    (erased : ∀ actual ∈ actuals, actual.isErased = true) (inside : name ∈ names) :
    (decl.rename relabel).erase ((decl.rename relabel).binding actuals (relabel name)) =
      decl.erase (decl.binding actuals name) := by
  rw [binding, binding, findIdx?_parameters_rename injective own inside]
  split
  · next place _ =>
      cases given : actuals[place]? with
      | none => exact erase_var_rename injective own inside
      | some actual =>
          -- What stands for the parameter is erased, whatever the parameter is called.
          have plain := erased actual (List.mem_of_getElem? given)
          rw [Option.getD_some, Option.getD_some, erase_of_isErased _ _ plain,
            erase_of_isErased _ _ plain]
  · exact erase_var_rename injective own inside

theorem erase_substitute_rename {actuals : List TypeExpr}
    (erased : ∀ actual ∈ actuals, actual.isErased = true)
    (inside : ∀ name ∈ type.variableNames, name ∈ names) :
    (decl.rename relabel).erase ((decl.rename relabel).substitute actuals (type.rename relabel)) =
      decl.erase (decl.substitute actuals type) := by
  calc (decl.rename relabel).erase ((decl.rename relabel).substitute actuals (type.rename relabel))
      _ = type.eraseWith fun name =>
          (decl.rename relabel).erase ((decl.rename relabel).binding actuals (relabel name)) := by
        rw [erase, substitute, TypeExpr.eraseWith_subst_eq, TypeExpr.eraseWith_rename]
        rfl
      _ = type.eraseWith fun name => decl.erase (decl.binding actuals name) := by
        apply TypeExpr.eraseWith_congr
        intro name head
        exact erase_binding_rename injective own erased
          (inside name (TypeExpr.mem_variableNames head))
      _ = decl.erase (decl.substitute actuals type) := (TypeExpr.eraseWith_subst_eq _ _ _).symm

theorem clauseArguments_rename {actuals : List TypeExpr} {clause : TypeExpr} {parent : TypeDecl}
    (erased : ∀ actual ∈ actuals, actual.isErased = true) (written : clause ∈ decl.clauses) :
    (decl.rename relabel).clauseArguments actuals (clause.rename relabel) parent =
      decl.clauseArguments actuals clause parent := by
  rw [clauseArguments, clauseArguments, TypeExpr.arguments_rename, List.isEmpty_map, List.map_map]
  congr 1
  apply List.map_congr_left
  intro argument listed
  apply erase_substitute_rename injective own erased
  intro name mentioned
  exact own _ (mem_headVariables_of_argument written listed mentioned)

/-! ## Rings of bounds -/

theorem boundLeads_of_rename (inside : name ∈ names) {next : String}
    (leads : (decl.rename relabel).BoundLeads (relabel name) next) :
    ∃ original ∈ names, decl.BoundLeads name original ∧ relabel original = next := by
  obtain ⟨_, renamed, head⟩ := leads
  obtain ⟨bound, followed, rfl⟩ := (followsBound_rename_iff injective own inside).mp renamed
  rw [TypeExpr.headVariable?_rename] at head
  obtain ⟨original, written, rfl⟩ := Option.map_eq_some_iff.mp head
  exact ⟨original, mem_names_of_followsBound own followed written, ⟨bound, followed, written⟩, rfl⟩

theorem transGen_boundLeads_of_rename (inside : name ∈ names) {last : String}
    (path : Relation.TransGen (decl.rename relabel).BoundLeads (relabel name) last) :
    ∃ original ∈ names, Relation.TransGen decl.BoundLeads name original ∧
      relabel original = last := by
  induction path with
  | single leads =>
      obtain ⟨original, known, leads, same⟩ := boundLeads_of_rename injective own inside leads
      exact ⟨original, known, .single leads, same⟩
  | tail _ leads ih =>
      obtain ⟨before, known, path, rfl⟩ := ih
      obtain ⟨original, known, leads, same⟩ := boundLeads_of_rename injective own known leads
      exact ⟨original, known, path.tail leads, same⟩

/-- A ring of the renamed bounds is a ring of the bounds, renamed. -/
theorem boundsAcyclic_rename (acyclic : decl.BoundsAcyclic) :
    (decl.rename relabel).BoundsAcyclic := by
  intro name ring
  obtain ⟨_, ⟨bound, followed, _⟩, _⟩ := Relation.TransGen.head'_iff.mp ring
  obtain ⟨_, renamed, rfl⟩ := List.mem_map.mp followed.mem_parameterNames
  obtain ⟨parameter, listed, rfl⟩ := List.mem_map.mp renamed
  have known := own _ (mem_headVariables_of_parameter (List.mem_map_of_mem listed))
  obtain ⟨original, inside, path, same⟩ := transGen_boundLeads_of_rename injective own known ring
  rw [injective inside known same] at path
  exact acyclic _ path

end Erasing

namespace RenamedTo

variable {context context' : TypeDecl} (renamed : decl.RenamedTo relabel context context')
include renamed

theorem name_eq : context'.name = context.name := by
  cases renamed <;> rfl

variable (injective : Set.InjOn relabel names) (own : ∀ name ∈ decl.headVariables, name ∈ names)
include injective own

theorem erasedParameters_eq : context'.erasedParameters = context.erasedParameters := by
  cases renamed with
  | itself => exact erasedParameters_rename injective own
  | other => rfl

theorem clauseArguments_parent (below : TypeDecl) (actuals : List TypeExpr) (clause : TypeExpr) :
    below.clauseArguments actuals clause context' = below.clauseArguments actuals clause context := by
  rw [clauseArguments, clauseArguments, renamed.erasedParameters_eq injective own]

/-- The clauses stand for each other: they lead to the same name and hand over the same arguments. -/
theorem exists_clauses :
    ∃ rewritten : TypeExpr → TypeExpr, context'.clauses = context.clauses.map rewritten ∧
      (∀ clause, (rewritten clause).rawName? = clause.rawName?) ∧
      ∀ actuals : List TypeExpr, (∀ actual ∈ actuals, actual.isErased = true) →
        ∀ clause ∈ context.clauses, ∀ parent,
          context'.clauseArguments actuals (rewritten clause) parent =
            context.clauseArguments actuals clause parent := by
  cases renamed with
  | itself =>
      refine ⟨TypeExpr.rename relabel, decl.clauses_rename relabel,
        TypeExpr.rawName?_rename relabel, ?_⟩
      intro actuals erased clause written parent
      exact clauseArguments_rename injective own erased written
  | other =>
      exact ⟨id, (List.map_id _).symm, fun _ => rfl, fun _ _ _ _ _ => rfl⟩

end RenamedTo

end TypeDecl

namespace Registry

variable {registry : Registry} {decl context context' : TypeDecl} {relabel : String → String}
  {names : Set String}

/-- Every name leads to the same declaration in both registries, but for the renaming. -/
theorem lookup?_register_rename (registered : registry.lookup? decl.name = some decl)
    (relabel : String → String) (name : String) :
    Option.Rel (decl.RenamedTo relabel) (registry.lookup? name)
      ((registry.register (decl.rename relabel)).lookup? name) := by
  rw [lookup?_register]
  split
  · next same =>
      have here : decl.name = name := same
      rw [← here, registered]
      exact .some .itself
  · cases registry.lookup? name with
    | none => exact .none
    | some other => exact .some (.other other)

theorem parent?_register_rename (registered : registry.lookup? decl.name = some decl)
    (relabel : String → String) {clause rewritten : TypeExpr}
    (same : rewritten.rawName? = clause.rawName?) :
    Option.Rel (decl.RenamedTo relabel) (registry.parent? clause)
      ((registry.register (decl.rename relabel)).parent? rewritten) := by
  rw [parent?, parent?, same]
  cases clause.rawName? with
  | none => exact .none
  | some name => exact lookup?_register_rename registered relabel name

section Walk

variable (registered : registry.lookup? decl.name = some decl)
  (injective : Set.InjOn relabel names) (own : ∀ name ∈ decl.headVariables, name ∈ names)
include registered injective own

/-- The walk up the clauses finds the same arguments, from a renamed start as well. -/
theorem argumentsOf?_rename (renamed : decl.RenamedTo relabel context context')
    {actuals : List TypeExpr} (erased : ∀ actual ∈ actuals, actual.isErased = true)
    (target : String) (steps : Nat) :
    (registry.register (decl.rename relabel)).argumentsOf? target steps context' actuals =
      registry.argumentsOf? target steps context actuals := by
  induction steps generalizing context context' actuals with
  | zero => rw [argumentsOf?, argumentsOf?, renamed.name_eq]
  | succ steps ih =>
      by_cases reached : context.name = target
      · rw [argumentsOf?, argumentsOf?, renamed.name_eq, if_pos reached, if_pos reached]
      · have above : context'.name ≠ target := renamed.name_eq ▸ reached
        obtain ⟨rewritten, clauses, sameName, handed⟩ := renamed.exists_clauses injective own
        rw [argumentsOf?_succ reached, argumentsOf?_succ above, clauses, List.findSome?_map]
        apply findSome?_congr
        intro clause written
        have parents := parent?_register_rename registered relabel (sameName clause)
        rw [Function.comp_apply]
        -- The parent is the renamed declaration again or another one, so the walk goes on alike.
        generalize registry.parent? clause = parent? at parents ⊢
        generalize (registry.register _).parent? (rewritten clause) = renamed? at parents ⊢
        cases parents with
        | none => rfl
        | @some parent _ higher =>
            rw [Option.bind_some, Option.bind_some, higher.clauseArguments_parent injective own,
              handed actuals erased clause written parent]
            exact ih higher fun _ => TypeDecl.isErased_of_mem_clauseArguments

theorem bindings?_rename (renamed : decl.RenamedTo relabel context context') (target : String) :
    (registry.register (decl.rename relabel)).bindings? target context' =
      registry.bindings? target context := by
  rw [bindings?, bindings?, renamed.erasedParameters_eq injective own]
  exact argumentsOf?_rename registered injective own renamed
    (fun _ => TypeDecl.isErased_of_mem_erasedParameters) target longestPath

theorem boundsAcyclic_register_rename (acyclic : registry.BoundsAcyclic) :
    (registry.register (decl.rename relabel)).BoundsAcyclic := by
  intro name other found
  rw [lookup?_register] at found
  split at found
  · cases found
    exact TypeDecl.boundsAcyclic_rename injective own (acyclic _ _ registered)
  · exact acyclic _ _ found

theorem generic_eq_of_renamedTo (renamed : decl.RenamedTo relabel context context')
    (declaring : TypeDecl) (declared : TypeExpr) :
    TypeResolver.generic (registry.register (decl.rename relabel)) declared declaring context' =
      TypeResolver.generic registry declared declaring context := by
  rw [TypeResolver.generic_eq, TypeResolver.generic_eq,
    bindings?_rename registered injective own renamed]

/-- A type written in the renamed declaration is renamed with it. -/
theorem generic_rename_eq_of_renamedTo (renamed : decl.RenamedTo relabel context context')
    {declared : TypeExpr} (inside : ∀ name ∈ declared.variableNames, name ∈ names) :
    TypeResolver.generic (registry.register (decl.rename relabel)) (declared.rename relabel)
        (decl.rename relabel) context' =
      TypeResolver.generic registry declared decl context := by
  rw [TypeResolver.generic_eq, TypeResolver.generic_eq,
    bindings?_rename registered injective own renamed]
  have same : (decl.rename relabel).name = decl.name := rfl
  rw [same]
  cases found : registry.bindings? decl.name context with
  | none => exact TypeDecl.erase_rename injective own inside
  | some actuals =>
      exact TypeDecl.erase_substitute_rename injective own (isErased_of_bindings? found) inside

end Walk

/-- Variables are renamed throughout one registered declaration so that the names that matter stay
apart; an injective renaming keeps all names apart. Bounds form no ring then either; from any
context, renamed or not, every type is resolved as before, those written in the declaration in their
renamed form; and what a context hands up to any type mentions no variable that could be captured
there. -/
theorem generic_rename (acyclic : registry.BoundsAcyclic)
    (registered : registry.lookup? decl.name = some decl)
    (injective : Set.InjOn relabel names) (own : ∀ name ∈ decl.headVariables, name ∈ names) :
    (registry.register (decl.rename relabel)).BoundsAcyclic ∧
    ∀ context context', decl.RenamedTo relabel context context' →
      (∀ declaring declared,
        TypeResolver.generic (registry.register (decl.rename relabel)) declared declaring context' =
          TypeResolver.generic registry declared declaring context) ∧
      (∀ declared : TypeExpr, (∀ name ∈ declared.variableNames, name ∈ names) →
        TypeResolver.generic (registry.register (decl.rename relabel)) (declared.rename relabel)
            (decl.rename relabel) context' =
          TypeResolver.generic registry declared decl context) ∧
      ∀ target actuals, registry.bindings? target context = some actuals →
        ∀ actual ∈ actuals, actual.isErased = true := by
  refine ⟨boundsAcyclic_register_rename registered injective own acyclic, ?_⟩
  intro context context' renamed
  refine ⟨generic_eq_of_renamedTo registered injective own renamed, ?_, ?_⟩
  · intro declared inside
    exact generic_rename_eq_of_renamedTo registered injective own renamed inside
  · intro target actuals found
    exact isErased_of_bindings? found

/-- The rack takes on a name that the store above it uses for something else. -/
theorem generic_rename_shelves :
    shelves.BoundsAcyclic ∧ shelves.lookup? "Rack" = some rack ∧
      Set.InjOn (fun _ => "U") ({"T"} : Set String) ∧
      (∀ name ∈ rack.headVariables, name ∈ ({"T"} : Set String)) ∧
      (shelves.register (rack.rename fun _ => "U")).BoundsAcyclic ∧
      TypeResolver.generic (shelves.register (rack.rename fun _ => "U")) (.array (.var "U"))
        (rack.rename fun _ => "U") shelf = .array (.named "Long") ∧
      TypeResolver.generic (shelves.register (rack.rename fun _ => "U")) (.var "V") source shelf =
        .array (.named "Long") := by
  have acyclic : shelves.BoundsAcyclic :=
    boundsAcyclic_of_rank (fun name => if name = "K" then 1 else 0) (by decide)
  have injective : Set.InjOn (fun _ => "U") ({"T"} : Set String) := Set.injOn_singleton _ _
  have own : ∀ name ∈ rack.headVariables, name ∈ ({"T"} : Set String) := by
    have listed : ∀ name ∈ rack.headVariables, name = "T" := by decide
    exact listed
  obtain ⟨renamedAcyclic, same⟩ := generic_rename acyclic rfl injective own
  obtain ⟨elsewhere, written, _⟩ := same shelf shelf (.other shelf)
  have onRack := written (.array (.var "T")) (by decide)
  have onSource := elsewhere source (.var "V")
  exact ⟨acyclic, rfl, injective, own, renamedAcyclic, onRack, onSource⟩

end Registry

end Introspection
