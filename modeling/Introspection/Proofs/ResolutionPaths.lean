import Introspection.Proofs.Narrowing
import Introspection.Proofs.Resolution
import Mathlib.Data.List.Induction

/-!
# Resolving along a path of clauses

The generic resolver walks from the context up to the declaring type and erases the arguments of
every clause it passes. The same type comes out when the declared type is taken down that path
instead, each type's parameters replaced by the arguments of the clause below, and erased once at
the end (`erases_lowered_of_firstPath`). The two directions meet in `SeesAlike`, which says for
each type on the path what its parameters are seen as from the context.
-/

set_option autoImplicit false

namespace Introspection

namespace TypeExpr

mutual

def variableNames : TypeExpr → List String
  | void | primitive _ | named _ => []
  | var name => [name]
  | array element => element.variableNames
  | applied _ arguments => variableNamesOf arguments

def variableNamesOf : List TypeExpr → List String
  | [] => []
  | first :: rest => first.variableNames ++ variableNamesOf rest

end

theorem mem_variableNames {type : TypeExpr} {name : String}
    (head : type.headVariable? = some name) : name ∈ type.variableNames := by
  induction type using TypeExpr.rec (motive_2 := fun _ => True) with
  | void | primitive | named | applied => cases head
  | var other =>
      cases head
      exact List.mem_singleton_self _
  | array element ih => exact ih head
  | nil | cons => trivial

theorem variableNames_subset {types : List TypeExpr} {type : TypeExpr} (inside : type ∈ types) :
    type.variableNames ⊆ variableNamesOf types := by
  induction types with
  | nil => cases inside
  | cons first rest ih =>
      rcases List.mem_cons.mp inside with rfl | later
      · exact List.subset_append_left _ _
      · exact List.subset_append_of_subset_right _ (ih later)

theorem variableNames_subset_of_mem_arguments {clause argument : TypeExpr}
    (inside : argument ∈ clause.arguments) : argument.variableNames ⊆ clause.variableNames := by
  cases clause with
  | applied raw arguments => exact variableNames_subset inside
  | void | primitive | named | array | var => cases inside

end TypeExpr

def TypeDecl.Scopes (decl : TypeDecl) (type : TypeExpr) : Prop :=
  ∀ name ∈ type.variableNames, name ∈ decl.parameterNames

instance (decl : TypeDecl) (type : TypeExpr) : Decidable (decl.Scopes type) :=
  inferInstanceAs (Decidable (∀ name ∈ type.variableNames, name ∈ decl.parameterNames))

theorem TypeDecl.Scopes.of_mem_arguments {decl : TypeDecl} {clause argument : TypeExpr}
    (written : decl.Scopes clause) (inside : argument ∈ clause.arguments) :
    decl.Scopes argument := fun name mentioned =>
  written name (TypeExpr.variableNames_subset_of_mem_arguments inside mentioned)

/-- A supertype clause, the type that writes it and the registered type that it leads to. -/
structure ClauseStep where
  child : TypeDecl
  clause : TypeExpr
  parent : TypeDecl

namespace ClauseStep

/-- What the clause supplies for the parameters of the parent: its arguments or, when it is raw,
their erased bounds. -/
def supplied (step : ClauseStep) : List TypeExpr :=
  if step.clause.arguments.isEmpty then step.parent.erasedParameters else step.clause.arguments

def Supplies (step : ClauseStep) : Prop :=
  step.clause.arguments = [] ∨ step.parent.parameters.length ≤ step.clause.arguments.length

instance (step : ClauseStep) : Decidable step.Supplies :=
  inferInstanceAs (Decidable (_ = _ ∨ _ ≤ _))

/-- A type written in the parent, as the child sees it. -/
def lower (step : ClauseStep) (type : TypeExpr) : TypeExpr :=
  step.parent.substitute step.supplied type

end ClauseStep

def lowered (path : List ClauseStep) (type : TypeExpr) : TypeExpr := path.foldr ClauseStep.lower type

/-- What the walk up the path makes of the arguments it starts with. -/
def argumentsAlong (actuals : List TypeExpr) (path : List ClauseStep) : List TypeExpr :=
  path.foldl (fun actuals step => step.child.clauseArguments actuals step.clause step.parent) actuals

namespace Registry

inductive ClausePath (registry : Registry) : TypeDecl → List ClauseStep → TypeDecl → Prop where
  | here (decl : TypeDecl) : ClausePath registry decl [] decl
  | up {decl parent top : TypeDecl} {clause : TypeExpr} {path : List ClauseStep} :
      clause ∈ decl.clauses → registry.parent? clause = some parent →
      ClausePath registry parent path top →
      ClausePath registry decl (⟨decl, clause, parent⟩ :: path) top

/-- Behind the clause a type of the given name can be reached by at most so many clauses. -/
def LeadsWithin (registry : Registry) (target : String) (room : Nat) (clause : TypeExpr) : Prop :=
  ∃ parent path top, registry.parent? clause = some parent ∧
    registry.ClausePath parent path top ∧ path.length ≤ room ∧ top.name = target

/-- The path that a depth-first walk finds first: it ends at the first type of the wanted name, and
no clause before the one it takes leads there in the room that is left. -/
inductive FirstPath (registry : Registry) (target : String) :
    Nat → TypeDecl → List ClauseStep → TypeDecl → Prop where
  | here {room : Nat} {decl : TypeDecl} :
      decl.name = target → FirstPath registry target room decl [] decl
  | up {room : Nat} {decl parent top : TypeDecl} {passed others : List TypeExpr}
      {clause : TypeExpr} {path : List ClauseStep} :
      decl.name ≠ target → decl.clauses = passed ++ clause :: others →
      (∀ other ∈ passed, ¬ registry.LeadsWithin target room other) →
      registry.parent? clause = some parent → FirstPath registry target room parent path top →
      FirstPath registry target (room + 1) decl (⟨decl, clause, parent⟩ :: path) top

variable {registry : Registry} {target : String} {room : Nat} {decl top context : TypeDecl}
  {path : List ClauseStep}

theorem FirstPath.clausePath (first : registry.FirstPath target room decl path top) :
    registry.ClausePath decl path top := by
  induction first with
  | here => exact .here _
  | up _ written _ named _ ih => exact .up (written ▸ List.mem_append_cons_self) named ih

theorem exists_path_of_argumentsOf? {actuals found : List TypeExpr}
    (reached : registry.argumentsOf? target room decl actuals = some found) :
    ∃ path top, registry.ClausePath decl path top ∧ path.length ≤ room ∧ top.name = target := by
  induction room using Nat.strongRecOn generalizing decl actuals with
  | ind room ih =>
      rcases argumentsOf?_eq_some reached with
        ⟨same, _⟩ | ⟨rest, clause, parent, rfl, written, named, above⟩
      · exact ⟨[], decl, .here decl, Nat.zero_le _, same⟩
      · obtain ⟨path, top, climbs, short, same⟩ := ih rest (Nat.lt_succ_self rest) above
        exact ⟨_, top, .up written named climbs, Nat.succ_le_succ short, same⟩

/-- What the walk finds is erased when what it starts with is. -/
theorem isErased_of_argumentsOf? {actuals found : List TypeExpr}
    (erased : ∀ actual ∈ actuals, actual.isErased = true)
    (reached : registry.argumentsOf? target room decl actuals = some found) :
    ∀ actual ∈ found, actual.isErased = true := by
  induction room using Nat.strongRecOn generalizing decl actuals with
  | ind room ih =>
      rcases argumentsOf?_eq_some reached with ⟨_, rfl⟩ | ⟨rest, _, _, rfl, _, _, above⟩
      · exact erased
      · apply ih rest (Nat.lt_succ_self rest) _ above
        exact fun _ => TypeDecl.isErased_of_mem_clauseArguments

theorem isErased_of_bindings? {actuals : List TypeExpr}
    (found : registry.bindings? target context = some actuals) :
    ∀ actual ∈ actuals, actual.isErased = true :=
  isErased_of_argumentsOf? (fun _ => TypeDecl.isErased_of_mem_erasedParameters) found

theorem argumentsOf?_succ (differs : decl.name ≠ target) (actuals : List TypeExpr) :
    registry.argumentsOf? target (room + 1) decl actuals =
      decl.clauses.findSome? fun clause => (registry.parent? clause).bind fun parent =>
        registry.argumentsOf? target room parent (decl.clauseArguments actuals clause parent) := by
  rw [argumentsOf?, if_neg differs]
  congr 1
  funext clause
  cases registry.parent? clause <;> rfl

/-- The walk follows the first path. -/
theorem argumentsOf?_of_firstPath (first : registry.FirstPath target room decl path top)
    (actuals : List TypeExpr) :
    registry.argumentsOf? target room decl actuals = some (argumentsAlong actuals path) := by
  induction first generalizing actuals with
  | @here room decl same => cases room <;> simp [argumentsOf?, same, argumentsAlong]
  | @up room decl parent top passed others clause path differs written blocked named _ ih =>
      have missed : passed.findSome? (fun other => (registry.parent? other).bind fun parent =>
          registry.argumentsOf? target room parent (decl.clauseArguments actuals other parent)) =
            none := by
        rw [List.findSome?_eq_none_iff]
        intro other inside
        rw [Option.eq_none_iff_forall_ne_some]
        intro found reached
        obtain ⟨parent, named, reached⟩ := Option.bind_eq_some_iff.mp reached
        obtain ⟨path, top, climbs, short, same⟩ := exists_path_of_argumentsOf? reached
        exact blocked other inside ⟨parent, path, top, named, climbs, short, same⟩
      rw [argumentsOf?_succ differs, written, List.findSome?_append, missed, Option.none_or,
        List.findSome?_cons, named, Option.bind_some, ih]
      rfl

end Registry

theorem lowered_concat (path : List ClauseStep) (step : ClauseStep) (type : TypeExpr) :
    lowered (path ++ [step]) type = lowered path (step.lower type) := by
  simp [lowered]

namespace TypeDecl

variable {context decl : TypeDecl} {path : List ClauseStep} {actuals : List TypeExpr}

/-- Erasing a lowered type is erasing it with what the path makes of its variables. The induction
takes the steps off at the upper end, where the type is written. -/
theorem erase_lowered (context : TypeDecl) (path : List ClauseStep) (type : TypeExpr) :
    context.erase (lowered path type) =
      type.eraseWith fun name => context.erase (lowered path (.var name)) := by
  induction path using List.reverseRecOn generalizing type with
  | nil => rfl
  | append_singleton path step ih =>
      rw [lowered_concat, ih, ClauseStep.lower, substitute, TypeExpr.eraseWith_subst_eq]
      apply TypeExpr.eraseWith_congr
      intro name _
      rw [lowered_concat, ← ih]
      rfl

theorem erase_lowered_of_isErased (context : TypeDecl) (path : List ClauseStep) {type : TypeExpr}
    (erased : type.isErased = true) : context.erase (lowered path type) = type := by
  rw [erase_lowered, TypeExpr.eraseWith_of_isErased _ _ erased]

/-- From the context a parameter is seen alike in both directions: bound by the walk up the path,
and taken down the path. -/
def SeesAlike (context : TypeDecl) (path : List ClauseStep) (decl : TypeDecl)
    (actuals : List TypeExpr) : Prop :=
  ∀ name ∈ decl.parameterNames,
    decl.erase (decl.binding actuals name) = context.erase (lowered path (.var name))

/-- From parameters to all types that mention no other variables. -/
theorem SeesAlike.erase_substitute (alike : context.SeesAlike path decl actuals)
    {type : TypeExpr} (inScope : decl.Scopes type) :
    decl.erase (decl.substitute actuals type) = context.erase (lowered path type) := by
  calc decl.erase (decl.substitute actuals type)
      _ = type.eraseWith fun name => decl.erase (decl.binding actuals name) :=
        TypeExpr.eraseWith_subst_eq _ _ _
      _ = type.eraseWith fun name => context.erase (lowered path (.var name)) :=
        TypeExpr.eraseWith_congr fun name head =>
          alike name (inScope name (TypeExpr.mem_variableNames head))
      _ = context.erase (lowered path type) := (erase_lowered context path type).symm

theorem seesAlike_self (context : TypeDecl) :
    context.SeesAlike [] context context.erasedParameters := by
  intro name listed
  obtain ⟨place, bound, bindings⟩ := exists_place listed
  rw [bindings, bound, Option.getD_some, erase_erase]
  rfl

/-- One clause up, parameters are still seen alike. -/
theorem SeesAlike.up (alike : context.SeesAlike path decl actuals) {clause : TypeExpr}
    {parent : TypeDecl} (inScope : decl.Scopes clause)
    (supplies : ClauseStep.Supplies ⟨decl, clause, parent⟩) :
    context.SeesAlike (path ++ [⟨decl, clause, parent⟩]) parent
      (decl.clauseArguments actuals clause parent) := by
  intro name listed
  obtain ⟨place, bound, bindings⟩ := exists_place listed
  rw [lowered_concat]
  simp only [ClauseStep.lower, substitute, TypeExpr.subst, bindings, clauseArguments,
    ClauseStep.supplied]
  split
  · rw [bound, Option.getD_some, erase_erase,
      context.erase_lowered_of_isErased path (parent.isErased_erase _)]
  · next given =>
      have short : place < parent.parameters.length := by
        obtain ⟨inside, _⟩ := List.getElem?_eq_some_iff.mp bound
        rwa [erasedParameters, List.length_map] at inside
      have inside : place < clause.arguments.length := by
        rcases supplies with none | enough
        · rw [none] at given
          exact absurd rfl given
        · exact Nat.lt_of_lt_of_le short enough
      rw [List.getElem?_map, List.getElem?_eq_getElem inside, Option.map_some, Option.getD_some,
        Option.getD_some, erase_erase]
      exact alike.erase_substitute (inScope.of_mem_arguments (List.getElem_mem inside))

end TypeDecl

namespace Registry

variable {registry : Registry} {context decl top declaring : TypeDecl}
  {front path : List ClauseStep} {actuals : List TypeExpr} {declared : TypeExpr}

/-- Parameters are seen alike all the way up. -/
theorem seesAlike_argumentsAlong (climbs : registry.ClausePath decl path top)
    (alike : context.SeesAlike front decl actuals)
    (inScope : ∀ step ∈ path, step.child.Scopes step.clause)
    (supplies : ∀ step ∈ path, step.Supplies) :
    context.SeesAlike (front ++ path) top (argumentsAlong actuals path) := by
  induction climbs generalizing front actuals with
  | here decl =>
      rw [List.append_nil]
      exact alike
  | @up decl parent top clause path _ _ _ ih =>
      have above := alike.up (inScope _ List.mem_cons_self) (supplies _ List.mem_cons_self)
      rw [List.append_cons]
      exact ih above (fun step inside => inScope step (List.mem_cons_of_mem _ inside))
        fun step inside => supplies step (List.mem_cons_of_mem _ inside)

theorem generic_eq_erase_lowered
    (first : registry.FirstPath declaring.name longestPath context path declaring)
    (inScope : ∀ step ∈ path, step.child.Scopes step.clause)
    (supplies : ∀ step ∈ path, step.Supplies) (written : declaring.Scopes declared) :
    TypeResolver.generic registry declared declaring context =
      context.erase (lowered path declared) := by
  have alike := seesAlike_argumentsAlong first.clausePath context.seesAlike_self inScope supplies
  rw [TypeResolver.generic_eq, bindings?, argumentsOf?_of_firstPath first]
  exact alike.erase_substitute written

/-- Where variables are in scope and clauses supply what they have to, what the resolver answers is
the one erasure, in the context, of the declared type taken down the first path. -/
theorem erases_lowered_of_firstPath (acyclic : registry.BoundsAcyclic)
    (registered : registry.lookup? context.name = some context)
    (first : registry.FirstPath declaring.name longestPath context path declaring)
    (inScope : ∀ step ∈ path, step.child.Scopes step.clause)
    (supplies : ∀ step ∈ path, step.Supplies) (written : declaring.Scopes declared) :
    TypeResolver.generic registry declared declaring context =
        context.erase (lowered path declared) ∧
      context.Erases (lowered path declared)
        (TypeResolver.generic registry declared declaring context) := by
  have same := generic_eq_erase_lowered first inScope supplies written
  refine ⟨same, ?_⟩
  rw [same]
  exact context.erases_erase (acyclic _ _ registered) _

/-- `T` stands for different things in two classes, and the bound of `K` is a parameter itself. -/
def shelf : TypeDecl :=
  { TypeDecl.ofClass "Shelf" with
    parameters := [⟨"K", some (.var "L")⟩, ⟨"L", some (.named "Long")⟩]
    superclass := some (.applied "Rack" [.var "K"]) }

def rack : TypeDecl :=
  { TypeDecl.ofClass "Rack" with
    parameters := [⟨"T", none⟩]
    superclass := some (.applied "Store" [.named "String", .array (.var "T")]) }

def storage : TypeDecl :=
  { TypeDecl.ofClass "Store" with
    parameters := [⟨"T", some (.named "CharSequence")⟩, ⟨"U", none⟩]
    interfaces := [.applied "Source" [.var "U", .var "T"]] }

def source : TypeDecl := { TypeDecl.ofInterface "Source" with parameters := [⟨"V", none⟩] }

def shelves : Registry :=
  (((Registry.builtin.register source).register storage).register rack).register shelf

def shelfPath : List ClauseStep :=
  [⟨shelf, .applied "Rack" [.var "K"], rack⟩,
    ⟨rack, .applied "Store" [.named "String", .array (.var "T")], storage⟩,
    ⟨storage, .applied "Source" [.var "U", .var "T"], source⟩]

theorem firstPath_shelves : shelves.FirstPath "Source" longestPath shelf shelfPath source := by
  have blocked : ∀ other ∈ [TypeExpr.root], ¬ shelves.LeadsWithin "Source" 253 other := by
    intro other inside
    rw [List.mem_singleton.mp inside]
    rintro ⟨parent, path, top, named, climbs, _, same⟩
    cases named
    cases climbs with
    | here => exact absurd same (by decide)
    | up written => cases written
  refine .up (by decide) (List.nil_append _).symm (by simp) rfl ?_
  refine .up (by decide) (List.nil_append _).symm (by simp) rfl ?_
  exact .up (by decide) rfl blocked rfl (.here rfl)

theorem erases_lowered_of_firstPath_shelves :
    shelves.FirstPath "Source" longestPath shelf shelfPath source ∧
      lowered shelfPath (.array (.var "V")) = .array (.array (.var "K")) ∧
      TypeResolver.generic shelves (.array (.var "V")) source shelf =
        .array (.array (.named "Long")) ∧
      shelf.Erases (.array (.array (.var "K")))
        (TypeResolver.generic shelves (.array (.var "V")) source shelf) := by
  have acyclic : shelves.BoundsAcyclic :=
    boundsAcyclic_of_rank (fun name => if name = "K" then 1 else 0) (by decide)
  have inScope : ∀ step ∈ shelfPath, step.child.Scopes step.clause := by decide
  have supplies : ∀ step ∈ shelfPath, step.Supplies := by decide
  have written : source.Scopes (.array (.var "V")) := by decide
  obtain ⟨same, erases⟩ :=
    erases_lowered_of_firstPath acyclic rfl firstPath_shelves inScope supplies written
  exact ⟨firstPath_shelves, rfl, same, erases⟩

end Registry

end Introspection
