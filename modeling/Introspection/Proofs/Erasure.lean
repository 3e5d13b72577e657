import Introspection.Proofs.Approximation
import Introspection.Proofs.Search
import Introspection.Registry
import Mathlib.Data.List.Perm.Subperm
import Mathlib.Logic.Relation

/-!
# Erasure as a recursion through bounds

`TypeDecl.Erases` describes erasure by its rules, with no limit on the number of bounds that are
followed. What it derives is what `TypeDecl.erase?` finds (`erase?_eq_some_iff`): a way through the
bounds that does not go around a ring passes each parameter at most once, so it is never longer than
the parameter list. Where there are no rings every type has an erasure (`erases_erase`).
-/

set_option autoImplicit false

namespace Introspection

namespace TypeExpr

/-- The variable that erasure looks up in a type: the type itself, or what an array is made of.
Type arguments are dropped, so the variables inside them do not count. -/
def headVariable? : TypeExpr → Option String
  | var name => some name
  | array element => element.headVariable?
  | _ => none

theorem eraseWith?_congr {first second : String → Option TypeExpr} {type : TypeExpr}
    (agree : ∀ name, type.headVariable? = some name → first name = second name) :
    type.eraseWith? first = type.eraseWith? second := by
  induction type using TypeExpr.rec (motive_2 := fun _ => True) with
  | void | primitive | named | applied => rfl
  | var name => exact agree name rfl
  | array element ih => exact congrArg (Option.map array) (ih agree)
  | nil | cons => trivial

theorem exists_eraseWith? {replacement : String → Option TypeExpr} {type : TypeExpr}
    (known : ∀ name, type.headVariable? = some name → ∃ erasure, replacement name = some erasure) :
    ∃ erasure, type.eraseWith? replacement = some erasure := by
  induction type using TypeExpr.rec (motive_2 := fun _ => True) with
  | void | primitive | named | applied => exact ⟨_, rfl⟩
  | var name => exact known name rfl
  | array element ih =>
      obtain ⟨erasure, found⟩ := ih known
      exact ⟨.array erasure, congrArg (Option.map array) found⟩
  | nil | cons => trivial

theorem eraseWith_congr {first second : String → TypeExpr} {type : TypeExpr}
    (agree : ∀ name, type.headVariable? = some name → first name = second name) :
    type.eraseWith first = type.eraseWith second := by
  induction type using TypeExpr.rec (motive_2 := fun _ => True) with
  | void | primitive | named | applied => rfl
  | var name => exact agree name rfl
  | array element ih => exact congrArg array (ih agree)
  | nil | cons => trivial

end TypeExpr

namespace TypeDecl

variable {decl : TypeDecl} {name : String} {type erasure : TypeExpr}

def parameterNames (decl : TypeDecl) : List String := decl.parameters.map TypeParameter.name

/-- The bound that takes the place of a variable. A variable bounded by exactly itself has none. -/
def FollowsBound (decl : TypeDecl) (name : String) (bound : TypeExpr) : Prop :=
  ∃ parameter, decl.parameter? name = some parameter ∧ parameter.bound = some bound ∧
    bound ≠ .var name

inductive Erases (decl : TypeDecl) : TypeExpr → TypeExpr → Prop where
  | void : Erases decl .void .void
  | primitive (kind : Primitive) : Erases decl (.primitive kind) (.primitive kind)
  | named (name : String) : Erases decl (.named name) (.named name)
  | applied (raw : String) (arguments : List TypeExpr) :
      Erases decl (.applied raw arguments) (.named raw)
  | array {element erasure : TypeExpr} : Erases decl element erasure →
      Erases decl (.array element) (.array erasure)
  | bounded {name : String} {bound erasure : TypeExpr} : decl.FollowsBound name bound →
      Erases decl bound erasure → Erases decl (.var name) erasure
  | unbounded {name : String} : (∀ bound, ¬ decl.FollowsBound name bound) →
      Erases decl (.var name) .root

theorem FollowsBound.unique {bound other : TypeExpr} (first : decl.FollowsBound name bound)
    (second : decl.FollowsBound name other) : bound = other := by
  obtain ⟨parameter, found, written, _⟩ := first
  obtain ⟨again, foundAgain, writtenAgain, _⟩ := second
  rw [found, Option.some.injEq] at foundAgain
  rw [← foundAgain, written, Option.some.injEq] at writtenAgain
  exact writtenAgain

/-- A type has at most one erasure. -/
theorem Erases.unique {other : TypeExpr} (first : decl.Erases type erasure)
    (second : decl.Erases type other) : erasure = other := by
  induction first generalizing other with
  | void | primitive | named | applied =>
      cases second
      rfl
  | array _ ih =>
      cases second with
      | array inner => exact congrArg TypeExpr.array (ih inner)
  | bounded followed _ ih =>
      cases second with
      | bounded again erased =>
          rw [followed.unique again] at ih
          exact ih erased
      | unbounded none => exact absurd followed (none _)
  | unbounded none =>
      cases second with
      | bounded followed _ => exact absurd followed (none _)
      | unbounded _ => rfl

/-- Erasing the one variable makes erasing the other necessary. -/
def BoundLeads (decl : TypeDecl) (name next : String) : Prop :=
  ∃ bound, decl.FollowsBound name bound ∧ bound.headVariable? = some next

/-- No variable leads back to itself through bounds and arrays. -/
def BoundsAcyclic (decl : TypeDecl) : Prop :=
  ∀ name, ¬ Relation.TransGen decl.BoundLeads name name

theorem boundsAcyclic_of_rank (rank : String → Nat)
    (falls : ∀ name next, decl.BoundLeads name next → rank next < rank name) :
    decl.BoundsAcyclic :=
  Search.not_transGen_self_of_rank rank falls

theorem FollowsBound.mem_parameterNames {bound : TypeExpr} (followed : decl.FollowsBound name bound) :
    name ∈ decl.parameterNames := by
  obtain ⟨parameter, found, _⟩ := followed
  have same : parameter.name = name := by simpa using List.find?_some found
  exact same ▸ List.mem_map_of_mem (List.mem_of_find?_eq_some found)

theorem eraseVariable?_of_followsBound {bound : TypeExpr}
    (followed : decl.FollowsBound name bound) (steps : Nat) :
    decl.eraseVariable? (steps + 1) name = bound.eraseWith? (decl.eraseVariable? steps) := by
  obtain ⟨parameter, found, written, proper⟩ := followed
  simp [eraseVariable?, found, written, proper]

theorem eraseVariable?_of_unbounded (none : ∀ bound, ¬ decl.FollowsBound name bound)
    (steps : Nat) : decl.eraseVariable? (steps + 1) name = some .root := by
  rw [eraseVariable?]
  split
  · next bound written =>
      split
      · rfl
      · next proper =>
          obtain ⟨parameter, found, bounded⟩ := Option.bind_eq_some_iff.mp written
          exact absurd ⟨parameter, found, bounded, proper⟩ (none bound)
  · rfl

/-- From variables to all types. -/
theorem erases_of_eraseWith? {replacement : String → Option TypeExpr}
    (erases : ∀ name erasure, replacement name = some erasure → decl.Erases (.var name) erasure)
    (found : type.eraseWith? replacement = some erasure) : decl.Erases type erasure := by
  induction type using TypeExpr.rec (motive_2 := fun _ => True) generalizing erasure with
  | void =>
      cases found
      exact .void
  | primitive kind =>
      cases found
      exact .primitive kind
  | named name =>
      cases found
      exact .named name
  | applied raw arguments =>
      cases found
      exact .applied raw arguments
  | var name => exact erases name erasure found
  | array element ih =>
      obtain ⟨inner, foundInner, rfl⟩ := Option.map_eq_some_iff.mp found
      exact .array (ih foundInner)
  | nil | cons => trivial

theorem erases_of_eraseVariable? {steps : Nat}
    (found : decl.eraseVariable? steps name = some erasure) :
    decl.Erases (.var name) erasure := by
  induction steps generalizing name erasure with
  | zero => cases found
  | succ steps ih =>
      by_cases followed : ∃ bound, decl.FollowsBound name bound
      · obtain ⟨bound, followed⟩ := followed
        rw [eraseVariable?_of_followsBound followed] at found
        exact .bounded followed (erases_of_eraseWith? (fun _ _ => ih) found)
      · have unbounded := not_exists.mp followed
        rw [eraseVariable?_of_unbounded unbounded] at found
        rw [← Option.some.inj found]
        exact .unbounded unbounded

/-! ## Rings -/

theorem BoundLeads.unique {next other : String} (first : decl.BoundLeads name next)
    (second : decl.BoundLeads name other) : next = other := by
  obtain ⟨bound, followed, written⟩ := first
  obtain ⟨again, followedAgain, writtenAgain⟩ := second
  rw [followed.unique followedAgain, writtenAgain, Option.some.injEq] at written
  exact written.symm

/-- A ring passes through whatever its variables lead to. -/
theorem ring_of_boundLeads {next : String} (leads : decl.BoundLeads name next)
    (ring : Relation.TransGen decl.BoundLeads name name) :
    Relation.TransGen decl.BoundLeads next next := by
  obtain ⟨first, step, back⟩ := Relation.TransGen.head'_iff.mp ring
  have same : first = next := step.unique leads
  subst same
  exact Relation.TransGen.tail' back step

/-- No bound on the way from a variable leads back to where the way has been. -/
def EndsFrom (decl : TypeDecl) (name : String) : Prop :=
  ∀ reached, Relation.ReflTransGen decl.BoundLeads name reached →
    ¬ Relation.TransGen decl.BoundLeads reached reached

theorem EndsFrom.next {next : String} (ends : decl.EndsFrom name)
    (leads : decl.BoundLeads name next) : decl.EndsFrom next :=
  fun reached path => ends reached (.head leads path)

/-- What has an erasure looks up a variable from which no ring is reached. -/
theorem Erases.endsFrom (erases : decl.Erases type erasure)
    (head : type.headVariable? = some name) : decl.EndsFrom name := by
  induction erases generalizing name with
  | void | primitive | named | applied => cases head
  | array _ ih => exact ih head
  | @bounded own bound _ followed _ ih =>
      cases head
      have later : ∀ next, decl.BoundLeads own next → decl.EndsFrom next := by
        rintro next ⟨again, followedAgain, written⟩
        rw [followedAgain.unique followed] at written
        exact ih written
      intro reached path ring
      rcases Relation.ReflTransGen.cases_head path with rfl | ⟨next, leads, rest⟩
      · obtain ⟨next, leads, _⟩ := Relation.TransGen.head'_iff.mp ring
        exact later next leads next .refl (ring_of_boundLeads leads ring)
      · exact later next leads reached rest ring
  | unbounded none =>
      cases head
      have stuck : ∀ next, ¬ decl.BoundLeads _ next := fun _ ⟨bound, followed, _⟩ =>
        none bound followed
      intro reached path ring
      rcases Relation.ReflTransGen.cases_head path with rfl | ⟨next, leads, _⟩
      · obtain ⟨next, leads, _⟩ := Relation.TransGen.head'_iff.mp ring
        exact stuck next leads
      · exact stuck next leads

/-- The parameters passed so far all lead to the variable, so it is none of them, and the steps
that are left pay for the parameters that have not been passed. -/
theorem exists_eraseVariable? (ends : decl.EndsFrom name) {passed : List String} {steps : Nat}
    (distinct : passed.Nodup) (listed : passed ⊆ decl.parameterNames)
    (lead : ∀ earlier ∈ passed, Relation.TransGen decl.BoundLeads earlier name)
    (enough : decl.parameters.length < passed.length + steps) :
    ∃ erasure, decl.eraseVariable? steps name = some erasure := by
  induction steps generalizing name passed with
  | zero =>
      have room := (List.subperm_of_subset distinct listed).length_le
      rw [parameterNames, List.length_map] at room
      omega
  | succ steps ih =>
      by_cases followed : ∃ bound, decl.FollowsBound name bound
      · obtain ⟨bound, followed⟩ := followed
        rw [eraseVariable?_of_followsBound followed]
        refine TypeExpr.exists_eraseWith? fun next written => ?_
        have leads : decl.BoundLeads name next := ⟨bound, followed, written⟩
        have fresh : name ∉ passed := fun again => ends name .refl (lead name again)
        apply ih (ends.next leads) (List.nodup_cons.mpr ⟨fresh, distinct⟩)
          (List.cons_subset.mpr ⟨followed.mem_parameterNames, listed⟩)
        · intro earlier inside
          rcases List.mem_cons.mp inside with rfl | before
          · exact .single leads
          · exact (lead earlier before).tail leads
        · rw [List.length_cons]
          omega
      · exact ⟨.root, eraseVariable?_of_unbounded (not_exists.mp followed) steps⟩

theorem exists_erase? (ends : ∀ name, type.headVariable? = some name → decl.EndsFrom name) :
    ∃ erasure, decl.erase? type = some erasure := by
  refine TypeExpr.exists_eraseWith? fun name head => ?_
  apply exists_eraseVariable? (ends name head) List.nodup_nil (List.nil_subset _)
  · intro earlier inside
    cases inside
  · simp

/-- The search for an erasure finds just what the rules derive. -/
theorem erase?_eq_some_iff : decl.erase? type = some erasure ↔ decl.Erases type erasure := by
  constructor
  · exact erases_of_eraseWith? fun _ _ => erases_of_eraseVariable?
  · intro erases
    obtain ⟨found, search⟩ := exists_erase? (fun _ head => erases.endsFrom head)
    rw [search, erases.unique (erases_of_eraseWith? (fun _ _ => erases_of_eraseVariable?) search)]

/-- Two variables that bound each other have no erasure. -/
example : TypeDecl.erase? { TypeDecl.ofClass "Ring" with
    parameters := [⟨"T", some (.var "U")⟩, ⟨"U", some (.var "T")⟩] } (.var "T") = none := rfl

/-- Without rings of bounds every type has an erasure. -/
theorem erase?_eq_erase (acyclic : decl.BoundsAcyclic) (type : TypeExpr) :
    decl.erase? type = some (decl.erase type) := by
  obtain ⟨erasure, found⟩ : ∃ erasure, decl.erase? type = some erasure :=
    exists_erase? fun _ _ reached _ => acyclic reached
  rw [found, erase_of_erase? found]

theorem approximates_erase (decl : TypeDecl) (type : TypeExpr) :
    Approximates decl.BoundsAcyclic (decl.erase? type) (decl.erase type) :=
  ⟨fun _ => erase_of_erase?, fun acyclic => erase?_eq_erase acyclic type⟩

theorem approximates_map_erase (decl : TypeDecl) (types : List TypeExpr) :
    Approximates decl.BoundsAcyclic (types.mapM decl.erase?) (types.map decl.erase) :=
  .mapM fun type _ => decl.approximates_erase type

theorem erases_erase (acyclic : decl.BoundsAcyclic) (type : TypeExpr) :
    decl.Erases type (decl.erase type) :=
  erase?_eq_some_iff.mp (erase?_eq_erase acyclic type)

end TypeDecl

def Registry.BoundsAcyclic (registry : Registry) : Prop :=
  ∀ name decl, registry.lookup? name = some decl → decl.BoundsAcyclic

theorem Registry.approximates_eraseIn (registry : Registry) (declaring : String)
    (type : TypeExpr) :
    Approximates registry.BoundsAcyclic (registry.eraseIn? declaring type)
      (registry.eraseIn declaring type) := by
  rw [eraseIn?, eraseIn]
  cases looked : registry.lookup? declaring with
  | none => exact .found _ type
  | some decl => exact (decl.approximates_erase type).weaken fun acyclic => acyclic _ _ looked

/-- Ranks that fall from each parameter to the variable of its bound rule out rings. -/
theorem Registry.boundsAcyclic_of_rank {registry : Registry} (rank : String → Nat)
    (falls : ∀ decl ∈ registry.declarations, ∀ parameter ∈ decl.parameters,
      ∀ bound ∈ parameter.bound, bound = .var parameter.name ∨
        ∀ next ∈ bound.headVariable?, rank next < rank parameter.name) :
    registry.BoundsAcyclic := by
  intro name decl found
  apply TypeDecl.boundsAcyclic_of_rank rank
  rintro name next ⟨bound, ⟨parameter, declared, written, proper⟩, leads⟩
  have same : parameter.name = name := by simpa using List.find?_some declared
  rw [← same] at proper ⊢
  exact (falls decl (mem_of_lookup? found) parameter (List.mem_of_find?_eq_some declared) bound
    written).resolve_left proper next leads

end Introspection
