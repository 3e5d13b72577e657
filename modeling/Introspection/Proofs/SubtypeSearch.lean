import Introspection.Proofs.Subtyping

/-!
# Deciding subtyping by a depth-first search

`Search.Answers` describes, with no limit on its length, the search that keeps what it has still to
open on a stack, passes over what it has seen and stops as soon as something leads to the target.
When the links are paid for it always comes to an end (`exists_answers`), and it answers whether
one or more links lead from the stack to the target (`Answers.eq_true_iff`). Over the supertype
clauses of a registry, cyclic or not, its answer is `isSubtype`, and that is reachability together
with the rule for the root class (`decides_isSubtype`).
-/

set_option autoImplicit false

namespace Introspection

namespace Search

variable {α : Type} {next : α → List α} {target : α}

/-- The answers of a depth-first search for the target, from what has been seen and the stack. -/
inductive Answers (next : α → List α) (target : α) : List α → List α → Bool → Prop where
  | exhausted (seen : List α) : Answers next target seen [] false
  | passed {seen stack : List α} {head : α} {answer : Bool} : head ∈ seen →
      Answers next target seen stack answer → Answers next target seen (head :: stack) answer
  | found {seen stack : List α} {head : α} : head ∉ seen → target ∈ next head →
      Answers next target seen (head :: stack) true
  | opened {seen stack : List α} {head : α} {answer : Bool} : head ∉ seen → target ∉ next head →
      Answers next target (head :: seen) ((next head).reverse ++ stack) answer →
      Answers next target seen (head :: stack) answer

/-- Nothing seen leads to the target, and what seen things lead to has been seen or waits on the
stack. -/
def Missed (next : α → List α) (target : α) (seen stack : List α) : Prop :=
  ∀ known ∈ seen, target ∉ next known ∧ ∀ linked ∈ next known, linked ∈ seen ∨ linked ∈ stack

namespace Missed

variable {seen stack : List α} {head : α}

theorem start (next : α → List α) (target : α) (stack : List α) : Missed next target [] stack := by
  intro known inside
  cases inside

theorem passed (missed : Missed next target seen (head :: stack)) (known : head ∈ seen) :
    Missed next target seen stack := by
  intro item inside
  obtain ⟨misses, links⟩ := missed item inside
  refine ⟨misses, fun linked member => ?_⟩
  rcases links linked member with old | waiting
  · exact .inl old
  · rcases List.mem_cons.mp waiting with rfl | later
    · exact .inl known
    · exact .inr later

theorem opened (missed : Missed next target seen (head :: stack)) (misses : target ∉ next head) :
    Missed next target (head :: seen) ((next head).reverse ++ stack) := by
  intro item inside
  rcases List.mem_cons.mp inside with rfl | old
  · exact ⟨misses, fun linked member =>
      .inr (List.mem_append_left _ (List.mem_reverse.mpr member))⟩
  · obtain ⟨clear, links⟩ := missed item old
    refine ⟨clear, fun linked member => ?_⟩
    rcases links linked member with known | waiting
    · exact .inl (List.mem_cons_of_mem _ known)
    · rcases List.mem_cons.mp waiting with rfl | later
      · exact .inl List.mem_cons_self
      · exact .inr (List.mem_append_right _ later)

end Missed

namespace Answers

variable {seen stack : List α} {answer : Bool}

theorem exists_leads (answered : Answers next target seen stack true) :
    ∃ start ∈ stack, Relation.TransGen (Leads next) start target := by
  generalize positive : true = answer at answered
  induction answered with
  | exhausted => cases positive
  | passed _ _ ih =>
      obtain ⟨start, waiting, path⟩ := ih positive
      exact ⟨start, List.mem_cons_of_mem _ waiting, path⟩
  | found _ leads => exact ⟨_, List.mem_cons_self, .single leads⟩
  | opened _ _ _ ih =>
      obtain ⟨start, waiting, path⟩ := ih positive
      rcases List.mem_append.mp waiting with new | old
      · exact ⟨_, List.mem_cons_self, .head (List.mem_reverse.mp new) path⟩
      · exact ⟨start, List.mem_cons_of_mem _ old, path⟩

/-- What a search that finds nothing has seen in the end: all it was given and whatever that leads
to, but nothing that leads to the target. -/
theorem exists_closed (answered : Answers next target seen stack false)
    (missed : Missed next target seen stack) :
    ∃ closed : List α, seen ⊆ closed ∧ stack ⊆ closed ∧
      ∀ known ∈ closed, target ∉ next known ∧ next known ⊆ closed := by
  generalize negative : false = answer at answered
  induction answered with
  | exhausted seen =>
      refine ⟨seen, List.Subset.refl _, List.nil_subset _, ?_⟩
      intro known inside
      obtain ⟨misses, linked⟩ := missed known inside
      exact ⟨misses, fun item member => (linked item member).resolve_right List.not_mem_nil⟩
  | passed known _ ih =>
      obtain ⟨closed, old, waiting, shut⟩ := ih (missed.passed known) negative
      exact ⟨closed, old, List.cons_subset.mpr ⟨old known, waiting⟩, shut⟩
  | found => cases negative
  | @opened _ stack _ _ _ misses _ ih =>
      obtain ⟨closed, known, waiting, shut⟩ := ih (missed.opened misses) negative
      obtain ⟨top, old⟩ := List.cons_subset.mp known
      have rest : stack ⊆ closed := fun _ member => waiting (List.mem_append_right _ member)
      exact ⟨closed, old, List.cons_subset.mpr ⟨top, rest⟩, shut⟩

/-- A search that has seen nothing yet finds out whether one or more links lead to the target. -/
theorem eq_true_iff {starts : List α} (answered : Answers next target [] starts answer) :
    answer = true ↔ ∃ start ∈ starts, Relation.TransGen (Leads next) start target := by
  cases answer with
  | true => exact iff_of_true rfl answered.exists_leads
  | false =>
      apply iff_of_false Bool.false_ne_true
      rintro ⟨start, given, path⟩
      obtain ⟨closed, _, stacked, shut⟩ := answered.exists_closed (.start next target starts)
      obtain ⟨last, reached, leads⟩ := Relation.TransGen.tail'_iff.mp path
      have inside : last ∈ closed := by
        clear leads
        induction reached with
        | refl => exact stacked given
        | tail _ linked ih => exact (shut _ ih).2 linked
      exact (shut last inside).1 leads

end Answers

/-- A search whose links are paid for comes to an end: each turn takes something off the stack, and
the links that it puts there were owed. -/
theorem exists_answers {dues : List α → Nat} (funded : Funded next dues) (target : α)
    (seen stack : List α) : ∃ answer, Answers next target seen stack answer := by
  obtain ⟨bound, enough⟩ : ∃ bound, stack.length + dues seen ≤ bound := ⟨_, Nat.le_refl _⟩
  induction bound generalizing seen stack with
  | zero =>
      have empty : stack = [] := List.eq_nil_of_length_eq_zero (by omega)
      exact ⟨false, empty ▸ .exhausted seen⟩
  | succ bound ih =>
      cases stack with
      | nil => exact ⟨false, .exhausted seen⟩
      | cons head stack =>
          rw [List.length_cons] at enough
          by_cases known : head ∈ seen
          · obtain ⟨answer, rest⟩ := ih seen stack (by omega)
            exact ⟨answer, .passed known rest⟩
          · by_cases leads : target ∈ next head
            · exact ⟨true, .found known leads⟩
            · have paid := funded seen head known
              have room : ((next head).reverse ++ stack).length + dues (head :: seen) ≤ bound := by
                rw [List.length_append, List.length_reverse]
                omega
              obtain ⟨answer, rest⟩ := ih (head :: seen) _ room
              exact ⟨answer, .opened known leads rest⟩

end Search

namespace Registry

variable {registry : Registry} {sub super : String}

/-- The answers to a question of subtyping: a type is below itself and below the root class, and
for everything else the clauses are searched, the last clause of a type first. -/
inductive Decides (registry : Registry) (sub super : String) : Bool → Prop where
  | same : sub = super → Decides registry sub super true
  | top : super = rootName → Decides registry sub super true
  | searched {answer : Bool} : sub ≠ super → super ≠ rootName →
      Search.Answers registry.parentNames super [] [sub] answer →
      Decides registry sub super answer

theorem isSubtype_of_answers {answer : Bool} (differs : sub ≠ super) (lower : super ≠ rootName)
    (answered : Search.Answers registry.parentNames super [] [sub] answer) :
    answer = registry.isSubtype sub super := by
  rw [Bool.eq_iff_iff, answered.eq_true_iff, isSubtype_iff_linksTo, leads_parentNames]
  simp [differs, lower]

theorem decides_iff {answer : Bool} :
    registry.Decides sub super answer ↔ answer = registry.isSubtype sub super := by
  constructor
  · intro decided
    cases decided with
    | same same => exact ((registry.isSubtype_iff_linksTo sub super).mpr (.inl same)).symm
    | top top => exact ((registry.isSubtype_iff_linksTo sub super).mpr (.inr (.inl top))).symm
    | searched differs lower answered => exact isSubtype_of_answers differs lower answered
  · rintro rfl
    by_cases same : sub = super
    · rw [(registry.isSubtype_iff_linksTo sub super).mpr (.inl same)]
      exact .same same
    · by_cases top : super = rootName
      · rw [(registry.isSubtype_iff_linksTo sub super).mpr (.inr (.inl top))]
        exact .top top
      · obtain ⟨answer, answered⟩ :=
          Search.exists_answers registry.funded_parentNames super [] [sub]
        rw [← isSubtype_of_answers same top answered]
        exact .searched same top answered

/-- The search comes to an end with one answer, on cyclic clauses as well; a name is found to be a
subtype exactly of itself, the root class and what clauses of registered types lead to; and below a
bare root class this is a preorder on all names. -/
theorem decides_isSubtype (registry : Registry) :
    (∀ sub super,
      (∀ answer, registry.Decides sub super answer ↔ answer = registry.isSubtype sub super) ∧
      (registry.isSubtype sub super = true ↔
        sub = super ∨ super = rootName ∨ Relation.TransGen registry.LinksTo sub super)) ∧
    (registry.RootIsBare →
      (∀ name, registry.isSubtype name name = true) ∧
      ∀ lower middle upper, registry.isSubtype lower middle = true →
        registry.isSubtype middle upper = true → registry.isSubtype lower upper = true) := by
  refine ⟨fun sub super => ⟨fun _ => decides_iff, registry.isSubtype_iff_linksTo sub super⟩, ?_⟩
  intro bare
  exact ⟨registry.isSubtype_refl, fun _ _ _ => isSubtype_trans bare⟩

def rings : Registry :=
  (Registry.builtin.register
    { TypeDecl.ofInterface "Left" with interfaces := [.named "Right"] }).register
    { TypeDecl.ofInterface "Right" with interfaces := [.applied "Left" [.var "T"], .named "Ghost"] }

theorem decides_isSubtype_rings :
    rings.RootIsBare ∧ rings.Decides "Left" "Ghost" true ∧ rings.Decides "Ghost" "Left" false ∧
      rings.isSubtype "Left" "Right" = true ∧ rings.isSubtype "Right" "Ghost" = true ∧
      rings.isSubtype "Left" "Ghost" = true := by
  have bare : rings.RootIsBare := rootIsBare_of_lookup? rfl rfl
  obtain ⟨settled, preorder⟩ := decides_isSubtype rings
  obtain ⟨_, transitive⟩ := preorder bare
  have reached : rings.Decides "Left" "Ghost" true := ((settled _ _).1 true).mpr (by decide)
  have unknown : rings.Decides "Ghost" "Left" false := ((settled _ _).1 false).mpr (by decide)
  have left : rings.isSubtype "Left" "Right" = true := by decide
  have right : rings.isSubtype "Right" "Ghost" = true := by decide
  exact ⟨bare, reached, unknown, left, right, transitive _ _ _ left right⟩

end Registry

end Introspection
