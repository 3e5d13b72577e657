import Introspection.Proofs.Search

/-!
# The order in which a search finds things

`Visits` is the search without a bound: it ends when the queue is empty, and a bounded search that
pays for its queue is such a run. What a run finds is new and found once, the starts come first,
and nothing is found before something that lies nearer. The last rests on `AtLevel`: while the
queue is worked off it holds the things of one level, followed by those of the next.
-/

set_option autoImplicit false

namespace Introspection.Search

variable {α : Type} {next : α → List α} {starts : List α}

inductive InSteps (next : α → List α) (starts : List α) : Nat → α → Prop where
  | start {target : α} : target ∈ starts → InSteps next starts 0 target
  | step {steps : Nat} {source target : α} : InSteps next starts steps source →
      target ∈ next source → InSteps next starts (steps + 1) target

theorem InSteps.exists_reaches {steps : Nat} {target : α}
    (path : InSteps next starts steps target) : ∃ start ∈ starts, Reaches next start target := by
  induction path with
  | start listed => exact ⟨_, listed, .refl⟩
  | step _ linked ih =>
      obtain ⟨start, listed, reached⟩ := ih
      exact ⟨start, listed, reached.tail linked⟩

theorem exists_inSteps_iff (target : α) :
    (∃ steps, InSteps next starts steps target) ↔ ∃ start ∈ starts, Reaches next start target := by
  constructor
  · intro ⟨_, path⟩
    exact path.exists_reaches
  · intro ⟨start, listed, reached⟩
    induction reached with
    | refl => exact ⟨0, .start listed⟩
    | tail _ linked ih =>
        obtain ⟨steps, path⟩ := ih
        exact ⟨steps + 1, path.step linked⟩

/-- Whatever leads to the one thing, something at most as long leads to the other. -/
def NoFarther (next : α → List α) (starts : List α) (nearer farther : α) : Prop :=
  ∀ steps, InSteps next starts steps farther → ∃ fewer ≤ steps, InSteps next starts fewer nearer

/-- A run of the search, from what has been seen and the queue to what it finds. -/
inductive Visits (next : α → List α) : List α → List α → List α → Prop where
  | done {seen : List α} : Visits next seen [] []
  | known {seen queue found : List α} {head : α} : head ∈ seen → Visits next seen queue found →
      Visits next seen (head :: queue) found
  | fresh {seen queue found : List α} {head : α} : head ∉ seen →
      Visits next (head :: seen) (queue ++ next head) found →
      Visits next seen (head :: queue) (head :: found)

theorem visits_visit [DecidableEq α] {dues : List α → Nat} (funded : Funded next dues)
    {bound : Nat} {seen queue : List α} (enough : queue.length + dues seen ≤ bound) :
    Visits next seen queue (visit next bound seen queue) := by
  induction bound generalizing seen queue with
  | zero =>
      have empty : queue = [] := List.eq_nil_of_length_eq_zero (by omega)
      subst empty
      exact .done
  | succ bound ih =>
      cases queue with
      | nil => exact .done
      | cons head queue =>
          rw [List.length_cons] at enough
          by_cases old : head ∈ seen
          · simp only [visit, if_pos old]
            exact .known old (ih (by omega))
          · have paid := funded seen head old
            simp only [visit, if_neg old]
            exact .fresh old (ih (by simp only [List.length_append]; omega))

namespace Visits

variable {seen queue found : List α}

theorem not_mem_seen (run : Visits next seen queue found) : ∀ thing ∈ found, thing ∉ seen := by
  induction run with
  | done => simp
  | known _ _ ih => exact ih
  | fresh new _ ih =>
      intro thing inside
      rcases List.mem_cons.mp inside with rfl | later
      · exact new
      · exact fun old => ih thing later (List.mem_cons_of_mem _ old)

theorem nodup (run : Visits next seen queue found) : found.Nodup := by
  induction run with
  | done => exact List.nodup_nil
  | known _ _ ih => exact ih
  | fresh _ rest ih =>
      exact List.nodup_cons.mpr ⟨fun again => rest.not_mem_seen _ again List.mem_cons_self, ih⟩

theorem unique {other : List α} (run : Visits next seen queue found)
    (again : Visits next seen queue other) : found = other := by
  induction run generalizing other with
  | done =>
      cases again
      rfl
  | known old _ ih =>
      cases again with
      | known _ rest => exact ih rest
      | fresh new _ => exact absurd old new
  | fresh new _ ih =>
      cases again with
      | known old _ => exact absurd old new
      | fresh _ rest => rw [ih rest]

/-- What stands in the queue and is new comes first, each thing at its first place. -/
theorem starts_first [DecidableEq α] (run : Visits next seen queue found) :
    (queue.filter fun thing => thing ∉ seen).eraseDups <+: found := by
  induction run with
  | done => exact List.prefix_rfl
  | known old _ ih => simpa [old] using ih
  | @fresh seen queue found head new _ ih =>
      have others : (queue.filter fun thing => thing ∉ seen).filter (fun thing => !thing == head) =
          queue.filter fun thing => thing ∉ head :: seen := by
        rw [List.filter_filter]
        exact List.filter_congr fun thing _ => by
          by_cases same : thing = head <;> simp [same]
      rw [List.filter_append, List.eraseDups_append] at ih
      rw [List.filter_cons_of_pos (by simpa using new), List.eraseDups_cons, others,
        List.cons_prefix_cons]
      exact ⟨rfl, (List.prefix_append _ _).trans ih⟩

end Visits

/-! ## Levels -/

/-- The queue holds things of one level and then things of the next. All that lies nearer has been
seen, and what the seen things lead to has been seen or is waiting. -/
structure AtLevel (next : α → List α) (starts : List α) (level : Nat) (seen near far : List α) :
    Prop where
  near_at : ∀ thing ∈ near, InSteps next starts level thing
  far_at : ∀ thing ∈ far, InSteps next starts (level + 1) thing
  passed : ∀ steps < level, ∀ thing, InSteps next starts steps thing → thing ∈ seen
  reached : ∀ thing, InSteps next starts level thing → thing ∈ seen ∨ thing ∈ near
  closed : ∀ source ∈ seen, ∀ target ∈ next source, target ∈ seen ∨ target ∈ near ∨ target ∈ far

namespace AtLevel

variable {level : Nat} {seen near far : List α} {head : α}

theorem start : AtLevel next starts 0 [] starts [] where
  near_at _ listed := .start listed
  far_at := by simp
  passed := by simp
  reached thing path := by
    cases path with
    | start listed => exact .inr listed
  closed := by simp

theorem known (state : AtLevel next starts level seen (head :: near) far) (old : head ∈ seen) :
    AtLevel next starts level seen near far where
  near_at thing waiting := state.near_at thing (List.mem_cons_of_mem _ waiting)
  far_at := state.far_at
  passed := state.passed
  reached thing path := by
    have either := state.reached thing path
    grind
  closed source inside target linked := by
    have either := state.closed source inside target linked
    grind

theorem fresh (state : AtLevel next starts level seen (head :: near) far) :
    AtLevel next starts level (head :: seen) near (far ++ next head) where
  near_at thing waiting := state.near_at thing (List.mem_cons_of_mem _ waiting)
  far_at thing waiting := by
    rcases List.mem_append.mp waiting with old | new
    · exact state.far_at thing old
    · exact .step (state.near_at head List.mem_cons_self) new
  passed steps lower thing path := List.mem_cons_of_mem _ (state.passed steps lower thing path)
  reached thing path := by
    have either := state.reached thing path
    grind
  closed source inside target linked := by
    rcases List.mem_cons.mp inside with rfl | old
    · exact .inr (.inr (List.mem_append_right _ linked))
    · have either := state.closed source old target linked
      grind

theorem rise (state : AtLevel next starts level seen [] far) :
    AtLevel next starts (level + 1) seen far [] where
  near_at := state.far_at
  far_at := by simp
  passed steps lower thing path := by
    rcases Nat.lt_succ_iff_lt_or_eq.mp lower with below | rfl
    · exact state.passed steps below thing path
    · simpa using state.reached thing path
  reached thing path := by
    cases path with
    | @step _ source _ before linked =>
        have old : source ∈ seen := by simpa using state.reached source before
        simpa using state.closed source old thing linked
  closed source inside target linked := by
    simpa using state.closed source inside target linked

/-- The head of the queue can be taken for a thing of the level at hand. -/
theorem exists_near {queue : List α} (state : AtLevel next starts level seen near far)
    (split : head :: queue = near ++ far) :
    ∃ level near far, AtLevel next starts level seen (head :: near) far ∧ queue = near ++ far := by
  cases near with
  | nil =>
      rw [List.nil_append] at split
      subst split
      exact ⟨level + 1, queue, [], state.rise, by simp⟩
  | cons first near =>
      rw [List.cons_append, List.cons.injEq] at split
      obtain ⟨rfl, rest⟩ := split
      exact ⟨level, near, far, state, rest⟩

end AtLevel

theorem Visits.ordered {level : Nat} {seen queue found near far : List α}
    (run : Visits next seen queue found) (state : AtLevel next starts level seen near far)
    (split : queue = near ++ far) : found.Pairwise (NoFarther next starts) := by
  induction run generalizing level near far with
  | done => exact .nil
  | known old _ ih =>
      obtain ⟨level, near, far, state, rest⟩ := state.exists_near split
      exact ih (state.known old) rest
  | @fresh seen queue found head _ rest ih =>
      obtain ⟨level, near, far, state, waiting⟩ := state.exists_near split
      refine .cons ?_ (ih state.fresh (by rw [waiting, List.append_assoc]))
      intro later inside steps path
      refine ⟨level, ?_, state.near_at head List.mem_cons_self⟩
      -- Something nearer would have been seen by now, and then it is not found again.
      refine Nat.le_of_not_lt fun lower => rest.not_mem_seen later inside ?_
      exact List.mem_cons_of_mem _ (state.passed steps lower later path)

/-- A search that pays for its queue finds each thing once, its starts first, and nothing before
something nearer. -/
theorem breadthFirst_ordered [DecidableEq α] {dues : List α → Nat} (funded : Funded next dues)
    {bound : Nat} (enough : starts.length + dues [] ≤ bound) :
    Visits next [] starts (breadthFirst next bound starts) ∧
      (breadthFirst next bound starts).Nodup ∧
      starts.eraseDups <+: breadthFirst next bound starts ∧
      (breadthFirst next bound starts).Pairwise (NoFarther next starts) := by
  have run : Visits next [] starts (breadthFirst next bound starts) := visits_visit funded enough
  refine ⟨run, run.nodup, ?_, run.ordered .start (by simp)⟩
  have first := run.starts_first
  rwa [List.filter_eq_self.mpr (by simp)] at first

end Introspection.Search
