import Introspection.Search
import Mathlib.Logic.Relation

/-!
# What a breadth-first search finds

A search finds nothing but what its starts lead to. It finds all of it when its
bound pays for the queue: `dues` counts the links of the things still unseen,
and `Funded` says that seeing a thing frees at least as much as its links add
to the queue.
-/

set_option autoImplicit false

namespace Introspection.Search

variable {α β γ : Type} [DecidableEq α]

def Leads (next : α → List α) (source target : α) : Prop := target ∈ next source

abbrev Reaches (next : α → List α) : α → α → Prop := Relation.ReflTransGen (Leads next)

omit [DecidableEq α] in
/-- Ranks that fall along every link rule out rings. -/
theorem not_transGen_self_of_rank {link : α → α → Prop} (rank : α → Nat)
    (falls : ∀ source target, link source target → rank target < rank source) (start : α) :
    ¬ Relation.TransGen link start start := by
  intro ring
  have lower : ∀ last, Relation.TransGen link start last → rank last < rank start := by
    intro last path
    induction path with
    | single linked => exact falls _ _ linked
    | tail _ linked ih => exact Nat.lt_trans (falls _ _ linked) ih
  exact Nat.lt_irrefl _ (lower start ring)

theorem exists_reaches_of_mem_visit {next : α → List α} {bound : Nat} {seen queue : List α}
    {target : α} (found : target ∈ visit next bound seen queue) :
    ∃ start ∈ queue, Reaches next start target := by
  induction bound generalizing seen queue with
  | zero => cases found
  | succ bound ih =>
      cases queue with
      | nil => cases found
      | cons head queue =>
          by_cases known : head ∈ seen
          · rw [visit, if_pos known] at found
            obtain ⟨start, waiting, path⟩ := ih found
            exact ⟨start, List.mem_cons_of_mem _ waiting, path⟩
          · rw [visit, if_neg known] at found
            rcases List.mem_cons.mp found with rfl | later
            · exact ⟨target, List.mem_cons_self, .refl⟩
            · obtain ⟨start, waiting, path⟩ := ih later
              rcases List.mem_append.mp waiting with old | new
              · exact ⟨start, List.mem_cons_of_mem _ old, path⟩
              · exact ⟨head, List.mem_cons_self, .head new path⟩

/-- Seeing a new thing lowers the dues by at least the number of its links. -/
def Funded (next : α → List α) (dues : List α → Nat) : Prop :=
  ∀ seen head, head ∉ seen → dues (head :: seen) + (next head).length ≤ dues seen

/-- While the bound covers the queue and the dues, nothing in the queue is lost,
and what a found thing leads to was seen before or is found as well. -/
theorem visit_closed {next : α → List α} {dues : List α → Nat} (funded : Funded next dues)
    {bound : Nat} {seen queue : List α} (enough : queue.length + dues seen ≤ bound) :
    (∀ waiting ∈ queue, waiting ∈ seen ∨ waiting ∈ visit next bound seen queue) ∧
      ∀ found ∈ visit next bound seen queue, ∀ target ∈ next found,
        target ∈ seen ∨ target ∈ visit next bound seen queue := by
  induction bound generalizing seen queue with
  | zero =>
      have empty : queue = [] := List.eq_nil_of_length_eq_zero (by omega)
      subst empty
      simp [visit]
  | succ bound ih =>
      cases queue with
      | nil => simp [visit]
      | cons head queue =>
          rw [List.length_cons] at enough
          by_cases known : head ∈ seen
          · have room : queue.length + dues seen ≤ bound := by omega
            obtain ⟨kept, closed⟩ := ih room
            rw [visit, if_pos known]
            refine ⟨?_, closed⟩
            intro waiting member
            rcases List.mem_cons.mp member with rfl | old
            · exact .inl known
            · exact kept waiting old
          · have paid := funded seen head known
            have room : (queue ++ next head).length + dues (head :: seen) ≤ bound := by
              rw [List.length_append]
              omega
            obtain ⟨kept, closed⟩ := ih room
            have settle : ∀ target, target ∈ head :: seen ∨
                target ∈ visit next bound (head :: seen) (queue ++ next head) →
                target ∈ seen ∨
                  target ∈ head :: visit next bound (head :: seen) (queue ++ next head) := by
              rintro target (before | after)
              · rcases List.mem_cons.mp before with rfl | old
                · exact .inr List.mem_cons_self
                · exact .inl old
              · exact .inr (List.mem_cons_of_mem _ after)
            rw [visit, if_neg known]
            constructor
            · intro waiting member
              rcases List.mem_cons.mp member with rfl | old
              · exact .inr List.mem_cons_self
              · exact settle waiting (kept waiting (List.mem_append_left _ old))
            · intro found member target linked
              rcases List.mem_cons.mp member with rfl | later
              · exact settle target (kept target (List.mem_append_right _ linked))
              · exact settle target (closed found later target linked)

/-- With a bound that pays for everything, a search finds exactly what its starts
lead to. -/
theorem mem_breadthFirst_iff {next : α → List α} {dues : List α → Nat}
    (funded : Funded next dues) {bound : Nat} {starts : List α}
    (enough : starts.length + dues [] ≤ bound) (target : α) :
    target ∈ breadthFirst next bound starts ↔ ∃ start ∈ starts, Reaches next start target := by
  constructor
  · exact exists_reaches_of_mem_visit
  · rintro ⟨start, member, path⟩
    obtain ⟨kept, closed⟩ := visit_closed funded enough
    induction path with
    | refl => exact (kept start member).resolve_left List.not_mem_nil
    | tail _ linked ih => exact (closed _ ih _ linked).resolve_left List.not_mem_nil

/-! ## Dues of a list of items -/

/-- What the items whose key has not been seen owe, in number. -/
def openDues (key : β → α) (owed : β → List γ) (items : List β) (seen : List α) : Nat :=
  ((items.filter fun item => decide (key item ∉ seen)).flatMap owed).length

theorem openDues_nil_seen (key : β → α) (owed : β → List γ) (items : List β) :
    openDues key owed items [] = (items.flatMap owed).length := by
  rw [openDues, List.filter_eq_self.mpr]
  intro item _
  exact decide_eq_true List.not_mem_nil

theorem openDues_cons (key : β → α) (owed : β → List γ) (item : β) (items : List β)
    (seen : List α) :
    openDues key owed (item :: items) seen =
      (if key item ∈ seen then 0 else (owed item).length) + openDues key owed items seen := by
  unfold openDues
  by_cases known : key item ∈ seen
  · rw [if_pos known, List.filter_cons_of_neg (by simpa using known), Nat.zero_add]
  · rw [if_neg known, List.filter_cons_of_pos (by simpa using known), List.flatMap_cons,
      List.length_append]

theorem openDues_cons_seen_le (key : β → α) (owed : β → List γ) (items : List β)
    (seen : List α) (head : α) :
    openDues key owed items (head :: seen) ≤ openDues key owed items seen := by
  induction items with
  | nil => simp [openDues]
  | cons item items ih =>
      rw [openDues_cons, openDues_cons]
      by_cases known : key item ∈ seen
      · rw [if_pos known, if_pos (List.mem_cons_of_mem _ known)]
        omega
      · rw [if_neg known]
        split <;> omega

theorem openDues_add_le (key : β → α) (owed : β → List γ) {items : List β} {seen : List α}
    {item : β} (member : item ∈ items) (fresh : key item ∉ seen) :
    openDues key owed items (key item :: seen) + (owed item).length ≤
      openDues key owed items seen := by
  induction items with
  | nil => cases member
  | cons first items ih =>
      rw [openDues_cons, openDues_cons]
      rcases List.mem_cons.mp member with rfl | later
      · have rest := openDues_cons_seen_le key owed items seen (key item)
        rw [if_pos List.mem_cons_self, if_neg fresh]
        omega
      · have rest := ih later
        by_cases known : key first ∈ seen
        · rw [if_pos known, if_pos (List.mem_cons_of_mem _ known)]
          omega
        · rw [if_neg known]
          split <;> omega

/-- Items pay for the links of a thing when some item of that key owes as many. -/
theorem funded_openDues {next : α → List α} (key : β → α) (owed : β → List γ)
    (items : List β)
    (backed : ∀ head, next head = [] ∨
      ∃ item ∈ items, key item = head ∧ (next head).length ≤ (owed item).length) :
    Funded next (openDues key owed items) := by
  intro seen head fresh
  rcases backed head with none | ⟨item, member, rfl, light⟩
  · rw [none, List.length_nil]
    exact openDues_cons_seen_le key owed items seen head
  · have paid := openDues_add_le key owed member fresh
    omega

end Introspection.Search
