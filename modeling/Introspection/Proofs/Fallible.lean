import Mathlib.Data.List.Forall2

/-!
# Computations that may fail

When a chain of fallible steps succeeds, and what its parts then are. Later
proofs take successful computations apart with these laws instead of unfolding
the monad.
-/

set_option autoImplicit false

namespace Introspection.Fallible

variable {ε α β : Type}

theorem bind_eq_ok_iff {computation : Except ε α} {next : α → Except ε β} {result : β} :
    computation >>= next = .ok result ↔
      ∃ value, computation = .ok value ∧ next value = .ok result := by
  cases computation with
  | error error =>
      constructor
      · intro accepted
        cases accepted
      · rintro ⟨value, impossible, _⟩
        cases impossible
  | ok value =>
      constructor
      · intro accepted
        exact ⟨value, rfl, accepted⟩
      · rintro ⟨same, found, accepted⟩
        cases found
        exact accepted

theorem bind_eq_error_iff {computation : Except ε α} {next : α → Except ε β} {error : ε} :
    computation >>= next = .error error ↔
      computation = .error error ∨ ∃ value, computation = .ok value ∧ next value = .error error := by
  cases computation <;> simp [bind, Except.bind]

theorem map_eq_error_iff {computation : Except ε α} {after : α → β} {error : ε} :
    computation.map after = .error error ↔ computation = .error error := by
  cases computation <;> simp [Except.map]

theorem map_bind {γ : Type} (computation : Except ε α) (next : α → Except ε β) (after : β → γ) :
    (computation >>= next).map after = computation >>= fun value => (next value).map after := by
  cases computation <;> rfl

theorem throw_eq_error_iff {raised error : ε} :
    (throw raised : Except ε α) = .error error ↔ error = raised := by
  simp [throw, throwThe, MonadExceptOf.throw, eq_comm]

theorem throw_bind_eq_error_iff {raised error : ε} {next : α → Except ε β} :
    (throw raised : Except ε α) >>= next = .error error ↔ error = raised := by
  simp [bind, Except.bind, throw, throwThe, MonadExceptOf.throw, eq_comm]

theorem map_eq_ok_iff {computation : Except ε α} {after : α → β} {result : β} :
    computation.map after = .ok result ↔
      ∃ value, computation = .ok value ∧ after value = result := by
  cases computation <;> simp [Except.map]

theorem pure_eq_ok_iff {value result : α} :
    (pure value : Except ε α) = .ok result ↔ value = result := by
  simp [pure, Except.pure]

theorem exists_of_isOk {computation : Except ε α} (succeeds : computation.isOk = true) :
    ∃ value, computation = .ok value := by
  cases computation with
  | ok value => exact ⟨value, rfl⟩
  | error _ => cases succeeds

/-- A traversal succeeds exactly when every step does, and collects the results in order. -/
theorem mapM_eq_ok_iff {step : α → Except ε β} {inputs : List α} {outputs : List β} :
    inputs.mapM step = .ok outputs ↔
      List.Forall₂ (fun input output => step input = .ok output) inputs outputs := by
  induction inputs generalizing outputs with
  | nil =>
      rw [List.mapM_nil, pure_eq_ok_iff, List.forall₂_nil_left_iff]
      exact eq_comm
  | cons input inputs ih =>
      rw [List.mapM_cons, bind_eq_ok_iff, List.forall₂_cons_left_iff]
      simp only [bind_eq_ok_iff, pure_eq_ok_iff, ih]
      constructor
      · rintro ⟨first, stepped, rest, related, rfl⟩
        exact ⟨first, rest, stepped, related, rfl⟩
      · rintro ⟨first, rest, stepped, related, rfl⟩
        exact ⟨first, stepped, rest, related, rfl⟩

/-- Traversals by steps that take related inputs to related outputs. -/
theorem forall₂_of_mapM {γ δ : Type} {related : α → γ → Prop} {relatedAfter : β → δ → Prop}
    {step : α → Except ε β} {other : γ → Except ε δ}
    (alike : ∀ input fellow, related input fellow → ∀ output result, step input = .ok output →
      other fellow = .ok result → relatedAfter output result)
    {inputs : List α} {fellows : List γ} (pairwise : List.Forall₂ related inputs fellows)
    {outputs : List β} {results : List δ} (ran : inputs.mapM step = .ok outputs)
    (ranToo : fellows.mapM other = .ok results) : List.Forall₂ relatedAfter outputs results := by
  rw [mapM_eq_ok_iff] at ran ranToo
  induction pairwise generalizing outputs results with
  | nil =>
      cases ran
      cases ranToo
      exact .nil
  | cons first _ ih =>
      cases ran with
      | cons stepped rest =>
          cases ranToo with
          | cons steppedToo restToo =>
              exact .cons (alike _ _ first _ _ stepped steppedToo) (ih rest restToo)

/-- A traversal by steps of which it is known when they succeed and with what results. -/
theorem mapM_eq_ok_iff_of_known {step : α → Except ε β} {succeeds : α → Prop} {result : α → β}
    (known : ∀ input output, step input = .ok output ↔ succeeds input ∧ result input = output)
    {inputs : List α} {outputs : List β} :
    inputs.mapM step = .ok outputs ↔
      (∀ input ∈ inputs, succeeds input) ∧ inputs.map result = outputs := by
  have collected : List.Forall₂ (fun input output => result input = output) inputs outputs ↔
      inputs.map result = outputs := by
    rw [← List.forall₂_map_left_iff (R := (· = ·)), List.forall₂_eq_eq_eq]
  simp only [mapM_eq_ok_iff, known, List.forall₂_and_left, collected]

theorem exists_of_mem_mapM {step : α → Except ε β} {inputs : List α} {outputs : List β}
    (ran : inputs.mapM step = .ok outputs) {output : β} (member : output ∈ outputs) :
    ∃ input ∈ inputs, step input = .ok output := by
  have related := mapM_eq_ok_iff.mp ran
  clear ran
  induction related with
  | nil => cases member
  | cons stepped _ ih =>
      rcases List.mem_cons.mp member with rfl | later
      · exact ⟨_, List.mem_cons_self, stepped⟩
      · obtain ⟨input, inside, found⟩ := ih later
        exact ⟨input, List.mem_cons_of_mem _ inside, found⟩

/-- A traversal fails at one of its steps. -/
theorem exists_of_mapM_eq_error {step : α → Except ε β} {inputs : List α} {error : ε}
    (failed : inputs.mapM step = .error error) : ∃ input ∈ inputs, step input = .error error := by
  induction inputs with
  | nil => cases failed
  | cons input inputs ih =>
      rw [List.mapM_cons, bind_eq_error_iff] at failed
      rcases failed with here | ⟨_, _, later⟩
      · exact ⟨input, List.mem_cons_self, here⟩
      · rcases bind_eq_error_iff.mp later with there | ⟨_, _, impossible⟩
        · obtain ⟨input, inside, stopped⟩ := ih there
          exact ⟨input, List.mem_cons_of_mem _ inside, stopped⟩
        · cases impossible

/-- What every successful step keeps, a successful fold keeps. -/
theorem foldlM_keeps {step : β → α → Except ε β} (invariant : β → Prop) {inputs : List α}
    {start result : β} (ran : inputs.foldlM step start = .ok result) (initial : invariant start)
    (kept : ∀ input ∈ inputs, ∀ state next,
      invariant state → step state input = .ok next → invariant next) :
    invariant result := by
  induction inputs generalizing start with
  | nil =>
      rw [List.foldlM_nil, pure_eq_ok_iff] at ran
      exact ran ▸ initial
  | cons input inputs ih =>
      rw [List.foldlM_cons, bind_eq_ok_iff] at ran
      obtain ⟨middle, stepped, ran⟩ := ran
      exact ih ran (kept input List.mem_cons_self start middle initial stepped)
        fun later inside => kept later (List.mem_cons_of_mem _ inside)

/-- A fold over states that are seen through a view is the fold over the states behind it, when
each step is. -/
theorem foldlM_view {σ τ : Type} (view : σ → τ) {shown : τ → α → Except ε τ}
    {step : σ → α → Except ε σ} {inputs : List α}
    (agree : ∀ input ∈ inputs, ∀ state, shown (view state) input = (step state input).map view)
    (state : σ) : inputs.foldlM shown (view state) = (inputs.foldlM step state).map view := by
  induction inputs generalizing state with
  | nil => rfl
  | cons input inputs ih =>
      rw [List.foldlM_cons, List.foldlM_cons, agree input List.mem_cons_self state]
      cases step state input with
      | error error => rfl
      | ok next => exact ih (fun later inside => agree later (List.mem_cons_of_mem _ inside)) next

/-- What every successful step carries on to one more input, a successful fold carries on to
all of them. -/
theorem foldlM_carries {step : β → α → Except ε β} (invariant : List α → β → Prop)
    {read inputs : List α} {start result : β} (ran : inputs.foldlM step start = .ok result)
    (initial : invariant read start)
    (carried : ∀ front input back state next, read ++ inputs = front ++ input :: back →
      invariant front state → step state input = .ok next → invariant (front ++ [input]) next) :
    invariant (read ++ inputs) result := by
  induction inputs generalizing read start with
  | nil =>
      rw [List.foldlM_nil, pure_eq_ok_iff] at ran
      simpa [← ran] using initial
  | cons input inputs ih =>
      rw [List.foldlM_cons, bind_eq_ok_iff] at ran
      obtain ⟨middle, stepped, ran⟩ := ran
      have first := carried read input inputs start middle rfl initial stepped
      rw [List.append_cons] at carried ⊢
      exact ih ran first carried

/-- A fold that fails does so at some input, in a state that the inputs before it led to. -/
theorem exists_of_foldlM_eq_error {step : β → α → Except ε β} (invariant : List α → β → Prop)
    {read inputs : List α} {start : β} {error : ε}
    (failed : inputs.foldlM step start = .error error) (initial : invariant read start)
    (carried : ∀ front input back state next, read ++ inputs = front ++ input :: back →
      invariant front state → step state input = .ok next → invariant (front ++ [input]) next) :
    ∃ front input back state, read ++ inputs = front ++ input :: back ∧
      invariant front state ∧ step state input = .error error := by
  induction inputs generalizing read start with
  | nil => cases failed
  | cons input inputs ih =>
      rw [List.foldlM_cons, bind_eq_error_iff] at failed
      rcases failed with here | ⟨middle, stepped, failed⟩
      · exact ⟨read, input, inputs, start, rfl, initial, here⟩
      · have first := carried read input inputs start middle rfl initial stepped
        rw [List.append_cons] at carried ⊢
        exact ih failed first carried

end Introspection.Fallible
