/-!
# Runs that may not end

A run that may not end is an optional result. `Approximates` ties it to a value: it finds nothing
but that value, and it does find it where some condition holds. The parts of a run that are carried
out are then enough to know the whole.
-/

set_option autoImplicit false

namespace Introspection

/-- The run finds no other value, and ends under the given condition. -/
structure Approximates {α : Type} (ends : Prop) (run : Option α) (value : α) : Prop where
  agrees : ∀ found, run = some found → value = found
  finds : ends → run = some value

namespace Approximates

variable {α β : Type} {ends : Prop} {run : Option α} {value : α}

theorem found (ends : Prop) (value : α) : Approximates ends (some value) value :=
  ⟨fun _ same => Option.some.inj same, fun _ => rfl⟩

theorem weaken {stronger : Prop} (approximates : Approximates ends run value)
    (enough : stronger → ends) : Approximates stronger run value :=
  ⟨approximates.agrees, fun allowed => approximates.finds (enough allowed)⟩

theorem bind {next : α → Option β} {result : β} (first : Approximates ends run value)
    (rest : Approximates ends (next value) result) : Approximates ends (run >>= next) result := by
  constructor
  · intro found ran
    obtain ⟨middle, begun, finished⟩ := Option.bind_eq_some_iff.mp ran
    rw [← first.agrees middle begun] at finished
    exact rest.agrees found finished
  · intro allowed
    rw [first.finds allowed]
    exact rest.finds allowed

theorem map (approximates : Approximates ends run value) (after : α → β) :
    Approximates ends (run.map after) (after value) := by
  constructor
  · intro found ran
    obtain ⟨middle, begun, rfl⟩ := Option.map_eq_some_iff.mp ran
    rw [approximates.agrees middle begun]
  · intro allowed
    rw [approximates.finds allowed, Option.map_some]

theorem mapM {step : α → Option β} {result : α → β} {inputs : List α}
    (steps : ∀ input ∈ inputs, Approximates ends (step input) (result input)) :
    Approximates ends (inputs.mapM step) (inputs.map result) := by
  induction inputs with
  | nil => exact found ends []
  | cons input inputs ih =>
      rw [List.mapM_cons]
      apply (steps input List.mem_cons_self).bind
      apply (ih fun later inside => steps later (List.mem_cons_of_mem _ inside)).bind
      exact found ends _

theorem findSomeM? {step : α → Option (Option β)} {result : α → Option β} {inputs : List α}
    (steps : ∀ input ∈ inputs, Approximates ends (step input) (result input)) :
    Approximates ends (inputs.findSomeM? step) (inputs.findSome? result) := by
  induction inputs with
  | nil => exact found ends none
  | cons input inputs ih =>
      rw [List.findSomeM?_cons, List.findSome?_cons]
      apply (steps input List.mem_cons_self).bind
      cases result input with
      | some taken => exact found ends _
      | none => exact ih fun later inside => steps later (List.mem_cons_of_mem _ inside)

theorem findM? {test : α → Option Bool} {holds : α → Bool} {inputs : List α}
    (tests : ∀ input ∈ inputs, Approximates ends (test input) (holds input)) :
    Approximates ends (inputs.findM? test) (inputs.find? holds) := by
  induction inputs with
  | nil => exact found ends none
  | cons input inputs ih =>
      rw [List.findM?, List.find?_cons]
      apply (tests input List.mem_cons_self).bind
      cases holds input with
      | true => exact found ends _
      | false => exact ih fun later inside => tests later (List.mem_cons_of_mem _ inside)

end Approximates

/-! ## Searches that end -/

theorem exists_mapM_eq_some {α β : Type} {step : α → Option β} {inputs : List α}
    (steps : ∀ input ∈ inputs, ∃ output, step input = some output) :
    ∃ outputs, inputs.mapM step = some outputs := by
  induction inputs with
  | nil => exact ⟨[], rfl⟩
  | cons first rest ih =>
      obtain ⟨output, here⟩ := steps first List.mem_cons_self
      obtain ⟨outputs, later⟩ := ih fun input inside => steps input (List.mem_cons_of_mem _ inside)
      exact ⟨output :: outputs, by simp [here, later]⟩

/-- A traversal that ends has ended at each of its inputs. -/
theorem exists_of_mapM_eq_some {α β : Type} {step : α → Option β} {inputs : List α}
    {outputs : List β} (ran : inputs.mapM step = some outputs) {input : α}
    (inside : input ∈ inputs) : ∃ output, step input = some output := by
  induction inputs generalizing outputs with
  | nil => cases inside
  | cons first rest ih =>
      rw [List.mapM_cons] at ran
      obtain ⟨output, here, ran⟩ := Option.bind_eq_some_iff.mp ran
      obtain ⟨later, there, _⟩ := Option.bind_eq_some_iff.mp ran
      rcases List.mem_cons.mp inside with rfl | behind
      · exact ⟨output, here⟩
      · exact ih there behind

end Introspection
