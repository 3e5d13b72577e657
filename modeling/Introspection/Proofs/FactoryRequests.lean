import Introspection.Factory
import Introspection.Proofs.OrderedMap
import Mathlib.Logic.Function.Basic

/-!
# Requests in steps

A factory is shared by any number of clients, and a request takes several steps, between which
other clients may act and caching may be turned on or off. A build for a cell starts only while
the cell is empty and nobody else builds for it; a build that fails leaves the cell empty. Each
step is one application of an operation of the factory, and a request that nobody interrupts
is `find` (`exists_run_find`). What the steps can do to the factory is said once, by `Effect`.
-/

set_option autoImplicit false

namespace Introspection.Factory

/-! ## The operations and the cells -/

def publish (factory : Factory) (name : String) (issued : IssuedTable) : Factory :=
  { factory with cells := factory.cells.insert name (some issued) }

variable {factory after : Factory} {name : String}

theorem cached?_setCacheEnabled (factory : Factory) (enabled : Bool) (name : String) :
    (factory.setCacheEnabled enabled).cached? name = factory.cached? name := rfl

theorem cached?_reserve (factory : Factory) (name other : String) :
    (factory.reserve name).cached? other = factory.cached? other := by
  unfold cached? reserve
  rw [OrderedMap.get?_insertIfNew]
  cases found : factory.cells.get? other <;> by_cases same : name = other <;> simp [same]

theorem cached?_publish (factory : Factory) (name other : String) (issued : IssuedTable) :
    (factory.publish name issued).cached? other =
      if name = other then some issued else factory.cached? other := by
  unfold cached? publish
  rw [OrderedMap.get?_insert]
  by_cases same : name = other <;> simp [same]

theorem buildNew_eq_ok_iff {issued : IssuedTable} :
    factory.buildNew name = (.ok issued, after) ↔
      ∃ table, factory.builder.build name = .ok table ∧ issued = ⟨factory.builds, table⟩ ∧
        after = { factory with builds := factory.builds + 1 } := by
  unfold buildNew
  cases factory.builder.build name <;> simp [eq_comm]

theorem buildNew_eq_error_iff {error : MetadataError} :
    factory.buildNew name = (.error error, after) ↔
      factory.builder.build name = .error error ∧ after = factory := by
  unfold buildNew
  cases factory.builder.build name <;> simp [eq_comm]

/-- A build keeps nothing. -/
theorem cells_of_buildNew {answer : Except MetadataError IssuedTable}
    (built : factory.buildNew name = (answer, after)) : after.cells = factory.cells := by
  cases answer with
  | ok issued =>
      obtain ⟨_, _, _, rfl⟩ := buildNew_eq_ok_iff.mp built
      rfl
  | error error =>
      obtain ⟨_, rfl⟩ := buildNew_eq_error_iff.mp built
      rfl

theorem cached?_of_buildNew {answer : Except MetadataError IssuedTable}
    (built : factory.buildNew name = (answer, after)) (other : String) :
    after.cached? other = factory.cached? other := by
  rw [cached?, cells_of_buildNew built, cached?]

/-! ## Clients and their steps -/

/-- How far a client has come with its request. -/
inductive Phase where
  | idle
  /-- Caching was on; the cell of the type is looked up next. -/
  | looking (name : String)
  /-- There was no cell to be found. -/
  | missing (name : String)
  /-- The cell of the type is at hand. -/
  | holding (name : String)
  /-- The client runs the build for the cell. -/
  | building (name : String)
  /-- Caching was off; the client builds a table of its own. -/
  | alone (name : String)

structure Shared (Client : Type) where
  factory : Factory
  phase : Client → Phase

inductive Event (Client : Type) where
  | switched (enabled : Bool)
  | advanced (client : Client)
  | published (client : Client) (name : String) (issued : IssuedTable)
  /-- The end of a request, with what it had read of the flag. -/
  | answered (client : Client) (name : String) (caching : Bool)
      (answer : Except MetadataError IssuedTable)

variable {Client : Type}

def Event.client? : Event Client → Option Client
  | switched _ => none
  | advanced client | published client _ _ | answered client _ _ _ => some client

def Shared.initial (builder : TableBuilder) (enabled : Bool) : Shared Client :=
  ⟨(ofBuilder builder).setCacheEnabled enabled, fun _ => .idle⟩

/-- Builds for a cell run one at a time, and only while the cell is empty. -/
def Shared.Exclusive (shared : Shared Client) : Prop :=
  ∀ client name, shared.phase client = .building name →
    shared.factory.cached? name = none ∧
      ∀ other, shared.phase other = .building name → other = client

theorem exclusive_initial (builder : TableBuilder) (enabled : Bool) :
    (Shared.initial builder enabled : Shared Client).Exclusive := by
  intro client name building
  cases building

variable [DecidableEq Client]

def Shared.move (shared : Shared Client) (client : Client) (phase : Phase) (factory : Factory) :
    Shared Client :=
  ⟨factory, Function.update shared.phase client phase⟩

theorem phase_move (shared : Shared Client) (client other : Client) (phase : Phase)
    (factory : Factory) :
    (shared.move client phase factory).phase other =
      if other = client then phase else shared.phase other :=
  Function.update_apply shared.phase client phase other

theorem phase_move_self (shared : Shared Client) (client : Client) (phase : Phase)
    (factory : Factory) : (shared.move client phase factory).phase client = phase :=
  Function.update_self ..

theorem move_move (shared : Shared Client) (client : Client) (first second : Phase)
    (before after : Factory) :
    (shared.move client first before).move client second after =
      shared.move client second after := by
  rw [Shared.move, Shared.move, Shared.move, Function.update_idem]

/-- One step of one client, or a change of the flag. -/
inductive Step : Shared Client → Event Client → Shared Client → Prop where
  | switch (shared : Shared Client) (enabled : Bool) :
      Step shared (.switched enabled)
        { shared with factory := shared.factory.setCacheEnabled enabled }
  | request {shared : Shared Client} (client : Client) (name : String) :
      shared.phase client = .idle →
      Step shared (.advanced client)
        (shared.move client
          (if shared.factory.isCacheEnabled then .looking name else .alone name) shared.factory)
  | lookUp {shared : Shared Client} (client : Client) {name : String} :
      shared.phase client = .looking name →
      Step shared (.advanced client)
        (shared.move client
          (if shared.factory.cells.contains name then .holding name else .missing name)
          shared.factory)
  | reserve {shared : Shared Client} (client : Client) {name : String} :
      shared.phase client = .missing name →
      Step shared (.advanced client)
        (shared.move client (.holding name) (shared.factory.reserve name))
  /-- At most one build for a cell runs at a time, and none once the cell is filled. -/
  | begin {shared : Shared Client} (client : Client) {name : String} :
      shared.phase client = .holding name → shared.factory.cached? name = none →
      (∀ other, shared.phase other ≠ .building name) →
      Step shared (.advanced client) (shared.move client (.building name) shared.factory)
  | publish {shared : Shared Client} (client : Client) {name : String} {issued : IssuedTable}
      {built : Factory} :
      shared.phase client = .building name →
      shared.factory.buildNew name = (.ok issued, built) →
      Step shared (.published client name issued)
        (shared.move client (.holding name) (built.publish name issued))
  | fail {shared : Shared Client} (client : Client) {name : String} {error : MetadataError}
      {built : Factory} :
      shared.phase client = .building name →
      shared.factory.buildNew name = (.error error, built) →
      Step shared (.answered client name true (.error error))
        (shared.move client .idle built)
  | take {shared : Shared Client} (client : Client) {name : String} {issued : IssuedTable} :
      shared.phase client = .holding name → shared.factory.cached? name = some issued →
      Step shared (.answered client name true (.ok issued))
        (shared.move client .idle shared.factory)
  | buildAlone {shared : Shared Client} (client : Client) {name : String}
      {answer : Except MetadataError IssuedTable} {built : Factory} :
      shared.phase client = .alone name → shared.factory.buildNew name = (answer, built) →
      Step shared (.answered client name false answer)
        (shared.move client .idle built)

inductive Run : Shared Client → List (Event Client) → Shared Client → Prop where
  | nil (shared : Shared Client) : Run shared [] shared
  | snoc {start middle last : Shared Client} {events : List (Event Client)}
      {event : Event Client} :
      Run start events middle → Step middle event last → Run start (events ++ [event]) last

variable {start shared next last : Shared Client} {event : Event Client}
  {events more : List (Event Client)}

theorem Run.trans (first : Run start events shared) (second : Run shared more last) :
    Run start (events ++ more) last := by
  induction second with
  | nil =>
      rw [List.append_nil]
      exact first
  | snoc _ step ih =>
      rw [← List.append_assoc]
      exact ih.snoc step

theorem Run.single (step : Step shared event last) : Run shared [event] last :=
  (Run.nil shared).snoc step

/-! ## Exclusion -/

theorem building_of_move {client other : Client} {phase : Phase} {factory : Factory} {name : String}
    (building : (shared.move client phase factory).phase other = .building name) :
    (other = client ∧ phase = .building name) ∨
      (other ≠ client ∧ shared.phase other = .building name) := by
  rw [phase_move] at building
  split at building
  · next same => exact .inl ⟨same, building⟩
  · next elsewhere => exact .inr ⟨elsewhere, building⟩

/-- A client that does not build any more leaves the builds of the others alone, as long as
their cells stay as they are. -/
theorem Shared.Exclusive.leave (exclusive : shared.Exclusive) (client : Client) {phase : Phase}
    (ended : ∀ name, phase ≠ .building name) {factory : Factory}
    (kept : ∀ other name, other ≠ client → shared.phase other = .building name →
      factory.cached? name = shared.factory.cached? name) :
    (shared.move client phase factory).Exclusive := by
  intro first name building
  rcases building_of_move building with ⟨_, again⟩ | ⟨elsewhere, before⟩
  · exact absurd again (ended name)
  · obtain ⟨empty, only⟩ := exclusive first name before
    refine ⟨(kept first name elsewhere before).trans empty, ?_⟩
    intro second also
    rcases building_of_move also with ⟨_, again⟩ | ⟨_, alsoBefore⟩
    · exact absurd again (ended name)
    · exact only second alsoBefore

theorem Shared.Exclusive.begin (exclusive : shared.Exclusive) {client : Client} {name : String}
    (empty : shared.factory.cached? name = none)
    (free : ∀ other, shared.phase other ≠ .building name) :
    (shared.move client (.building name) shared.factory).Exclusive := by
  intro first wanted building
  rcases building_of_move building with ⟨rfl, same⟩ | ⟨_, before⟩
  · cases same
    refine ⟨empty, ?_⟩
    intro second also
    rcases building_of_move also with ⟨here, _⟩ | ⟨_, alsoBefore⟩
    · exact here
    · exact absurd alsoBefore (free second)
  · obtain ⟨stillEmpty, only⟩ := exclusive first wanted before
    refine ⟨stillEmpty, ?_⟩
    intro second also
    rcases building_of_move also with ⟨_, same⟩ | ⟨_, alsoBefore⟩
    · cases same
      exact absurd before (free first)
    · exact only second alsoBefore

theorem Shared.Exclusive.step (exclusive : shared.Exclusive) (step : Step shared event next) :
    next.Exclusive := by
  cases step with
  | switch enabled => exact exclusive
  | request client name idle =>
      apply exclusive.leave
      · intro other
        split <;> simp
      · intros
        rfl
  | lookUp client looking =>
      apply exclusive.leave
      · intro other
        split <;> simp
      · intros
        rfl
  | reserve client missing =>
      apply exclusive.leave
      · simp
      · intros
        exact cached?_reserve _ _ _
  | begin client holding empty free => exact exclusive.begin empty free
  | @publish client name issued built building ran =>
      apply exclusive.leave
      · simp
      · intro other wanted elsewhere busy
        -- Whoever else builds does so for another cell than the one filled here.
        have apart : name ≠ wanted := by
          intro same
          rw [← same] at busy
          exact elsewhere ((exclusive client name building).2 other busy)
        rw [cached?_publish, if_neg apart]
        exact cached?_of_buildNew ran wanted
  | fail client building ran =>
      apply exclusive.leave
      · simp
      · intro _ wanted _ _
        exact cached?_of_buildNew ran wanted
  | take client holding filled =>
      apply exclusive.leave
      · simp
      · intros
        rfl
  | buildAlone client alone ran =>
      apply exclusive.leave
      · simp
      · intro _ wanted _ _
        exact cached?_of_buildNew ran wanted

theorem Run.exclusive (ran : Run start events last) (exclusive : start.Exclusive) :
    last.Exclusive := by
  induction ran with
  | nil => exact exclusive
  | snoc _ step ih => exact ih.step step

/-! ## Effects -/

/-- What a step does to the factory, and what is seen of it. -/
inductive Effect (factory : Factory) : Event Client → Factory → Prop where
  | switched (enabled : Bool) :
      Effect factory (.switched enabled) (factory.setCacheEnabled enabled)
  | advanced (client : Client) : Effect factory (.advanced client) factory
  | reserved (client : Client) (name : String) :
      Effect factory (.advanced client) (factory.reserve name)
  | published {client : Client} {name : String} {table : PropertyTable} :
      factory.cached? name = none → factory.builder.build name = .ok table →
      Effect factory (.published client name ⟨factory.builds, table⟩)
        ({ factory with builds := factory.builds + 1 }.publish name ⟨factory.builds, table⟩)
  | taken {client : Client} {name : String} {issued : IssuedTable} :
      factory.cached? name = some issued →
      Effect factory (.answered client name true (.ok issued)) factory
  | refused {client : Client} {name : String} {caching : Bool} {error : MetadataError} :
      factory.builder.build name = .error error →
      Effect factory (.answered client name caching (.error error)) factory
  | builtAlone {client : Client} {name : String} {table : PropertyTable} :
      factory.builder.build name = .ok table →
      Effect factory (.answered client name false (.ok ⟨factory.builds, table⟩))
        { factory with builds := factory.builds + 1 }

theorem Step.effect (step : Step shared event next) (exclusive : shared.Exclusive) :
    Effect shared.factory event next.factory := by
  cases step with
  | switch enabled => exact .switched enabled
  | request | lookUp | begin => exact .advanced _
  | reserve => exact .reserved _ _
  | @publish client name issued built building ran =>
      obtain ⟨table, made, rfl, rfl⟩ := buildNew_eq_ok_iff.mp ran
      exact .published (exclusive client name building).1 made
  | fail client building ran =>
      obtain ⟨failed, rfl⟩ := buildNew_eq_error_iff.mp ran
      exact .refused failed
  | take client holding filled => exact .taken filled
  | @buildAlone client name answer built alone ran =>
      cases answer with
      | ok issued =>
          obtain ⟨table, made, rfl, rfl⟩ := buildNew_eq_ok_iff.mp ran
          exact .builtAlone made
      | error error =>
          obtain ⟨failed, rfl⟩ := buildNew_eq_error_iff.mp ran
          exact .refused failed

theorem Step.cells_eq_of_answered {client : Client} {name : String} {caching : Bool}
    {answer : Except MetadataError IssuedTable}
    (step : Step shared (.answered client name caching answer) next) :
    next.factory.cells = shared.factory.cells := by
  cases step with
  | fail client building ran => exact cells_of_buildNew ran
  | take client holding filled => rfl
  | buildAlone client alone ran => exact cells_of_buildNew ran

/-- A request that found caching off takes two steps, and neither touches the cells. -/
theorem Step.cells_eq_of_alone (step : Step shared event next) {client : Client} {name : String}
    (acting : event.client? = some client)
    (alone : shared.phase client = .alone name ∨ next.phase client = .alone name) :
    next.factory.cells = shared.factory.cells := by
  cases step with
  | switch enabled => rfl
  | request | lookUp | begin => rfl
  | reserve client missing =>
      cases acting
      rw [missing, phase_move_self] at alone
      simp at alone
  | publish client building ran =>
      cases acting
      rw [building, phase_move_self] at alone
      simp at alone
  | fail client building ran => exact cells_of_buildNew ran
  | take client holding filled => rfl
  | buildAlone _ _ ran => exact cells_of_buildNew ran

/-! ## A request that nobody interrupts -/

theorem reserve_of_contains (present : factory.cells.contains name = true) :
    factory.reserve name = factory := by
  rw [reserve, OrderedMap.insertIfNew, if_pos present]

theorem exists_run_fill {client : Client} {name : String}
    (holding : shared.phase client = .holding name)
    (free : ∀ other, shared.phase other ≠ .building name) :
    ∃ events, Run shared events (shared.move client .idle (shared.factory.fill name).2) ∧
      .answered client name true (shared.factory.fill name).1 ∈ events := by
  unfold fill
  cases filled : shared.factory.cached? name with
  | some issued => exact ⟨_, .single (.take client holding filled), List.mem_singleton_self _⟩
  | none =>
      have begun := Run.single (.begin client holding filled free)
      rcases ran : shared.factory.buildNew name with ⟨error | issued, built⟩
      · have failed := begun.snoc (.fail client (phase_move_self ..) ran)
        rw [move_move] at failed
        exact ⟨_, failed, by simp⟩
      · have published := begun.snoc (.publish client (phase_move_self ..) ran)
        have filledNow : (built.publish name issued).cached? name = some issued := by
          rw [cached?_publish, if_pos rfl]
        have taken := published.snoc (.take client (phase_move_self ..) filledNow)
        rw [move_move, move_move] at taken
        exact ⟨_, taken, by simp⟩

theorem ne_building_move {client : Client} {phase : Phase} {factory : Factory} {name : String}
    (free : ∀ other, shared.phase other ≠ .building name) (quiet : phase ≠ .building name)
    (other : Client) : (shared.move client phase factory).phase other ≠ .building name := by
  intro building
  rcases building_of_move building with ⟨_, same⟩ | ⟨_, before⟩
  · exact quiet same
  · exact free other before

theorem exists_run_looking {client : Client} {name : String}
    (looking : shared.phase client = .looking name)
    (free : ∀ other, shared.phase other ≠ .building name) :
    ∃ events, Run shared events
        (shared.move client .idle ((shared.factory.reserve name).fill name).2) ∧
      .answered client name true ((shared.factory.reserve name).fill name).1 ∈ events := by
  have reserved : ∃ events, Run shared events
      (shared.move client (.holding name) (shared.factory.reserve name)) := by
    have looked := Run.single (.lookUp client looking)
    split at looked
    · next present =>
        rw [reserve_of_contains present]
        exact ⟨_, looked⟩
    · have added := looked.snoc (.reserve client (phase_move_self ..))
      rw [move_move] at added
      exact ⟨_, added⟩
  obtain ⟨before, reserved⟩ := reserved
  obtain ⟨after, filled, answered⟩ :=
    exists_run_fill (phase_move_self ..) (ne_building_move free (by simp))
  rw [move_move] at filled
  exact ⟨before ++ after, reserved.trans filled, List.mem_append_right before answered⟩

/-- A request that nobody interrupts, and nobody else builds for, is answered as `find` says. -/
theorem exists_run_find {client : Client} (name : String) (idle : shared.phase client = .idle)
    (free : ∀ other, shared.phase other ≠ .building name) :
    ∃ events, Run shared events (shared.move client .idle (shared.factory.find name).2) ∧
      .answered client name shared.factory.isCacheEnabled (shared.factory.find name).1 ∈ events := by
  have requested := Run.single (.request client name idle)
  unfold find
  cases caching : shared.factory.isCacheEnabled with
  | true =>
      rw [if_pos caching] at requested
      obtain ⟨events, looked, answered⟩ :=
        exists_run_looking (phase_move_self ..) (ne_building_move free (by simp))
      rw [move_move] at looked
      exact ⟨_, requested.trans looked, List.mem_append_right _ answered⟩
  | false =>
      rw [if_neg (by rw [caching]; simp)] at requested
      rcases ran : shared.factory.buildNew name with ⟨answer, built⟩
      have answered := requested.snoc (.buildAlone client (phase_move_self ..) ran)
      rw [move_move] at answered
      exact ⟨_, answered, by simp⟩

end Introspection.Factory
