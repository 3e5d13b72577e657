import Introspection.Proofs.FactoryRequests
import Introspection.Proofs.Fallible
import Mathlib.Data.List.Nodup
import Mathlib.Data.List.Pairwise

/-!
# What a factory answers over time

Every history of a factory, whatever its clients do and in whatever order, keeps the cells in
step with what was published (`Recorded`): a filled cell holds the one table published for its
type, and every other table handed out came from a build of its own. What clients can rely on
follows (`coherent_of_run`).
-/

set_option autoImplicit false

namespace Introspection.Factory

/-! ## Filled cells -/

def cachedNames (factory : Factory) : List String :=
  (factory.cells.entries.filter fun entry => entry.2.isSome).map Prod.fst

theorem length_cachedNames (factory : Factory) :
    factory.cachedNames.length = factory.cachedCount := by
  unfold cachedNames cachedCount OrderedMap.values
  rw [List.length_map, List.filter_map, List.length_map]
  rfl

theorem nodup_cachedNames (factory : Factory) : factory.cachedNames.Nodup := by
  apply List.Nodup.sublist _ factory.cells.distinct
  exact List.filter_sublist.map Prod.fst

theorem mem_cachedNames_iff (factory : Factory) (name : String) :
    name ∈ factory.cachedNames ↔ ∃ issued, factory.cached? name = some issued := by
  unfold cachedNames cached?
  simp only [List.mem_map, List.mem_filter, Option.join_eq_some_iff, OrderedMap.get?_eq_some_iff]
  constructor
  · rintro ⟨⟨present, cell⟩, ⟨inside, filled⟩, rfl⟩
    obtain ⟨issued, rfl⟩ := Option.isSome_iff_exists.mp filled
    exact ⟨issued, inside⟩
  · rintro ⟨issued, inside⟩
    exact ⟨(name, some issued), ⟨inside, rfl⟩, rfl⟩

/-! ## Histories -/

namespace Event

variable {Client : Type}

def issued? : Event Client → Option IssuedTable
  | published _ _ issued => some issued
  | answered _ _ _ (.ok issued) => some issued
  | _ => none

def publishedName? : Event Client → Option String
  | published _ name _ => some name
  | _ => none

def isOwn : Event Client → Bool
  | answered _ _ caching _ => !caching
  | _ => false

/-- Where one of the two ends a request that had found caching off, their tables come from
different builds. -/
def Apart (first second : Event Client) : Prop :=
  first.isOwn = true ∨ second.isOwn = true → ∀ one other, first.issued? = some one →
    second.issued? = some other → one.serial ≠ other.serial

theorem Apart.symm {first second : Event Client} (apart : Apart first second) :
    Apart second first := by
  intro own one other issued otherIssued same
  exact apart own.symm other one otherIssued issued same.symm

instance : Std.Symm (Apart : Event Client → Event Client → Prop) := ⟨fun _ _ => Apart.symm⟩

end Event

variable {Client : Type}

def publishedNames (events : List (Event Client)) : List String :=
  events.filterMap Event.publishedName?

theorem publishedNames_append (events more : List (Event Client)) :
    publishedNames (events ++ more) = publishedNames events ++ publishedNames more :=
  List.filterMap_append

theorem mem_publishedNames_iff (events : List (Event Client)) (name : String) :
    name ∈ publishedNames events ↔ ∃ client issued, .published client name issued ∈ events := by
  unfold publishedNames
  rw [List.mem_filterMap]
  constructor
  · rintro ⟨event, inside, named⟩
    cases event <;> cases named
    exact ⟨_, _, inside⟩
  · rintro ⟨client, issued, inside⟩
    exact ⟨_, inside, rfl⟩

/-- What a factory still shows of an event. -/
def Event.Accounted (builder : TableBuilder) (factory : Factory) : Event Client → Prop
  | .switched _ | .advanced _ => True
  | .published _ name issued | .answered _ name true (.ok issued) =>
      builder.build name = .ok issued.table ∧ issued.serial < factory.builds ∧
        factory.cached? name = some issued
  | .answered _ name false (.ok issued) =>
      builder.build name = .ok issued.table ∧ issued.serial < factory.builds
  | .answered _ name _ (.error error) => builder.build name = .error error

/-- The cells are those that were published, and every event is accounted for. -/
structure Recorded (builder : TableBuilder) (events : List (Event Client)) (factory : Factory) :
    Prop where
  builder_eq : factory.builder = builder
  filled : ∀ name issued, factory.cached? name = some issued →
    ∃ client, .published client name issued ∈ events
  accounted : ∀ event ∈ events, event.Accounted builder factory
  apart : events.Pairwise Event.Apart
  once : (publishedNames events).Nodup

theorem recorded_nil (builder : TableBuilder) (enabled : Bool) :
    Recorded builder ([] : List (Event Client)) ((ofBuilder builder).setCacheEnabled enabled) where
  builder_eq := rfl
  filled := by
    intro name issued found
    cases found
  accounted := by simp
  apart := .nil
  once := List.nodup_nil

namespace Event.Accounted

variable {builder : TableBuilder} {factory after : Factory} {event : Event Client}

theorem mono (accounted : event.Accounted builder factory)
    (kept : ∀ name issued, factory.cached? name = some issued → after.cached? name = some issued)
    (grown : factory.builds ≤ after.builds) : event.Accounted builder after := by
  cases event with
  | switched | advanced => trivial
  | published client name issued =>
      obtain ⟨built, old, cell⟩ := accounted
      exact ⟨built, Nat.lt_of_lt_of_le old grown, kept name issued cell⟩
  | answered client name caching answer =>
      cases answer with
      | error error => cases caching <;> exact accounted
      | ok issued =>
          cases caching with
          | true =>
              obtain ⟨built, old, cell⟩ := accounted
              exact ⟨built, Nat.lt_of_lt_of_le old grown, kept name issued cell⟩
          | false =>
              obtain ⟨built, old⟩ := accounted
              exact ⟨built, Nat.lt_of_lt_of_le old grown⟩

theorem answer_eq {client : Client} {name : String} {caching : Bool}
    {answer : Except MetadataError IssuedTable}
    (accounted : (Event.answered client name caching answer).Accounted builder factory) :
    answer.map IssuedTable.table = builder.build name := by
  cases answer with
  | error error => cases caching <;> exact accounted.symm
  | ok issued => cases caching <;> exact accounted.1.symm

theorem serial_lt (accounted : event.Accounted builder factory) {issued : IssuedTable}
    (handed : event.issued? = some issued) : issued.serial < factory.builds := by
  cases event with
  | switched | advanced => cases handed
  | published =>
      cases handed
      exact accounted.2.1
  | answered client name caching answer =>
      cases answer with
      | error error => cases handed
      | ok given =>
          cases handed
          cases caching with
          | true => exact accounted.2.1
          | false => exact accounted.2

end Event.Accounted

/-! ## Effects on the cells -/

namespace Effect

variable {factory after : Factory} {event : Event Client}

theorem builder_eq (effect : Effect factory event after) : after.builder = factory.builder := by
  cases effect <;> rfl

theorem builds_le (effect : Effect factory event after) : factory.builds ≤ after.builds := by
  cases effect with
  | published | builtAlone => exact Nat.le_succ _
  | _ => exact Nat.le_refl _

/-- Cells are filled by publishing and in no other way, and never again. -/
theorem cached?_iff (effect : Effect factory event after) (name : String) (issued : IssuedTable) :
    after.cached? name = some issued ↔
      factory.cached? name = some issued ∨ ∃ client, event = .published client name issued := by
  cases effect with
  | @published client target table empty built =>
      rw [cached?_publish]
      by_cases same : target = name
      · rw [if_pos same, ← same, empty]
        simp
      · simp [same, cached?]
  | reserved client target => simp [cached?_reserve]
  | switched enabled => simp [cached?_setCacheEnabled]
  | advanced | taken | refused => simp
  | builtAlone => simp [cached?]

end Effect

namespace Recorded

variable {builder : TableBuilder} {events : List (Event Client)} {factory after : Factory}
  {event : Event Client}

/-- A table with a new number is apart from all that came before. -/
theorem apart_of_fresh (recorded : Recorded builder events factory)
    (fresh : ∀ issued, event.issued? = some issued → issued.serial = factory.builds) :
    ∀ earlier ∈ events, Event.Apart earlier event := by
  intro earlier inside _ one other first second same
  have old := (recorded.accounted earlier inside).serial_lt first
  rw [same, fresh other second] at old
  exact Nat.lt_irrefl _ old

/-- The table in a cell was published, so it is apart from what any request built alone. -/
theorem apart_of_cached (recorded : Recorded builder events factory) {client : Client}
    {name : String} {issued : IssuedTable} (cell : factory.cached? name = some issued) :
    ∀ earlier ∈ events, Event.Apart earlier (.answered client name true (.ok issued)) := by
  intro earlier inside own one other first second
  cases second
  -- The event that filled the cell carries the same table and is in the history as well.
  obtain ⟨publisher, listed⟩ := recorded.filled name issued cell
  have alone : earlier.isOwn = true := by
    rcases own with own | own
    · exact own
    · cases own
  have different : earlier ≠ .published publisher name issued := by
    intro same
    rw [same] at alone
    cases alone
  have apart := recorded.apart.forall inside listed different
  exact apart (.inl alone) one issued first rfl

theorem apart_of_effect (recorded : Recorded builder events factory)
    (effect : Effect factory event after) : ∀ earlier ∈ events, Event.Apart earlier event := by
  cases effect with
  | taken cell => exact recorded.apart_of_cached cell
  | switched | advanced | reserved | refused =>
      apply recorded.apart_of_fresh
      intro issued handed
      cases handed
  | published | builtAlone =>
      apply recorded.apart_of_fresh
      intro issued handed
      cases handed
      rfl

theorem accounted_of_effect (recorded : Recorded builder events factory)
    (effect : Effect factory event after) : event.Accounted builder after := by
  have same := recorded.builder_eq
  cases effect with
  | switched | advanced | reserved => trivial
  | published empty built =>
      refine ⟨same ▸ built, Nat.lt_succ_self _, ?_⟩
      rw [cached?_publish, if_pos rfl]
  | @taken client name issued cell =>
      obtain ⟨publisher, listed⟩ := recorded.filled name issued cell
      exact recorded.accounted (.published publisher name issued) listed
  | @refused client name caching error failed => cases caching <;> exact same ▸ failed
  | builtAlone built => exact ⟨same ▸ built, Nat.lt_succ_self _⟩

theorem mem_publishedNames_iff (recorded : Recorded builder events factory) (name : String) :
    name ∈ publishedNames events ↔ ∃ issued, factory.cached? name = some issued := by
  rw [Factory.mem_publishedNames_iff]
  constructor
  · rintro ⟨client, issued, listed⟩
    exact ⟨issued, (recorded.accounted _ listed).2.2⟩
  · rintro ⟨issued, cell⟩
    obtain ⟨client, listed⟩ := recorded.filled name issued cell
    exact ⟨client, issued, listed⟩

theorem once_of_effect (recorded : Recorded builder events factory)
    (effect : Effect factory event after) : (publishedNames (events ++ [event])).Nodup := by
  rw [publishedNames_append]
  cases effect with
  | @published client name table empty built =>
      have new : name ∉ publishedNames events := by
        intro listed
        obtain ⟨issued, cell⟩ := (recorded.mem_publishedNames_iff name).mp listed
        rw [empty] at cell
        cases cell
      exact List.nodup_append_comm.mp (List.nodup_cons.mpr ⟨new, recorded.once⟩)
  | _ =>
      show (publishedNames events ++ []).Nodup
      rw [List.append_nil]
      exact recorded.once

theorem snoc (recorded : Recorded builder events factory)
    (effect : Effect factory event after) : Recorded builder (events ++ [event]) after where
  builder_eq := effect.builder_eq.trans recorded.builder_eq
  filled := by
    intro name issued cell
    rcases (effect.cached?_iff name issued).mp cell with before | ⟨client, rfl⟩
    · obtain ⟨client, listed⟩ := recorded.filled name issued before
      exact ⟨client, List.mem_append_left _ listed⟩
    · exact ⟨client, List.mem_append_right _ (List.mem_singleton_self _)⟩
  accounted := by
    intro earlier listed
    rcases List.mem_append.mp listed with before | now
    · apply (recorded.accounted earlier before).mono _ effect.builds_le
      intro name issued cell
      exact (effect.cached?_iff name issued).mpr (.inl cell)
    · rw [List.mem_singleton.mp now]
      exact recorded.accounted_of_effect effect
  apart := by
    rw [List.pairwise_append]
    refine ⟨recorded.apart, List.pairwise_singleton _ _, ?_⟩
    intro earlier before last now
    rw [List.mem_singleton.mp now]
    exact recorded.apart_of_effect effect earlier before
  once := recorded.once_of_effect effect

/-- The types with a filled cell are those that a table was published for. -/
theorem cachedCount_eq (recorded : Recorded builder events factory) :
    factory.cachedCount = (publishedNames events).length := by
  rw [← length_cachedNames]
  apply List.Perm.length_eq
  rw [List.perm_ext_iff_of_nodup factory.nodup_cachedNames recorded.once]
  intro name
  rw [mem_cachedNames_iff, recorded.mem_publishedNames_iff]

end Recorded

/-! ## All histories -/

section Histories

variable [DecidableEq Client] {builder : TableBuilder} {enabled : Bool}
  {events more : List (Event Client)} {shared last : Shared Client}

theorem recorded_of_run (ran : Run (.initial builder enabled) events last) :
    Recorded builder events last.factory := by
  induction ran with
  | nil => exact recorded_nil builder enabled
  | snoc before step ih =>
      exact ih.snoc (step.effect (before.exclusive (exclusive_initial builder enabled)))

theorem cachedCount_le_of_run (ran : Run (.initial builder enabled) events shared)
    (later : Run shared more last) : shared.factory.cachedCount ≤ last.factory.cachedCount := by
  rw [(recorded_of_run ran).cachedCount_eq, (recorded_of_run (ran.trans later)).cachedCount_eq,
    publishedNames_append, List.length_append]
  exact Nat.le_add_right _ _

/-- What clients can rely on after the given events. -/
structure Coherent (builder : TableBuilder) (events : List (Event Client))
    (shared : Shared Client) : Prop where
  /-- Every answer is that of a direct build. -/
  direct : ∀ client name caching answer, .answered client name caching answer ∈ events →
    answer.map IssuedTable.table = builder.build name
  /-- Requests that found caching on are all given the one table of the type. -/
  identical : ∀ first second name one other, .answered first name true (.ok one) ∈ events →
    .answered second name true (.ok other) ∈ events → one = other
  /-- A request that found caching off is given a table that no other request is given. -/
  apart : events.Pairwise Event.Apart
  aloneKeepsCells : ∀ event next client name, Step shared event next →
    event.client? = some client →
    shared.phase client = .alone name ∨ next.phase client = .alone name →
    next.factory.cells = shared.factory.cells
  failureKeepsCells : ∀ client name caching error next,
    Step shared (.answered client name caching (.error error)) next →
    next.factory.cells = shared.factory.cells
  publishedDirect : ∀ client name issued, .published client name issued ∈ events →
    builder.build name = .ok issued.table
  publishedOnce : (publishedNames events).Nodup
  counted : shared.factory.cachedCount = (publishedNames events).length
  countGrows : ∀ more later, Run shared more later →
    shared.factory.cachedCount ≤ later.factory.cachedCount
  /-- The steps of a request in one go are `find`. -/
  uninterrupted : ∀ client name, shared.phase client = .idle →
    (∀ other, shared.phase other ≠ .building name) →
    ∃ more, Run shared more (shared.move client .idle (shared.factory.find name).2) ∧
      .answered client name shared.factory.isCacheEnabled (shared.factory.find name).1 ∈ more

/-- Whatever its clients do, and in whatever order their steps come, a factory is coherent. -/
theorem coherent_of_run (ran : Run (.initial builder enabled) events last) :
    Coherent builder events last := by
  have recorded := recorded_of_run ran
  exact {
    direct := by
      intro client name caching answer listed
      exact (recorded.accounted _ listed).answer_eq
    identical := by
      intro first second name one other firstListed secondListed
      obtain ⟨_, _, held⟩ := recorded.accounted _ firstListed
      obtain ⟨_, _, again⟩ := recorded.accounted _ secondListed
      exact Option.some.inj (held.symm.trans again)
    apart := recorded.apart
    aloneKeepsCells := by
      intro event next client name step acting alone
      exact step.cells_eq_of_alone acting alone
    failureKeepsCells := by
      intro client name caching error next step
      exact step.cells_eq_of_answered
    publishedDirect := by
      intro client name issued listed
      exact (recorded.accounted _ listed).1
    publishedOnce := recorded.once
    counted := recorded.cachedCount_eq
    countGrows := by
      intro more later extended
      exact cachedCount_le_of_run ran extended
    uninterrupted := by
      intro client name idle free
      exact exists_run_find name idle free }

end Histories

def orders : TableBuilder :=
  .ofRegistry (Registry.builtin.register
    ((TypeDecl.ofClass "Order").addField ⟨"total", .primitive .double, .publicOnly, none, ""⟩))

/-- Two clients meet at one empty cell, and caching goes off while one of them builds for it. The
other then builds alone, and a type that is not registered leaves an empty cell behind. -/
def meeting (table : PropertyTable) : List (Event Bool) :=
  [.advanced true, .advanced false, .advanced true, .advanced false, .advanced true,
    .advanced false, .advanced false, .switched false, .published false "Order" ⟨0, table⟩,
    .answered true "Order" true (.ok ⟨0, table⟩), .answered false "Order" true (.ok ⟨0, table⟩),
    .advanced true, .answered true "Order" false (.ok ⟨1, table⟩), .switched true,
    .advanced false, .advanced false, .advanced false, .advanced false,
    .answered false "Nowhere" true (.error (.unknownType "Nowhere"))]

theorem exists_run_meeting {table : PropertyTable} (made : orders.build "Order" = .ok table) :
    ∃ last, Run (.initial orders true) (meeting table) last := by
  have run := Run.nil (.initial orders true : Shared Bool)
  have asked := (run.snoc (.request true "Order" rfl)).snoc (.request false "Order" rfl)
  have missed := (asked.snoc (.lookUp true rfl)).snoc (.lookUp false rfl)
  have reserved := (missed.snoc (.reserve true rfl)).snoc (.reserve false rfl)
  have begun := reserved.snoc (.begin false rfl rfl (by
    intro other building
    cases other <;> cases building.symm.trans (rfl : _ = Phase.holding "Order")))
  have published := (begun.snoc (.switch _ false)).snoc
    (.publish false rfl (buildNew_eq_ok_iff.mpr ⟨table, made, rfl, rfl⟩))
  have taken := (published.snoc (.take true rfl rfl)).snoc (.take false rfl rfl)
  have alone := (taken.snoc (.request true "Order" rfl)).snoc
    (.buildAlone true rfl (buildNew_eq_ok_iff.mpr ⟨table, made, rfl, rfl⟩))
  have again := ((alone.snoc (.switch _ true)).snoc (.request false "Nowhere" rfl)).snoc
    (.lookUp false rfl)
  have empty := (again.snoc (.reserve false rfl)).snoc (.begin false rfl rfl (by
    intro other building
    cases other with
    | true => cases building.symm.trans (rfl : _ = Phase.idle)
    | false => cases building.symm.trans (rfl : _ = Phase.holding "Nowhere")))
  exact ⟨_, empty.snoc (.fail false rfl (buildNew_eq_error_iff.mpr ⟨rfl, rfl⟩))⟩

theorem coherent_of_run_meeting :
    ∃ table last, orders.build "Order" = .ok table ∧
      Run (.initial orders true) (meeting table) last ∧
      Coherent orders (meeting table) last ∧ last.factory.cachedCount = 1 := by
  have succeeds : (orders.build "Order").isOk = true := by decide
  obtain ⟨table, made⟩ := Fallible.exists_of_isOk succeeds
  obtain ⟨last, ran⟩ := exists_run_meeting made
  have coherent := coherent_of_run ran
  exact ⟨table, last, made, ran, coherent, coherent.counted⟩

end Introspection.Factory
