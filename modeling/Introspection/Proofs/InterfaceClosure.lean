import Introspection.Proofs.ClauseTargets
import Introspection.Proofs.Interfaces
import Introspection.Proofs.SearchOrder
import Mathlib.Data.List.Induction
import Mathlib.Data.List.Nodup

/-!
# All interfaces of a type

`Collects` is the collection of interfaces as a queue of clauses that grows while it is worked off,
with no bound on its length. It has one outcome for every type, rings or not, and that is what the
interfaces of the type are (`interfaces_closure`). It fails when a clause on the way leads nowhere;
otherwise the interfaces are those at one or more clauses from the type, and `InterfaceClosure`
tells their order.
-/

set_option autoImplicit false

namespace Introspection.Registry

def Implements (registry : Registry) (decl iface : TypeDecl) : Prop :=
  ∃ clause ∈ decl.interfaces, registry.LeadsTo clause iface

/-- One type is reached from the other over the given number of interface clauses. -/
inductive ImplementsIn (registry : Registry) (decl : TypeDecl) : Nat → TypeDecl → Prop where
  | self : ImplementsIn registry decl 0 decl
  | step {count : Nat} {holder iface : TypeDecl} : ImplementsIn registry decl count holder →
      registry.Implements holder iface → ImplementsIn registry decl (count + 1) iface

/-- The clause is written in the type, or in one that is reached from it. -/
def MeetsClause (registry : Registry) (decl : TypeDecl) (clause : TypeExpr) : Prop :=
  ∃ count holder, registry.ImplementsIn decl count holder ∧ clause ∈ holder.interfaces

/-- The collection of interfaces, from the names collected before and the clauses that wait. -/
inductive Collects (registry : Registry) :
    List String → List TypeExpr → Except MetadataError (List TypeDecl) → Prop where
  | done {seen : List String} : Collects registry seen [] (.ok [])
  | nameless {seen : List String} {clause : TypeExpr} {queue : List TypeExpr} :
      clause.rawName? = none →
      Collects registry seen (clause :: queue) (.error (.unknownType clause.text))
  | known {seen : List String} {clause : TypeExpr} {queue : List TypeExpr} {name : String}
      {outcome : Except MetadataError (List TypeDecl)} :
      clause.rawName? = some name → name ∈ seen → Collects registry seen queue outcome →
      Collects registry seen (clause :: queue) outcome
  | unregistered {seen : List String} {clause : TypeExpr} {queue : List TypeExpr} {name : String} :
      clause.rawName? = some name → name ∉ seen → registry.lookup? name = none →
      Collects registry seen (clause :: queue) (.error (.unknownType name))
  | fresh {seen : List String} {clause : TypeExpr} {queue : List TypeExpr} {name : String}
      {iface : TypeDecl} {outcome : Except MetadataError (List TypeDecl)} :
      clause.rawName? = some name → name ∉ seen → registry.lookup? name = some iface →
      Collects registry (name :: seen) (queue ++ iface.interfaces) outcome →
      Collects registry seen (clause :: queue) (outcome.map (iface :: ·))

/-- What the interfaces of a type are when every clause leads somewhere. Their order goes by the
least number of clauses, at least one: a type on a ring is as far from itself as the way round. -/
structure InterfaceClosure (registry : Registry) (decl : TypeDecl) (found : List TypeDecl) :
    Prop where
  mem_iff : ∀ iface, iface ∈ found ↔ ∃ count, registry.ImplementsIn decl (count + 1) iface
  distinct : (found.map TypeDecl.name).Nodup
  own_first : (decl.interfaces.filterMap TypeExpr.rawName?).eraseDups <+: found.map TypeDecl.name
  ordered : found.Pairwise fun nearer farther =>
    ∀ count, registry.ImplementsIn decl (count + 1) farther →
      ∃ fewer ≤ count, registry.ImplementsIn decl (fewer + 1) nearer

variable {registry : Registry} {decl iface : TypeDecl} {found : List TypeDecl}

/-! ## Links and clauses -/

theorem ImplementsIn.registered {count : Nat}
    (path : registry.ImplementsIn decl (count + 1) iface) :
    registry.lookup? iface.name = some iface := by
  cases path with
  | step _ linked =>
      obtain ⟨_, _, _, _, found⟩ := linked
      exact lookup?_name found

theorem link_of_leadsTo {clause : TypeExpr} (leads : registry.LeadsTo clause iface) :
    clause.link = .toType iface.name := by
  obtain ⟨name, raw, found⟩ := leads
  rw [(link_eq_toType_iff clause name).mpr raw, name_of_lookup? found]

theorem mem_nextInterfaces_iff {link target : Link} :
    target ∈ registry.nextInterfaces link ↔
      ∃ iface, registry.follow link = .ok iface ∧ target ∈ iface.interfaceLinks := by
  cases link with
  | toNothing text => simp [nextInterfaces, follow]
  | toType name =>
      cases found : registry.lookup? name <;> simp [nextInterfaces, follow, require, found]

theorem inSteps_iff {count : Nat} {link : Link} :
    Search.InSteps registry.nextInterfaces decl.interfaceLinks count link ↔
      ∃ holder, registry.ImplementsIn decl count holder ∧ link ∈ holder.interfaceLinks := by
  constructor
  · intro path
    induction path with
    | start own => exact ⟨decl, .self, own⟩
    | step _ linked ih =>
        obtain ⟨holder, reached, written⟩ := ih
        obtain ⟨clause, listed, rfl⟩ := List.mem_map.mp written
        obtain ⟨iface, followed, inside⟩ := mem_nextInterfaces_iff.mp linked
        exact ⟨iface, reached.step ⟨clause, listed, follow_link_eq_ok_iff.mp followed⟩, inside⟩
  · intro ⟨holder, reached, written⟩
    induction reached generalizing link with
    | self => exact .start written
    | step _ linked ih =>
        obtain ⟨clause, listed, leads⟩ := linked
        refine (ih (List.mem_map_of_mem listed)).step ?_
        exact mem_nextInterfaces_iff.mpr ⟨_, follow_of_leadsTo leads, written⟩

theorem inSteps_toType_iff (registered : registry.lookup? iface.name = some iface) {count : Nat} :
    Search.InSteps registry.nextInterfaces decl.interfaceLinks count (.toType iface.name) ↔
      registry.ImplementsIn decl (count + 1) iface := by
  rw [inSteps_iff]
  constructor
  · intro ⟨holder, reached, written⟩
    obtain ⟨clause, listed, raw⟩ := (mem_interfaceLinks_iff _ _).mp written
    exact reached.step ⟨clause, listed, iface.name, raw, registered⟩
  · intro path
    cases path with
    | @step _ holder _ reached linked =>
        obtain ⟨clause, listed, leads⟩ := linked
        exact ⟨holder, reached, link_of_leadsTo leads ▸ List.mem_map_of_mem listed⟩

theorem mem_interfaceLinksFrom_iff_meets {link : Link} :
    link ∈ registry.interfaceLinksFrom decl ↔
      ∃ clause, registry.MeetsClause decl clause ∧ clause.link = link := by
  rw [mem_interfaceLinksFrom_iff, ← Search.exists_inSteps_iff]
  simp only [inSteps_iff]
  constructor
  · intro ⟨count, holder, reached, written⟩
    obtain ⟨clause, listed, same⟩ := List.mem_map.mp written
    exact ⟨clause, ⟨count, holder, reached, listed⟩, same⟩
  · intro ⟨clause, ⟨count, holder, reached, listed⟩, same⟩
    exact ⟨count, holder, reached, same ▸ List.mem_map_of_mem listed⟩

theorem interfaceLinksFrom_ordered (registry : Registry) (decl : TypeDecl) :
    Search.Visits registry.nextInterfaces [] decl.interfaceLinks
        (registry.interfaceLinksFrom decl) ∧
      (registry.interfaceLinksFrom decl).Nodup ∧
      decl.interfaceLinks.eraseDups <+: registry.interfaceLinksFrom decl ∧
      (registry.interfaceLinksFrom decl).Pairwise
        (Search.NoFarther registry.nextInterfaces decl.interfaceLinks) := by
  refine Search.breadthFirst_ordered registry.funded_nextInterfaces (Nat.le_of_eq ?_)
  simp only [Search.openDues_nil_seen, TypeDecl.interfaceLinks, List.length_map, interfaceCount]

/-! ## The collection -/

namespace Collects

/-- A search for links, each of which is then followed, collects the interfaces. -/
theorem of_visits {seen queue links : List Link}
    (run : Search.Visits registry.nextInterfaces seen queue links) {names : List String}
    {clauses : List TypeExpr} (sameSeen : seen = names.map Link.toType)
    (sameQueue : queue = clauses.map TypeExpr.link) :
    registry.Collects names clauses (links.mapM registry.follow) := by
  induction run generalizing names clauses with
  | done =>
      cases List.map_eq_nil_iff.mp sameQueue.symm
      exact .done
  | known old _ ih =>
      obtain ⟨clause, clauses, rfl, rfl, rfl⟩ := List.map_eq_cons_iff.mp sameQueue.symm
      subst sameSeen
      obtain ⟨name, listed, same⟩ := List.mem_map.mp old
      exact .known ((link_eq_toType_iff _ _).mp same.symm) listed (ih rfl rfl)
  | fresh new _ ih =>
      obtain ⟨clause, clauses, rfl, rfl, rfl⟩ := List.map_eq_cons_iff.mp sameQueue.symm
      subst sameSeen
      rw [List.mapM_cons]
      -- A clause that leads nowhere ends both at once, whatever the search finds behind it.
      cases raw : clause.rawName? with
      | none =>
          have lost : registry.follow clause.link = .error (.unknownType clause.text) :=
            follow_of_leadsNowhere (.nameless raw)
          rw [lost]
          exact .nameless raw
      | some name =>
          have link := (link_eq_toType_iff clause name).mpr raw
          have unseen : name ∉ names := fun listed =>
            new (link ▸ List.mem_map_of_mem listed)
          cases found : registry.lookup? name with
          | none =>
              have lost := follow_of_leadsNowhere (.unregistered raw found)
              rw [lost]
              exact .unregistered raw unseen found
          | some iface =>
              have next : registry.nextInterfaces clause.link = iface.interfaceLinks := by
                simp [link, nextInterfaces, found]
              have rest : registry.Collects (name :: names) (clauses ++ iface.interfaces) _ :=
                ih (by simp [link]) (by simp [next, TypeDecl.interfaceLinks])
              have collected := Collects.fresh raw unseen found rest
              rw [follow_of_leadsTo ⟨name, raw, found⟩]
              exact collected

theorem unique {seen : List String} {queue : List TypeExpr}
    {first second : Except MetadataError (List TypeDecl)}
    (one : registry.Collects seen queue first) (other : registry.Collects seen queue second) :
    first = second := by
  induction one generalizing second with
  | done =>
      cases other
      rfl
  | nameless raw => cases other <;> simp_all
  | known raw old _ ih =>
      cases other with
      | known raw' _ rest => exact ih rest
      | _ => simp_all
  | unregistered raw new missing => cases other <;> simp_all
  | fresh raw new found _ ih =>
      cases other with
      | fresh raw' _ found' rest =>
          obtain rfl := Option.some.inj (raw.symm.trans raw')
          obtain rfl := Option.some.inj (found.symm.trans found')
          rw [ih rest]
      | _ => simp_all

end Collects

theorem collects_iff {outcome : Except MetadataError (List TypeDecl)} :
    registry.Collects [] decl.interfaces outcome ↔ registry.interfaces decl = outcome := by
  have collected : registry.Collects [] decl.interfaces (registry.interfaces decl) :=
    .of_visits (registry.interfaceLinksFrom_ordered decl).1 rfl rfl
  constructor
  · exact collected.unique
  · rintro rfl
    exact collected

/-! ## What is collected -/

theorem eraseDups_map {α β : Type} [DecidableEq α] [DecidableEq β] {label : α → β}
    (injective : Function.Injective label) (items : List α) :
    (items.map label).eraseDups = items.eraseDups.map label := by
  induction items using List.reverseRecOn with
  | nil => rfl
  | append_singleton items last ih =>
      have both : (List.map label [last]).removeAll (items.map label) =
          ([last].removeAll items).map label := by
        by_cases old : last ∈ items
        · simpa [List.removeAll, old] using ⟨last, old, rfl⟩
        · simp [List.removeAll, old, injective.eq_iff]
      rw [List.map_append, List.eraseDups_append, ih, both, List.eraseDups_append, List.map_append]
      by_cases old : last ∈ items <;> simp [List.removeAll, old, List.eraseDups_cons]

theorem toType_injective : Function.Injective Link.toType := fun _ _ same => Link.toType.inj same

theorem links_of_interfaces (collected : registry.interfaces decl = .ok found) :
    registry.interfaceLinksFrom decl = (found.map TypeDecl.name).map Link.toType := by
  have followed := Fallible.mapM_eq_ok_iff.mp collected
  generalize registry.interfaceLinksFrom decl = links at followed
  clear collected
  induction followed with
  | nil => rfl
  | cons stepped _ ih =>
      obtain ⟨name, rfl, registered⟩ := (follow_eq_ok_iff _ _ _).mp stepped
      rw [ih, List.map_cons, List.map_cons, name_of_lookup? registered]

theorem link_mem_interfaceLinksFrom (collected : registry.interfaces decl = .ok found)
    (registered : registry.lookup? iface.name = some iface) :
    .toType iface.name ∈ registry.interfaceLinksFrom decl ↔ iface ∈ found := by
  rw [links_of_interfaces collected, List.mem_map_of_injective toType_injective]
  constructor
  · intro listed
    obtain ⟨other, inside, same⟩ := List.mem_map.mp listed
    have found := lookup?_of_mem_interfaces collected inside
    rw [same, registered, Option.some.injEq] at found
    exact found ▸ inside
  · exact List.mem_map_of_mem

/-- Where the interfaces can be collected, every clause on the way leads to one of them. -/
theorem exists_leadsTo_of_meets {clause : TypeExpr}
    (collected : registry.interfaces decl = .ok found)
    (met : registry.MeetsClause decl clause) : ∃ iface ∈ found, registry.LeadsTo clause iface := by
  have inside : clause.link ∈ registry.interfaceLinksFrom decl :=
    mem_interfaceLinksFrom_iff_meets.mpr ⟨clause, met, rfl⟩
  rw [links_of_interfaces collected] at inside
  obtain ⟨name, listed, same⟩ := List.mem_map.mp inside
  obtain ⟨iface, member, rfl⟩ := List.mem_map.mp listed
  exact ⟨iface, member, iface.name, (link_eq_toType_iff _ _).mp same.symm,
    lookup?_of_mem_interfaces collected member⟩

theorem exists_lost_of_error {error : MetadataError}
    (failed : registry.interfaces decl = .error error) :
    ∃ clause text, registry.MeetsClause decl clause ∧ registry.LeadsNowhere clause text ∧
      error = .unknownType text := by
  obtain ⟨link, inside, stopped⟩ := Fallible.exists_of_mapM_eq_error failed
  obtain ⟨clause, met, rfl⟩ := mem_interfaceLinksFrom_iff_meets.mp inside
  obtain ⟨text, lost, same⟩ := follow_link_eq_error_iff.mp stopped
  exact ⟨clause, text, met, lost, same⟩

theorem exists_unknownType_iff :
    (∃ text, registry.interfaces decl = .error (.unknownType text)) ↔
      ∃ clause text, registry.MeetsClause decl clause ∧ registry.LeadsNowhere clause text := by
  constructor
  · intro ⟨_, failed⟩
    obtain ⟨clause, text, met, lost, _⟩ := exists_lost_of_error failed
    exact ⟨clause, text, met, lost⟩
  · intro ⟨clause, text, met, lost⟩
    cases outcome : registry.interfaces decl with
    | ok found =>
        obtain ⟨iface, _, leads⟩ := exists_leadsTo_of_meets outcome met
        exact absurd leads (not_leadsTo_of_leadsNowhere lost)
    | error error =>
        obtain ⟨_, text, _, _, rfl⟩ := exists_lost_of_error outcome
        exact ⟨text, rfl⟩

theorem mem_interfaces_iff (collected : registry.interfaces decl = .ok found) :
    iface ∈ found ↔ ∃ count, registry.ImplementsIn decl (count + 1) iface := by
  have reached : registry.lookup? iface.name = some iface →
      (iface ∈ found ↔ ∃ count, registry.ImplementsIn decl (count + 1) iface) := by
    intro registered
    rw [← link_mem_interfaceLinksFrom collected registered, mem_interfaceLinksFrom_iff,
      ← Search.exists_inSteps_iff]
    simp only [inSteps_toType_iff registered]
  constructor
  · intro inside
    exact (reached (lookup?_of_mem_interfaces collected inside)).mp inside
  · intro ⟨count, path⟩
    exact (reached path.registered).mpr ⟨count, path⟩

theorem interfaceLinks_of_interfaces (collected : registry.interfaces decl = .ok found) :
    decl.interfaceLinks = (decl.interfaces.filterMap TypeExpr.rawName?).map Link.toType := by
  rw [List.map_filterMap]
  refine (List.filterMap_eq_map_iff_forall_eq_some.mpr ?_).symm
  intro clause listed
  obtain ⟨iface, _, name, raw, _⟩ := exists_leadsTo_of_meets collected ⟨0, decl, .self, listed⟩
  simp [raw, (link_eq_toType_iff _ _).mpr raw]

theorem interfaceClosure_of_ok (collected : registry.interfaces decl = .ok found) :
    registry.InterfaceClosure decl found := by
  obtain ⟨_, distinct, first, ordered⟩ := registry.interfaceLinksFrom_ordered decl
  rw [links_of_interfaces collected] at distinct first ordered
  constructor
  · exact fun iface => mem_interfaces_iff collected
  · exact List.Nodup.of_map _ distinct
  · rwa [interfaceLinks_of_interfaces collected, eraseDups_map toType_injective,
      List.prefix_map_iff_of_injective toType_injective] at first
  · rw [List.map_map, List.pairwise_map] at ordered
    refine ordered.imp_of_mem ?_
    intro nearer farther nearInside farInside sorted count path
    have near := lookup?_of_mem_interfaces collected nearInside
    have far := lookup?_of_mem_interfaces collected farInside
    obtain ⟨fewer, lower, shorter⟩ := sorted count ((inSteps_toType_iff far).mpr path)
    exact ⟨fewer, lower, (inSteps_toType_iff near).mp shorter⟩

/-- Collecting the interfaces of a type comes to one end, on rings as well. It fails for a clause on
the way that leads nowhere, and only then; otherwise it finds what lies at one or more clauses from
the type, each interface once, those of the type itself first, and none before a nearer one. -/
theorem interfaces_closure (registry : Registry) (decl : TypeDecl) :
    (∀ outcome, registry.Collects [] decl.interfaces outcome ↔
      registry.interfaces decl = outcome) ∧
    ((∃ text, registry.interfaces decl = .error (.unknownType text)) ↔
      ∃ clause text, registry.MeetsClause decl clause ∧ registry.LeadsNowhere clause text) ∧
    (∀ error, registry.interfaces decl = .error error →
      ∃ clause text, registry.MeetsClause decl clause ∧ registry.LeadsNowhere clause text ∧
        error = .unknownType text) ∧
    ∀ found, registry.interfaces decl = .ok found → registry.InterfaceClosure decl found :=
  ⟨fun _ => collects_iff, exists_unknownType_iff, fun _ => exists_lost_of_error,
    fun _ => interfaceClosure_of_ok⟩

/-- Two ways lead from a class to one interface, which leads back to the first of them; another
class implements an interface with a clause that leads nowhere. -/
def crossings : Registry :=
  [{ TypeDecl.ofInterface "Left" with interfaces := [.named "Top"] },
    { TypeDecl.ofInterface "Right" with interfaces := [.named "Top", .named "Left"] },
    { TypeDecl.ofInterface "Top" with interfaces := [.named "Left"] },
    { TypeDecl.ofInterface "Torn" with interfaces := [.array (.named "Top")] },
    { TypeDecl.ofClass "Both" with interfaces := [.named "Left", .named "Right", .named "Left"] },
    { TypeDecl.ofClass "Stuck" with interfaces := [.named "Left", .named "Torn"] }].foldl
    register Registry.builtin

theorem interfaces_closure_crossings :
    (∃ both found, crossings.lookup? "Both" = some both ∧
      crossings.Collects [] both.interfaces (.ok found) ∧
      found.map TypeDecl.name = ["Left", "Right", "Top"] ∧
      crossings.InterfaceClosure both found) ∧
    (∃ left found, crossings.lookup? "Left" = some left ∧
      found.map TypeDecl.name = ["Top", "Left"] ∧ crossings.InterfaceClosure left found) ∧
    ∃ stuck clause text, crossings.lookup? "Stuck" = some stuck ∧
      crossings.interfaces stuck = .error (.unknownType "Top[]") ∧
      crossings.MeetsClause stuck clause ∧ crossings.LeadsNowhere clause text := by
  have both : ∃ both found, crossings.lookup? "Both" = some both ∧
      crossings.interfaces both = .ok found ∧
      found.map TypeDecl.name = ["Left", "Right", "Top"] := ⟨_, _, rfl, rfl, rfl⟩
  have left : ∃ left found, crossings.lookup? "Left" = some left ∧
      crossings.interfaces left = .ok found ∧ found.map TypeDecl.name = ["Top", "Left"] :=
    ⟨_, _, rfl, rfl, rfl⟩
  have stuck : ∃ stuck, crossings.lookup? "Stuck" = some stuck ∧
      crossings.interfaces stuck = .error (.unknownType "Top[]") := ⟨_, rfl, rfl⟩
  obtain ⟨both, bothFound, bothNamed, bothCollected, bothNames⟩ := both
  obtain ⟨left, leftFound, leftNamed, leftCollected, leftNames⟩ := left
  obtain ⟨stuck, stuckNamed, stuckFailed⟩ := stuck
  obtain ⟨collects, _, _, bothClosure⟩ := interfaces_closure crossings both
  have leftClosure := (interfaces_closure crossings left).2.2.2 leftFound leftCollected
  obtain ⟨clause, text, met, lost⟩ :=
    (interfaces_closure crossings stuck).2.1.mp ⟨_, stuckFailed⟩
  exact ⟨⟨both, bothFound, bothNamed, (collects _).mpr bothCollected, bothNames,
    bothClosure bothFound bothCollected⟩, ⟨left, leftFound, leftNamed, leftNames, leftClosure⟩,
    stuck, clause, text, stuckNamed, stuckFailed, met, lost⟩

end Introspection.Registry
