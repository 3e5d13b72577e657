import Introspection.Proofs.ClauseTargets
import Introspection.Proofs.Hierarchy

/-!
# How the walk up a class chain ends

`Ascent` is the walk without any limit: the types that have been passed, and the one that has been
reached. It can end at a class without superclass, break at a clause that leads nowhere, or go round
for ever, and a chain may be longer than the limit; `HierarchyVerdict` says for each of these what
the hierarchy of a name is, and `hierarchyVerdict_iff` that it is exactly that. The superclass of a
type is unique, so a walk that meets a type twice goes round: one that ends or breaks never does.
-/

set_option autoImplicit false

namespace Introspection.Registry

def Extends (registry : Registry) (decl parent : TypeDecl) : Prop :=
  ∃ clause, decl.superclass = some clause ∧ registry.LeadsTo clause parent

def BreaksAt (registry : Registry) (decl : TypeDecl) (text : String) : Prop :=
  ∃ clause, decl.superclass = some clause ∧ registry.LeadsNowhere clause text

inductive Ascent (registry : Registry) (name : String) : List TypeDecl → TypeDecl → Prop where
  | start {decl : TypeDecl} : registry.lookup? name = some decl → Ascent registry name [] decl
  | up {below : List TypeDecl} {decl parent : TypeDecl} : Ascent registry name below decl →
      registry.Extends decl parent → Ascent registry name (below ++ [decl]) parent

/-- What the hierarchy of a name is, by the end of the walk up from it. -/
inductive HierarchyVerdict (registry : Registry) (name : String) :
    Except MetadataError (List TypeDecl) → Prop where
  | unregistered : registry.lookup? name = none →
      HierarchyVerdict registry name (.error (.unknownType name))
  /-- The walk ends within 256 types. -/
  | complete {below : List TypeDecl} {last : TypeDecl} : registry.Ascent name below last →
      below.length < 256 → last.superclass = none →
      HierarchyVerdict registry name (.ok (below ++ [last]))
  /-- The walk breaks behind one of the first 256 types. -/
  | broken {below : List TypeDecl} {last : TypeDecl} {text : String} :
      registry.Ascent name below last → below.length < 256 → registry.BreaksAt last text →
      HierarchyVerdict registry name (.error (.unknownType text))
  /-- The walk meets a type again after at most 256 different ones. -/
  | repeated {below : List TypeDecl} {again : TypeDecl} : registry.Ascent name below again →
      (below.map TypeDecl.name).Nodup → below.length ≤ 256 →
      again.name ∈ below.map TypeDecl.name →
      HierarchyVerdict registry name (.error (.circularHierarchy again.name))
  /-- The walk reaches yet another type after 256 different ones. -/
  | tooLong {below : List TypeDecl} {next : TypeDecl} : registry.Ascent name below next →
      (below.map TypeDecl.name).Nodup → below.length = 256 →
      next.name ∉ below.map TypeDecl.name →
      HierarchyVerdict registry name (.error (.circularHierarchy next.name))

variable {registry : Registry} {name : String} {decl parent last : TypeDecl}
  {below chain : List TypeDecl}

/-! ## Links -/

theorem superclass?_of_extends (linked : registry.Extends decl parent) :
    registry.superclass? decl = .ok (some parent) := by
  obtain ⟨clause, written, leads⟩ := linked
  simp only [superclass?, written, follow_of_leadsTo leads, Except.map]

theorem superclass?_of_breaksAt {text : String} (broken : registry.BreaksAt decl text) :
    registry.superclass? decl = .error (.unknownType text) := by
  obtain ⟨clause, written, lost⟩ := broken
  simp only [superclass?, written, follow_of_leadsNowhere lost, Except.map]

theorem superclass_cases (registry : Registry) (decl : TypeDecl) :
    decl.superclass = none ∨ (∃ text, registry.BreaksAt decl text) ∨
      ∃ parent, registry.Extends decl parent := by
  cases written : decl.superclass with
  | none => exact .inl rfl
  | some clause =>
      rcases registry.leads_cases clause with ⟨parent, leads⟩ | ⟨text, lost⟩
      · exact .inr (.inr ⟨parent, clause, written, leads⟩)
      · exact .inr (.inl ⟨text, clause, written, lost⟩)

theorem not_extends_of_breaksAt {text : String} (broken : registry.BreaksAt decl text) :
    ¬ registry.Extends decl parent := by
  intro ⟨clause, written, leads⟩
  obtain ⟨other, writtenToo, lost⟩ := broken
  rw [written, Option.some.injEq] at writtenToo
  exact not_leadsTo_of_leadsNowhere (writtenToo ▸ lost) leads

theorem not_extends_of_none (top : decl.superclass = none) : ¬ registry.Extends decl parent := by
  rintro ⟨clause, written, _⟩
  rw [top] at written
  cases written

theorem Extends.unique {other : TypeDecl} (first : registry.Extends decl parent)
    (second : registry.Extends decl other) : parent = other := by
  obtain ⟨clause, written, leads⟩ := first
  obtain ⟨clauseToo, writtenToo, leadsToo⟩ := second
  rw [written, Option.some.injEq] at writtenToo
  exact leads.unique (writtenToo ▸ leadsToo)

/-- Since superclasses are unique, a walk that starts on a ring stays on it. -/
theorem ring_of_reaches (path : Relation.ReflTransGen registry.Extends decl last)
    (ring : Relation.TransGen registry.Extends decl decl) :
    Relation.TransGen registry.Extends last last := by
  induction path with
  | refl => exact ring
  | tail _ linked ih =>
      obtain ⟨next, first, back⟩ := Relation.TransGen.head'_iff.mp ih
      rw [linked.unique first]
      exact Relation.TransGen.tail' back first

/-! ## The walk -/

namespace Ascent

theorem registered (ascent : registry.Ascent name below decl) :
    ∀ member ∈ below ++ [decl], registry.lookup? member.name = some member := by
  induction ascent with
  | start found => simpa using lookup?_name found
  | up _ linked ih =>
      obtain ⟨_, _, _, _, found⟩ := linked
      intro member inside
      rcases List.mem_append.mp inside with before | reached
      · exact ih member before
      · rw [List.mem_singleton.mp reached]
        exact lookup?_name found

theorem pairwise (ascent : registry.Ascent name below decl) :
    (below ++ [decl]).Pairwise (Relation.TransGen registry.Extends) := by
  induction ascent with
  | start => simp
  | @up below decl parent _ linked ih =>
      rw [List.pairwise_append]
      refine ⟨ih, by simp, ?_⟩
      intro member inside next reached
      rw [List.mem_singleton.mp reached]
      rcases List.mem_append.mp inside with before | here
      · exact ((List.pairwise_append.mp ih).2.2 member before decl (by simp)).tail linked
      · rw [List.mem_singleton.mp here]
        exact .single linked

theorem reaches (ascent : registry.Ascent name below decl) :
    ∀ member ∈ below ++ [decl], Relation.ReflTransGen registry.Extends member decl := by
  intro member inside
  rcases List.mem_append.mp inside with before | here
  · have below := (List.pairwise_append.mp ascent.pairwise).2.2
    exact (below member before decl (by simp)).to_reflTransGen
  · rw [List.mem_singleton.mp here]

/-- A walk that can go no further has met no type twice. -/
theorem nodup_of_ends (ascent : registry.Ascent name below last)
    (ends : ∀ parent, ¬ registry.Extends last parent) :
    ((below ++ [last]).map TypeDecl.name).Nodup := by
  -- From a type on a ring the walk would go on for ever, and with it from the last one.
  have noRing : ∀ member ∈ below ++ [last],
      ¬ Relation.TransGen registry.Extends member member := by
    intro member inside ring
    obtain ⟨parent, linked, _⟩ :=
      Relation.TransGen.head'_iff.mp (ring_of_reaches (ascent.reaches member inside) ring)
    exact ends parent linked
  rw [List.Nodup, List.pairwise_map]
  refine ascent.pairwise.imp_of_mem ?_
  intro first second firstInside secondInside leads sameName
  have found := ascent.registered first firstInside
  rw [sameName, ascent.registered second secondInside, Option.some.injEq] at found
  exact noRing first firstInside (found ▸ leads)

/-- What is left of the hierarchy once the walk has passed distinct types. -/
theorem hierarchy_eq (ascent : registry.Ascent name below decl)
    (distinct : (below.map TypeDecl.name).Nodup) (short : below.length ≤ 256) :
    registry.hierarchy name =
      (registry.chainFrom (256 - below.length) (below.map TypeDecl.name).reverse decl).map
        (below ++ ·) := by
  induction ascent with
  | @start decl found =>
      have walked : registry.hierarchy name = registry.chainFrom longestChain [] decl := by
        simp only [hierarchy, require, found]
      rw [walked]
      show _ = (registry.chainFrom longestChain [] decl).map ([] ++ ·)
      cases registry.chainFrom longestChain [] decl <;> rfl
  | @up below decl parent _ linked ih =>
      rw [List.map_append, List.nodup_append] at distinct
      rw [List.length_append, List.length_singleton] at short
      have fresh : decl.name ∉ (below.map TypeDecl.name).reverse := by
        intro again
        exact distinct.2.2 _ (List.mem_reverse.mp again) _ (by simp) rfl
      have room : 256 - below.length = (256 - (below ++ [decl]).length) + 1 := by
        rw [List.length_append, List.length_singleton]
        omega
      rw [ih distinct.1 (by omega), room, chainFrom, if_neg fresh, superclass?_of_extends linked]
      simp only [List.map_append, List.map_singleton, List.reverse_append, List.reverse_singleton,
        List.singleton_append]
      cases registry.chainFrom (256 - (below ++ [decl]).length)
        (decl.name :: (below.map TypeDecl.name).reverse) parent <;> simp [Except.map]

end Ascent

/-! ## Verdicts -/

theorem exists_verdict (room : Nat) (ascent : registry.Ascent name below decl)
    (distinct : (below.map TypeDecl.name).Nodup) (counted : below.length + room = 256) :
    ∃ outcome, registry.HierarchyVerdict name outcome := by
  -- Induction on the types that are left: without any, the type that is reached ends the walk,
  -- whether it is new or not.
  induction room generalizing below decl with
  | zero =>
      by_cases again : decl.name ∈ below.map TypeDecl.name
      · exact ⟨_, .repeated ascent distinct (by omega) again⟩
      · exact ⟨_, .tooLong ascent distinct (by omega) again⟩
  | succ room ih =>
      by_cases again : decl.name ∈ below.map TypeDecl.name
      · exact ⟨_, .repeated ascent distinct (by omega) again⟩
      rcases registry.superclass_cases decl with top | ⟨text, breaks⟩ | ⟨parent, linked⟩
      · exact ⟨_, .complete ascent (by omega) top⟩
      · exact ⟨_, .broken ascent (by omega) breaks⟩
      · refine ih (ascent.up linked) ?_ (by rw [List.length_append, List.length_singleton]; omega)
        rw [List.map_append, List.nodup_append]
        refine ⟨distinct, by simp, ?_⟩
        rintro _ before _ here rfl
        rw [List.mem_singleton.mp here] at before
        exact again before

theorem exists_hierarchyVerdict (registry : Registry) (name : String) :
    ∃ outcome, registry.HierarchyVerdict name outcome := by
  cases found : registry.lookup? name with
  | none => exact ⟨_, .unregistered found⟩
  | some decl => exact exists_verdict 256 (.start found) (by simp) (by simp)

theorem nodup_below (distinct : ((below ++ [last]).map TypeDecl.name).Nodup) :
    (below.map TypeDecl.name).Nodup ∧ last.name ∉ (below.map TypeDecl.name).reverse := by
  rw [List.map_append, List.nodup_append] at distinct
  exact ⟨distinct.1, fun again => distinct.2.2 _ (List.mem_reverse.mp again) _ (by simp) rfl⟩

theorem HierarchyVerdict.hierarchy_eq {outcome : Except MetadataError (List TypeDecl)}
    (verdict : registry.HierarchyVerdict name outcome) : registry.hierarchy name = outcome := by
  cases verdict with
  | unregistered missing => simp only [hierarchy, require, missing]
  | @complete below last ascent short top =>
      obtain ⟨distinct, fresh⟩ :=
        nodup_below (ascent.nodup_of_ends fun _ => not_extends_of_none top)
      obtain ⟨room, spare⟩ := Nat.exists_eq_succ_of_ne_zero (Nat.sub_ne_zero_of_lt short)
      have ends : registry.superclass? last = .ok none := by simp only [superclass?, top]
      rw [ascent.hierarchy_eq distinct (Nat.le_of_lt short), spare, chainFrom, if_neg fresh, ends]
      rfl
  | @broken below last text ascent short breaks =>
      obtain ⟨distinct, fresh⟩ :=
        nodup_below (ascent.nodup_of_ends fun _ => not_extends_of_breaksAt breaks)
      obtain ⟨room, spare⟩ := Nat.exists_eq_succ_of_ne_zero (Nat.sub_ne_zero_of_lt short)
      rw [ascent.hierarchy_eq distinct (Nat.le_of_lt short), spare, chainFrom, if_neg fresh,
        superclass?_of_breaksAt breaks]
      rfl
  | @repeated below again ascent distinct short seen =>
      rw [ascent.hierarchy_eq distinct short]
      cases 256 - below.length with
      | zero => rfl
      | succ room =>
          rw [chainFrom, if_pos (List.mem_reverse.mpr seen)]
          rfl
  | @tooLong below next ascent distinct full fresh =>
      rw [ascent.hierarchy_eq distinct (Nat.le_of_eq full), full]
      rfl

theorem hierarchy_eq_iff {outcome : Except MetadataError (List TypeDecl)} :
    registry.hierarchy name = outcome ↔ registry.HierarchyVerdict name outcome := by
  constructor
  · rintro rfl
    obtain ⟨outcome, verdict⟩ := registry.exists_hierarchyVerdict name
    rw [verdict.hierarchy_eq]
    exact verdict
  · exact HierarchyVerdict.hierarchy_eq

/-! ## The hierarchy and its verdict -/

/-- The hierarchy of a name is told by how the walk up from it ends: it is the whole chain when that
has at most 256 types, and else an error that names what the walk broke at, or the type that it met
again or met after 256 others. A chain starts at its name, names no class twice and contains the
hierarchies of its members; and no walk that can go no further has met a type twice. -/
theorem hierarchyVerdict_iff (registry : Registry) (name : String) :
    (∀ outcome, registry.hierarchy name = outcome ↔ registry.HierarchyVerdict name outcome) ∧
    (∀ chain, registry.hierarchy name = .ok chain →
      chain.head?.map TypeDecl.name = some name ∧ (chain.map TypeDecl.name).Nodup ∧
        ∀ front member rest, chain = front ++ member :: rest →
          registry.hierarchy member.name = .ok (member :: rest)) ∧
    ∀ below last, registry.Ascent name below last →
      (∀ parent, ¬ registry.Extends last parent) →
        ((below ++ [last]).map TypeDecl.name).Nodup := by
  refine ⟨fun _ => hierarchy_eq_iff, ?_, fun _ _ ascent ends => ascent.nodup_of_ends ends⟩
  intro chain walked
  obtain ⟨decl, found, linked, _, distinct⟩ := (hierarchy_eq_ok_iff _ _ _).mp walked
  refine ⟨?_, distinct, ?_⟩
  · cases linked <;> simp [name_of_lookup? found]
  · rintro front member rest rfl
    exact hierarchy_of_append walked

/-- Two classes that extend each other, one that leads into their ring, and one whose superclass is
not registered. -/
def loops : Registry :=
  [("Tail", "Ring"), ("Ring", "Loop"), ("Loop", "Ring"), ("Stray", "Ghost")].foldl
    (fun registry link => registry.register
      { TypeDecl.ofClass link.1 with superclass := some (.named link.2) }) Registry.builtin

theorem hierarchyVerdict_iff_loops :
    loops.HierarchyVerdict "Tail" (.error (.circularHierarchy "Ring")) ∧
    loops.HierarchyVerdict "Stray" (.error (.unknownType "Ghost")) ∧
    loops.HierarchyVerdict "Ghost" (.error (.unknownType "Ghost")) ∧
    (∃ integer number root, loops.hierarchy "Integer" = .ok [integer, number, root] ∧
      loops.hierarchy number.name = .ok [number, root] ∧ number.name = "Number") ∧
    ∃ number root, loops.Ascent "Number" [number] root ∧
      ([number.name, root.name] : List String).Nodup := by
  have tail := ((hierarchyVerdict_iff loops "Tail").1 (.error (.circularHierarchy "Ring"))).mp rfl
  have stray := ((hierarchyVerdict_iff loops "Stray").1 (.error (.unknownType "Ghost"))).mp rfl
  have ghost := ((hierarchyVerdict_iff loops "Ghost").1 (.error (.unknownType "Ghost"))).mp rfl
  obtain ⟨_, _, members⟩ := (hierarchyVerdict_iff loops "Integer").2.1 _ rfl
  have climbed : loops.Ascent "Number" [_] _ := .up (.start rfl) ⟨_, rfl, _, rfl, rfl⟩
  have distinct := (hierarchyVerdict_iff loops "Number").2.2 _ _ climbed
    fun _ => not_extends_of_none rfl
  exact ⟨tail, stray, ghost, ⟨_, _, _, rfl, members [_] _ _ rfl, rfl⟩, _, _, climbed, distinct⟩

end Introspection.Registry
