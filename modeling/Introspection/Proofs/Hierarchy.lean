import Introspection.Proofs.Fallible
import Introspection.Proofs.Subtyping
import Introspection.Registry.Hierarchy

/-!
# Class chains

The bounded walk that computes a hierarchy succeeds exactly on the chains that
`ClassChain` describes, as long as they are short enough and name no class twice
(`hierarchy_eq_ok_iff`). From that description follows what other walks rely on:
every member is the registered type of its name, the clauses of the type lead to
it, and its own hierarchy is the rest of the chain.
-/

set_option autoImplicit false

namespace Introspection.Registry

/-- A chain of classes from the given one upward: each class is followed by its
superclass, and the last one has none. -/
inductive ClassChain (registry : Registry) : TypeDecl → List TypeDecl → Prop where
  | last {decl : TypeDecl} :
      registry.superclass? decl = .ok none → ClassChain registry decl [decl]
  | link {decl parent : TypeDecl} {chain : List TypeDecl} :
      registry.superclass? decl = .ok (some parent) → ClassChain registry parent chain →
      ClassChain registry decl (decl :: chain)

theorem chainFrom_eq_ok_iff (registry : Registry) (room : Nat) (below : List String)
    (decl : TypeDecl) (chain : List TypeDecl) :
    registry.chainFrom room below decl = .ok chain ↔
      registry.ClassChain decl chain ∧ chain.length ≤ room ∧
        (chain.map TypeDecl.name).Nodup ∧ ∀ member ∈ chain, member.name ∉ below := by
  constructor
  · intro walked
    induction room generalizing below decl chain with
    | zero => cases walked
    | succ room ih =>
        rw [chainFrom] at walked
        by_cases repeated : decl.name ∈ below
        · rw [if_pos repeated] at walked
          cases walked
        · rw [if_neg repeated] at walked
          cases parent : registry.superclass? decl with
          | error error =>
              rw [parent] at walked
              cases walked
          | ok superclass =>
              rw [parent] at walked
              cases superclass with
              | none =>
                  cases walked
                  exact ⟨.last parent, by simp, by simp, by simpa using repeated⟩
              | some superclass =>
                  obtain ⟨rest, ascended, rfl⟩ := Fallible.map_eq_ok_iff.mp walked
                  obtain ⟨linked, short, distinct, apart⟩ := ih _ _ _ ascended
                  refine ⟨.link parent linked, Nat.succ_le_succ short, ?_, ?_⟩
                  · rw [List.map_cons, List.nodup_cons]
                    refine ⟨?_, distinct⟩
                    intro again
                    obtain ⟨member, inside, same⟩ := List.mem_map.mp again
                    exact apart member inside (List.mem_cons.mpr (.inl same))
                  · intro member inside
                    rcases List.mem_cons.mp inside with rfl | later
                    · exact repeated
                    · exact fun known => apart member later (List.mem_cons_of_mem _ known)
  · rintro ⟨linked, short, distinct, apart⟩
    induction linked generalizing room below with
    | @last decl parent =>
        obtain ⟨room, rfl⟩ := Nat.exists_eq_succ_of_ne_zero (Nat.ne_of_gt short)
        rw [chainFrom, if_neg (apart decl List.mem_cons_self), parent]
    | @link decl superclass chain parent _ ih =>
        obtain ⟨room, rfl⟩ := Nat.exists_eq_succ_of_ne_zero
          (Nat.ne_of_gt (Nat.lt_of_lt_of_le (Nat.succ_pos _) short))
        rw [List.map_cons, List.nodup_cons] at distinct
        have walked : registry.chainFrom room (decl.name :: below) superclass = .ok chain := by
          refine ih room (decl.name :: below) (Nat.le_of_succ_le_succ short) distinct.2 ?_
          intro member inside known
          rcases List.mem_cons.mp known with same | old
          · exact distinct.1 (List.mem_map.mpr ⟨member, inside, same⟩)
          · exact apart member (List.mem_cons_of_mem _ inside) old
        rw [chainFrom, if_neg (apart decl List.mem_cons_self), parent]
        simp only [walked, Except.map]

/-- A hierarchy is a class chain from the registered type of the name that is not
too long and names no class twice. -/
theorem hierarchy_eq_ok_iff (registry : Registry) (name : String) (chain : List TypeDecl) :
    registry.hierarchy name = .ok chain ↔
      ∃ decl, registry.lookup? name = some decl ∧ registry.ClassChain decl chain ∧
        chain.length ≤ longestChain ∧ (chain.map TypeDecl.name).Nodup := by
  cases found : registry.lookup? name with
  | none => simp [hierarchy, require, found]
  | some decl => simp [hierarchy, require, found, chainFrom_eq_ok_iff]

theorem superclass?_eq_some_iff (registry : Registry) (decl parent : TypeDecl) :
    registry.superclass? decl = .ok (some parent) ↔
      ∃ clause name, decl.superclass = some clause ∧ clause.rawName? = some name ∧
        registry.lookup? name = some parent := by
  cases clause : decl.superclass with
  | none => simp [superclass?, clause]
  | some type =>
      cases raw : type.rawName? with
      | none => simp [superclass?, clause, TypeExpr.link, raw, follow, Except.map]
      | some name =>
          simp [superclass?, clause, TypeExpr.link, raw, follow, Fallible.map_eq_ok_iff,
            require_eq_ok_iff]

theorem superclass?_eq_none_iff (registry : Registry) (decl : TypeDecl) :
    registry.superclass? decl = .ok none ↔ decl.superclass = none := by
  cases clause : decl.superclass with
  | none => simp [superclass?, clause]
  | some type => simp [superclass?, clause, Fallible.map_eq_ok_iff]

namespace ClassChain

variable {registry : Registry} {decl : TypeDecl} {chain : List TypeDecl}

/-- What is left of a chain from a member on is the chain of that member. -/
theorem of_split (linked : registry.ClassChain decl chain) {front rest : List TypeDecl}
    {member : TypeDecl} (split : chain = front ++ member :: rest) :
    registry.ClassChain member (member :: rest) := by
  induction linked generalizing front with
  | last top =>
      cases front with
      | nil =>
          cases split
          exact .last top
      | cons first front => simp at split
  | link parent above ih =>
      cases front with
      | nil =>
          cases split
          exact .link parent above
      | cons first front => exact ih (List.cons.inj split).2

theorem lookup?_of_mem (linked : registry.ClassChain decl chain)
    (registered : registry.lookup? decl.name = some decl) {member : TypeDecl}
    (inside : member ∈ chain) : registry.lookup? member.name = some member := by
  induction linked with
  | last _ => exact List.mem_singleton.mp inside ▸ registered
  | link parent _ ih =>
      rcases List.mem_cons.mp inside with rfl | later
      · exact registered
      · obtain ⟨_, name, _, _, found⟩ := (superclass?_eq_some_iff _ _ _).mp parent
        exact ih (lookup?_name found) later

theorem descends_of_mem (linked : registry.ClassChain decl chain)
    (registered : registry.lookup? decl.name = some decl) {member : TypeDecl}
    (inside : member ∈ chain) : registry.Descends decl.name member.name := by
  induction linked with
  | last _ => exact List.mem_singleton.mp inside ▸ .refl
  | @link decl superclass chain parent _ ih =>
      rcases List.mem_cons.mp inside with rfl | later
      · exact .refl
      · obtain ⟨clause, name, written, raw, found⟩ := (superclass?_eq_some_iff _ _ _).mp parent
        have named := name_of_lookup? found
        have clauseMember : clause ∈ decl.clauses := by simp [TypeDecl.clauses, written]
        have direct : superclass.name ∈ registry.parentNames decl.name :=
          (mem_parentNames_iff _ _ _).mpr ⟨decl, clause, registered, clauseMember, named ▸ raw⟩
        exact .head direct (ih (named ▸ found) later)

/-- Only the last class of a chain can be the root class. -/
theorem ne_root_of_mem_front (bare : registry.RootIsBare)
    (linked : registry.ClassChain decl chain)
    (registered : registry.lookup? decl.name = some decl) {front rest : List TypeDecl}
    (split : chain = front ++ rest) (continued : rest ≠ []) {member : TypeDecl}
    (inside : member ∈ front) : member.name ≠ rootName := by
  induction linked generalizing front with
  | last _ =>
      cases front with
      | nil => cases inside
      | cons first front => simp_all
  | @link decl superclass chain parent _ ih =>
      obtain ⟨clause, name, written, _, found⟩ := (superclass?_eq_some_iff _ _ _).mp parent
      cases front with
      | nil => cases inside
      | cons first front =>
          rw [List.cons_append, List.cons.injEq] at split
          rcases List.mem_cons.mp inside with same | later
          · intro top
            rw [same, ← split.1] at top
            have none := bare decl (top ▸ registered)
            simp [TypeDecl.clauses, written] at none
          · exact ih (lookup?_name found) split.2 later

end ClassChain

variable {registry : Registry} {name : String} {chain : List TypeDecl}

theorem hierarchy_chain (walked : registry.hierarchy name = .ok chain) :
    ∃ decl, registry.lookup? name = some decl ∧ registry.lookup? decl.name = some decl ∧
      decl.name = name ∧ registry.ClassChain decl chain := by
  obtain ⟨decl, found, linked, _, _⟩ := (hierarchy_eq_ok_iff _ _ _).mp walked
  exact ⟨decl, found, lookup?_name found, name_of_lookup? found, linked⟩

theorem lookup?_of_mem_hierarchy (walked : registry.hierarchy name = .ok chain)
    {member : TypeDecl} (inside : member ∈ chain) :
    registry.lookup? member.name = some member := by
  obtain ⟨decl, _, registered, _, linked⟩ := hierarchy_chain walked
  exact linked.lookup?_of_mem registered inside

theorem descends_of_mem_hierarchy (walked : registry.hierarchy name = .ok chain)
    {member : TypeDecl} (inside : member ∈ chain) : registry.Descends name member.name := by
  obtain ⟨decl, _, registered, rfl, linked⟩ := hierarchy_chain walked
  exact linked.descends_of_mem registered inside

theorem ne_root_of_mem_front (bare : registry.RootIsBare)
    (walked : registry.hierarchy name = .ok chain) {front rest : List TypeDecl}
    (split : chain = front ++ rest) (continued : rest ≠ []) {member : TypeDecl}
    (inside : member ∈ front) : member.name ≠ rootName := by
  obtain ⟨decl, _, registered, _, linked⟩ := hierarchy_chain walked
  exact linked.ne_root_of_mem_front bare registered split continued inside

theorem ne_nil_of_hierarchy (walked : registry.hierarchy name = .ok chain) : chain ≠ [] := by
  obtain ⟨decl, _, _, _, linked⟩ := hierarchy_chain walked
  cases linked <;> simp

/-- The hierarchy of a member of a hierarchy is the part of the chain that starts there. -/
theorem hierarchy_of_append {front rest : List TypeDecl} {member : TypeDecl}
    (walked : registry.hierarchy name = .ok (front ++ member :: rest)) :
    registry.hierarchy member.name = .ok (member :: rest) := by
  obtain ⟨decl, _, linked, short, distinct⟩ := (hierarchy_eq_ok_iff _ _ _).mp walked
  have registered := lookup?_of_mem_hierarchy walked (by simp : member ∈ front ++ member :: rest)
  refine (hierarchy_eq_ok_iff _ _ _).mpr ⟨member, registered, linked.of_split rfl, ?_, ?_⟩
  · rw [List.length_append] at short
    omega
  · rw [List.map_append, List.nodup_append] at distinct
    exact distinct.2.1

theorem hierarchy_suffix (walked : registry.hierarchy name = .ok chain) {member : TypeDecl}
    (inside : member ∈ chain) :
    ∃ front rest, chain = front ++ rest ∧ registry.hierarchy member.name = .ok rest := by
  obtain ⟨front, rest, rfl⟩ := List.append_of_mem inside
  exact ⟨front, member :: rest, rfl, hierarchy_of_append walked⟩

end Introspection.Registry
