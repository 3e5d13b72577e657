import Introspection.Registry.Hierarchy

/-!
# What a supertype clause leads to

A clause leads to the registered type that it names, or nowhere: it names a type that is not
registered, or no class at all. Walks over superclasses and over interfaces follow clauses alike.
-/

set_option autoImplicit false

namespace Introspection.Registry

def LeadsTo (registry : Registry) (clause : TypeExpr) (decl : TypeDecl) : Prop :=
  ∃ name, clause.rawName? = some name ∧ registry.lookup? name = some decl

/-- A clause leads nowhere. The text is the name that it gives or, when it names no class, the
clause itself. -/
inductive LeadsNowhere (registry : Registry) (clause : TypeExpr) : String → Prop where
  | unregistered {name : String} : clause.rawName? = some name → registry.lookup? name = none →
      LeadsNowhere registry clause name
  | nameless : clause.rawName? = none → LeadsNowhere registry clause clause.text

variable {registry : Registry} {clause : TypeExpr} {decl : TypeDecl}

/-- Every clause leads to a type or nowhere. -/
theorem leads_cases (registry : Registry) (clause : TypeExpr) :
    (∃ decl, registry.LeadsTo clause decl) ∨ ∃ text, registry.LeadsNowhere clause text := by
  cases raw : clause.rawName? with
  | none => exact .inr ⟨_, .nameless raw⟩
  | some name =>
      cases found : registry.lookup? name with
      | none => exact .inr ⟨_, .unregistered raw found⟩
      | some decl => exact .inl ⟨decl, name, raw, found⟩

theorem follow_of_leadsTo (leads : registry.LeadsTo clause decl) :
    registry.follow clause.link = .ok decl := by
  obtain ⟨name, raw, found⟩ := leads
  simp only [TypeExpr.link, raw, follow, require, found]

theorem follow_of_leadsNowhere {text : String} (lost : registry.LeadsNowhere clause text) :
    registry.follow clause.link = .error (.unknownType text) := by
  cases lost with
  | unregistered raw missing => simp only [TypeExpr.link, raw, follow, require, missing]
  | nameless raw => simp only [TypeExpr.link, raw, follow]

theorem follow_link_eq_ok_iff :
    registry.follow clause.link = .ok decl ↔ registry.LeadsTo clause decl := by
  constructor
  · intro followed
    rcases registry.leads_cases clause with ⟨other, leads⟩ | ⟨text, lost⟩
    · rw [follow_of_leadsTo leads, Except.ok.injEq] at followed
      exact followed ▸ leads
    · rw [follow_of_leadsNowhere lost] at followed
      cases followed
  · exact follow_of_leadsTo

theorem follow_link_eq_error_iff {error : MetadataError} :
    registry.follow clause.link = .error error ↔
      ∃ text, registry.LeadsNowhere clause text ∧ error = .unknownType text := by
  constructor
  · intro followed
    rcases registry.leads_cases clause with ⟨other, leads⟩ | ⟨text, lost⟩
    · rw [follow_of_leadsTo leads] at followed
      cases followed
    · rw [follow_of_leadsNowhere lost, Except.error.injEq] at followed
      exact ⟨text, lost, followed.symm⟩
  · rintro ⟨text, lost, rfl⟩
    exact follow_of_leadsNowhere lost

theorem LeadsTo.unique {other : TypeDecl} (first : registry.LeadsTo clause decl)
    (second : registry.LeadsTo clause other) : decl = other :=
  Except.ok.inj ((follow_of_leadsTo first).symm.trans (follow_of_leadsTo second))

theorem not_leadsTo_of_leadsNowhere {text : String} (lost : registry.LeadsNowhere clause text) :
    ¬ registry.LeadsTo clause decl := by
  intro leads
  have impossible := follow_of_leadsTo leads
  rw [follow_of_leadsNowhere lost] at impossible
  cases impossible

end Introspection.Registry
