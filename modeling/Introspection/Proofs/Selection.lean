import Introspection.Proofs.Assignability
import Introspection.Proofs.Fallible
import Introspection.Selection

/-!
# What is chosen among several accessors

One comparison of two candidates is taken apart once (`GetterStep`, `SetterStep`).
Every choice is one of the candidates. For setters, a candidate that takes
exactly the wanted type decides the choice alone; without one, the wanted type
plays no part.
-/

set_option autoImplicit false

namespace Introspection.Registry

variable {registry : Registry} {property : String} {candidates : List Method}

def Unrelated (registry : Registry) (left right : TypeExpr) : Prop :=
  registry.isAssignable left right = false ∧ registry.isAssignable right left = false

def GettersClash (registry : Registry) (current candidate : Method) : Prop :=
  (registry.erasedReturn candidate = registry.erasedReturn current ∧
      (registry.erasedReturn current).isBoolean = false) ∨
    registry.Unrelated (registry.erasedReturn current) (registry.erasedReturn candidate)

/-- Everything that one comparison of getters can come to. -/
inductive GetterStep (registry : Registry) (property : String) (current candidate : Method) :
    Except MetadataError Method → Prop where
  | isForm : registry.erasedReturn candidate = registry.erasedReturn current →
      (registry.erasedReturn current).isBoolean = true →
      "is".toList.isPrefixOf candidate.name.toList = true →
      GetterStep registry property current candidate (.ok candidate)
  | otherForm : registry.erasedReturn candidate = registry.erasedReturn current →
      (registry.erasedReturn current).isBoolean = true →
      "is".toList.isPrefixOf candidate.name.toList = false →
      GetterStep registry property current candidate (.ok current)
  | wider : registry.erasedReturn candidate ≠ registry.erasedReturn current →
      registry.isAssignable (registry.erasedReturn candidate)
        (registry.erasedReturn current) = true →
      GetterStep registry property current candidate (.ok current)
  | narrower : registry.isAssignable (registry.erasedReturn candidate)
        (registry.erasedReturn current) = false →
      registry.isAssignable (registry.erasedReturn current)
        (registry.erasedReturn candidate) = true →
      GetterStep registry property current candidate (.ok candidate)
  | clash : registry.GettersClash current candidate →
      GetterStep registry property current candidate
        (.error (.ambiguousGetter property current.declaring))

theorem getterStep_betterGetter (registry : Registry) (property : String)
    (current candidate : Method) :
    registry.GetterStep property current candidate
      (registry.betterGetter property current candidate) := by
  unfold betterGetter
  dsimp only
  split
  · next same =>
    cases boolean : (registry.erasedReturn current).isBoolean with
    | false =>
        rw [same, boolean]
        exact .clash (.inl ⟨same, boolean⟩)
    | true =>
        rw [same, boolean]
        cases form : "is".toList.isPrefixOf candidate.name.toList with
        | true => exact .isForm same boolean form
        | false => exact .otherForm same boolean form
  · next different =>
    split
    · next wider => exact .wider different wider
    · next notWider =>
      rw [Bool.not_eq_true] at notWider
      split
      · next narrower => exact .narrower notWider narrower
      · next notNarrower =>
        exact .clash (.inr ⟨Bool.not_eq_true _ ▸ notNarrower, notWider⟩)

inductive SetterStep (registry : Registry) (property : String) (current candidate : Method) :
    Except MetadataError Method → Prop where
  | narrower : registry.isAssignable (registry.erasedParameter current)
        (registry.erasedParameter candidate) = true →
      SetterStep registry property current candidate (.ok candidate)
  | wider : registry.isAssignable (registry.erasedParameter current)
        (registry.erasedParameter candidate) = false →
      registry.isAssignable (registry.erasedParameter candidate)
        (registry.erasedParameter current) = true →
      SetterStep registry property current candidate (.ok current)
  | clash : registry.Unrelated (registry.erasedParameter current)
        (registry.erasedParameter candidate) →
      SetterStep registry property current candidate
        (.error (.ambiguousSetter property candidate.declaring
          (registry.erasedParameter current) (registry.erasedParameter candidate)))

theorem setterStep_betterSetter (registry : Registry) (property : String)
    (current candidate : Method) :
    registry.SetterStep property current candidate
      (registry.betterSetter property current candidate) := by
  unfold betterSetter
  dsimp only
  split
  · next narrower => exact .narrower narrower
  · next notNarrower =>
    rw [Bool.not_eq_true] at notNarrower
    split
    · next wider => exact .wider notNarrower wider
    · next notWider => exact .clash ⟨notNarrower, Bool.not_eq_true _ ▸ notWider⟩

theorem betterGetter_cases {current candidate winner : Method}
    (chosen : registry.betterGetter property current candidate = .ok winner) :
    winner = current ∨ winner = candidate := by
  have step := registry.getterStep_betterGetter property current candidate
  rw [chosen] at step
  cases step <;> simp

theorem betterSetter_cases {current candidate winner : Method}
    (chosen : registry.betterSetter property current candidate = .ok winner) :
    winner = current ∨ winner = candidate := by
  have step := registry.setterStep_betterSetter property current candidate
  rw [chosen] at step
  cases step <;> simp

/-- A fold that keeps one of two candidates at every step ends with one of them all. -/
theorem mem_of_foldlM_choice {better : Method → Method → Except MetadataError Method}
    (either : ∀ current candidate winner, better current candidate = .ok winner →
      winner = current ∨ winner = candidate)
    {first winner : Method} {rest : List Method} (ran : rest.foldlM better first = .ok winner) :
    winner ∈ first :: rest := by
  refine Fallible.foldlM_keeps (· ∈ first :: rest) ran List.mem_cons_self ?_
  intro candidate inside current next known stepped
  rcases either current candidate next stepped with rfl | rfl
  · exact known
  · exact List.mem_cons_of_mem _ inside

theorem mem_of_chooseGetter {winner : Method}
    (chosen : registry.chooseGetter property candidates = .ok (some winner)) :
    winner ∈ candidates := by
  cases candidates with
  | nil => cases chosen
  | cons first rest =>
      obtain ⟨kept, ran, same⟩ := Fallible.map_eq_ok_iff.mp chosen
      cases same
      exact mem_of_foldlM_choice (fun _ _ _ => betterGetter_cases) ran

theorem chooseGetter_eq_none_iff :
    registry.chooseGetter property candidates = .ok none ↔ candidates = [] := by
  cases candidates with
  | nil => simp [chooseGetter]
  | cons first rest => simp [chooseGetter, Fallible.map_eq_ok_iff]

def exactSetter? (registry : Registry) (wanted : TypeExpr) (candidates : List Method) :
    Option Method :=
  candidates.find? fun setter => decide (registry.erasedParameter setter = wanted)

theorem exactSetter?_eq_some {wanted : TypeExpr} {exact : Method}
    (found : registry.exactSetter? wanted candidates = some exact) :
    exact ∈ candidates ∧ registry.erasedParameter exact = wanted := by
  unfold exactSetter? at found
  have fits := List.find?_some found
  exact ⟨List.mem_of_find?_eq_some found, of_decide_eq_true fits⟩

theorem exactSetter?_eq_none_iff {wanted : TypeExpr} :
    registry.exactSetter? wanted candidates = none ↔
      ∀ candidate ∈ candidates, registry.erasedParameter candidate ≠ wanted := by
  simp [exactSetter?, List.find?_eq_none]

theorem find?_wanted (registry : Registry) (wanted : TypeExpr) (candidates : List Method) :
    candidates.find? (fun setter => some wanted == some (registry.erasedParameter setter)) =
      registry.exactSetter? wanted candidates := by
  rw [exactSetter?]
  congr 1
  funext setter
  rw [Bool.eq_iff_iff, beq_iff_eq, Option.some.injEq, decide_eq_true_iff]
  exact eq_comm

theorem chooseSetter_of_exact {wanted : TypeExpr} {exact : Method}
    (found : registry.exactSetter? wanted candidates = some exact) :
    registry.chooseSetter property candidates (some wanted) = .ok (some exact) := by
  unfold chooseSetter
  rw [find?_wanted, found]

theorem find?_unwanted (registry : Registry) (candidates : List Method) :
    candidates.find? (fun setter =>
      (none : Option TypeExpr) == some (registry.erasedParameter setter)) = none := by
  rw [List.find?_eq_none]
  intro setter _
  simp

/-- When no candidate takes exactly the wanted type, the choice is the one made without
a wanted type. -/
theorem chooseSetter_of_no_exact {wanted : TypeExpr}
    (missing : registry.exactSetter? wanted candidates = none) :
    registry.chooseSetter property candidates (some wanted) =
      registry.chooseSetter property candidates none := by
  unfold chooseSetter
  rw [find?_wanted, missing, find?_unwanted]

theorem mem_of_chooseSetter {getterType : Option TypeExpr} {winner : Method}
    (chosen : registry.chooseSetter property candidates getterType = .ok (some winner)) :
    winner ∈ candidates := by
  unfold chooseSetter at chosen
  split at chosen
  · next exact found =>
      cases chosen
      exact List.mem_of_find?_eq_some found
  · cases candidates with
    | nil => cases chosen
    | cons first rest =>
        obtain ⟨kept, ran, same⟩ := Fallible.map_eq_ok_iff.mp chosen
        cases same
        exact mem_of_foldlM_choice (fun _ _ _ => betterSetter_cases) ran

theorem chooseSetter_eq_none_iff {getterType : Option TypeExpr} :
    registry.chooseSetter property candidates getterType = .ok none ↔ candidates = [] := by
  unfold chooseSetter
  split
  · next exact found =>
      have inside := List.mem_of_find?_eq_some found
      constructor
      · intro impossible
        cases impossible
      · rintro rfl
        cases inside
  · cases candidates with
    | nil => simp
    | cons first rest => simp [Fallible.map_eq_ok_iff]

end Introspection.Registry
