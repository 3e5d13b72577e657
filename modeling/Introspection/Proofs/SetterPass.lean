import Introspection.Proofs.Erasure
import Introspection.Proofs.NarrowestChoice

/-!
# One pass over the setters

Setters are read from left to right. One that takes exactly the type of the getter ends the pass;
the others are compared one by one, and once two of them clash only an exact one can still be
chosen. `Scanned` says what is known after any number of candidates. The pass erases the parameters
it looks at, so a ring among the bounds of a declaring type can leave it without an end; where it
ends, `setterVerdict_chooseSetter` says what the outcome means.
-/

set_option autoImplicit false

namespace Introspection.Registry

variable {registry : Registry} {property : String} {candidates read : List Method}
  {current candidate kept : Method}

section Scan

variable {getterType : Option TypeExpr} {setter : Method}

theorem approximates_erasedParameter (registry : Registry) (method : Method) :
    Approximates registry.BoundsAcyclic (registry.erasedParameter? method)
      (registry.erasedParameter method) :=
  registry.approximates_eraseIn _ _

theorem approximates_betterSetter (registry : Registry) (property : String)
    (current candidate : Method) :
    Approximates registry.BoundsAcyclic (registry.betterSetter? property current candidate)
      (registry.betterSetter property current candidate) := by
  apply (registry.approximates_erasedParameter current).bind
  apply (registry.approximates_erasedParameter candidate).bind
  unfold betterSetter
  dsimp only
  split
  · exact .found _ _
  · split <;> exact .found _ _

def ParametersErase (registry : Registry) (read : List Method) : Prop :=
  ∀ method ∈ read, registry.erasedParameter? method = some (registry.erasedParameter method)

/-- What is known after a part of the candidates has been read and none of them fits. A lone
candidate has been compared with nothing, so its parameter may have no erasure. -/
inductive Scanned (registry : Registry) (property : String) :
    List Method → Except MetadataError (Option Method) → Prop where
  | nothing : Scanned registry property [] (.ok none)
  | kept {read : List Method} {kept : Method} : registry.KeepsSetter read kept →
      (read = [kept] ∨ registry.ParametersErase read) →
      Scanned registry property read (.ok (some kept))
  | clash {read : List Method} {current candidate : Method} {first second : TypeExpr} :
      [current, candidate].Sublist read → registry.erasedParameter? current = some first →
      registry.erasedParameter? candidate = some second → registry.Unrelated first second →
      Scanned registry property read
        (.error (.ambiguousSetter property candidate.declaring first second))

theorem erases_of_betterSetter? {compared : Except MetadataError Method}
    (ran : registry.betterSetter? property current candidate = some compared) :
    registry.erasedParameter? current = some (registry.erasedParameter current) ∧
      registry.erasedParameter? candidate = some (registry.erasedParameter candidate) := by
  obtain ⟨first, erased, ran⟩ := Option.bind_eq_some_iff.mp ran
  obtain ⟨second, erasedToo, _⟩ := Option.bind_eq_some_iff.mp ran
  rw [(registry.approximates_erasedParameter current).agrees first erased,
    (registry.approximates_erasedParameter candidate).agrees second erasedToo]
  exact ⟨erased, erasedToo⟩

/-- One more setter that does not fit. -/
theorem Scanned.snoc (bare : registry.RootIsBare)
    (registered : ∀ method ∈ read, registry.contains method.declaring = true)
    {outcome next : Except MetadataError (Option Method)}
    (scanned : registry.Scanned property read outcome)
    (extended : registry.extendChoice? property outcome candidate = some next) :
    registry.Scanned property (read ++ [candidate]) next := by
  cases scanned with
  | nothing =>
      obtain rfl := Option.some.inj extended
      exact .kept (registry.keepsSetter_singleton candidate) (.inl rfl)
  | @kept _ current keeps known =>
      obtain ⟨compared, ran, rfl⟩ := Option.map_eq_some_iff.mp extended
      obtain ⟨erases, erasesToo⟩ := erases_of_betterSetter? ran
      obtain rfl := (registry.approximates_betterSetter property current candidate).agrees _ ran
      have all : registry.ParametersErase (read ++ [candidate]) := by
        intro method inside
        rcases List.mem_append.mp inside with before | last
        · rcases known with rfl | known
          · exact List.mem_singleton.mp before ▸ erases
          · exact known method before
        · exact List.mem_singleton.mp last ▸ erasesToo
      cases better : registry.betterSetter property current candidate with
      | ok winner =>
          exact .kept (keeps.snoc bare
            (fun method inside => isErased_eraseIn (registered method inside) _) better) (.inr all)
      | error error =>
          have step := registry.setterStep_betterSetter property current candidate
          rw [better] at step
          cases step with
          | clash unrelated =>
              exact .clash ((List.singleton_sublist.mpr keeps.listed).append
                (List.Sublist.refl [candidate])) erases erasesToo unrelated
  | clash listed erases erasesToo unrelated =>
      obtain rfl := Option.some.inj extended
      exact .clash (listed.trans (List.sublist_append_left _ _)) erases erasesToo unrelated

end Scan

end Introspection.Registry
