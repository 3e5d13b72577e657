import Introspection.Proofs.AssignabilityOrder
import Introspection.Proofs.NarrowestChoice

/-!
# Candidates in another order

Each candidate is compared with the one kept so far alone, so the order of the candidates decides
which are ever compared, and with that whether a choice is made at all: types that clash only with
each other are never compared once a type below both is kept. It never decides what is chosen. A
winner stands below every candidate, which has nothing to do with their order, and where no type
stands above itself two such winners have one type (`choices_agree_of_perm`).
-/

set_option autoImplicit false

namespace Introspection.Registry

variable {registry : Registry} {property : String} {candidates reordered : List Method}
  {winner other : Method}

theorem Narrowest.type_eq {type : Method → TypeExpr} (bare : registry.RootIsBare)
    (acyclic : registry.ClausesAcyclic)
    (erased : ∀ method ∈ candidates, (type method).isErased = true)
    (winnerListed : winner ∈ candidates) (otherListed : other ∈ candidates)
    (narrowest : registry.Narrowest type candidates winner)
    (otherNarrowest : registry.Narrowest type candidates other) : type winner = type other := by
  have antisymmetric := (isAssignable_order bare).2.2 acyclic
  exact antisymmetric _ _ (erased winner winnerListed) (erased other otherListed)
    (otherNarrowest winner winnerListed) (narrowest other otherListed)

theorem Narrowest.perm {type : Method → TypeExpr} (same : candidates.Perm reordered)
    (narrowest : registry.Narrowest type reordered winner) :
    registry.Narrowest type candidates winner :=
  fun method inside => narrowest method (same.mem_iff.mp inside)

/-- A winner that is no `boolean` shares its type with no other candidate, so a candidate of that
type is the winner itself. -/
theorem KeepsGetter.eq_of_type_eq (keeps : registry.KeepsGetter candidates winner)
    (listed : other ∈ candidates)
    (sameType : registry.erasedReturn other = registry.erasedReturn winner)
    (plain : (registry.erasedReturn winner).isBoolean = false) : other = winner := by
  have inside : other ∈ candidates.filter
      (fun candidate => registry.erasedReturn candidate = registry.erasedReturn winner) :=
    List.mem_filter.mpr ⟨listed, decide_eq_true sameType⟩
  rw [keeps.alone plain] at inside
  exact List.mem_singleton.mp inside

section Getters

variable (bare : registry.RootIsBare) (acyclic : registry.ClausesAcyclic)
  (same : candidates.Perm reordered)
  (erased : ∀ candidate ∈ candidates, (registry.erasedReturn candidate).isErased = true)

include bare acyclic same erased

theorem getters_agree_of_perm
    (chosen : registry.chooseGetter property candidates = .ok (some winner))
    (again : registry.chooseGetter property reordered = .ok (some other)) :
    registry.erasedReturn winner = registry.erasedReturn other ∧
      (winner = other ∨ registry.erasedReturn winner = .primitive .boolean) := by
  have erasedAgain : ∀ candidate ∈ reordered, (registry.erasedReturn candidate).isErased = true :=
    fun candidate inside => erased candidate (same.mem_iff.mpr inside)
  have keeps := keepsGetter_of_chooseGetter bare erased chosen
  have keepsAgain := keepsGetter_of_chooseGetter bare erasedAgain again
  have listed : other ∈ candidates := same.mem_iff.mpr keepsAgain.listed
  have sameType : registry.erasedReturn winner = registry.erasedReturn other :=
    keeps.narrowest.type_eq bare acyclic erased keeps.listed listed (keepsAgain.narrowest.perm same)
  refine ⟨sameType, ?_⟩
  cases boolean : (registry.erasedReturn winner).isBoolean with
  | true => exact .inr ((isBoolean_iff _).mp boolean)
  | false => exact .inl (keeps.eq_of_type_eq listed sameType.symm boolean).symm

end Getters

section Setters

variable {getterType : Option TypeExpr}

theorem type_of_exact_candidate {exact : Method} (listed : exact ∈ candidates)
    (fits : getterType = some (registry.erasedParameter exact))
    (chosen : registry.chooseSetter property candidates getterType = .ok (some winner)) :
    getterType = some (registry.erasedParameter winner) := by
  have found : (candidates.find? fun setter =>
      getterType == some (registry.erasedParameter setter)).isSome = true := by
    rw [List.find?_isSome]
    exact ⟨exact, listed, by simpa using fits⟩
  obtain ⟨first, found⟩ := Option.isSome_iff_exists.mp found
  unfold chooseSetter at chosen
  rw [found] at chosen
  cases chosen
  simpa using List.find?_some found

theorem setters_agree_of_perm (bare : registry.RootIsBare) (acyclic : registry.ClausesAcyclic)
    (same : candidates.Perm reordered)
    (erased : ∀ candidate ∈ candidates, (registry.erasedParameter candidate).isErased = true)
    (chosen : registry.chooseSetter property candidates getterType = .ok (some winner))
    (again : registry.chooseSetter property reordered getterType = .ok (some other)) :
    registry.erasedParameter winner = registry.erasedParameter other := by
  -- An exact candidate wins in any order; only without one are the setters compared.
  by_cases exactly : ∃ exact ∈ candidates, getterType = some (registry.erasedParameter exact)
  · obtain ⟨exact, listed, fits⟩ := exactly
    have one := type_of_exact_candidate listed fits chosen
    have two := type_of_exact_candidate (same.mem_iff.mp listed) fits again
    exact Option.some.inj (one.symm.trans two)
  · have inexact : ∀ candidate ∈ candidates,
        getterType ≠ some (registry.erasedParameter candidate) :=
      fun candidate inside fits => exactly ⟨candidate, inside, fits⟩
    have keeps := keepsSetter_of_chooseSetter bare erased inexact chosen
    have keepsAgain := keepsSetter_of_chooseSetter bare
      (fun candidate inside => erased candidate (same.mem_iff.mpr inside))
      (fun candidate inside => inexact candidate (same.mem_iff.mpr inside)) again
    exact keeps.narrowest.type_eq bare acyclic erased keeps.listed
      (same.mem_iff.mpr keepsAgain.listed) (keepsAgain.narrowest.perm same)

end Setters

/-- In both orders there is something to choose, or in neither. -/
theorem chosen_alike_of_perm {choose : List Method → Except MetadataError (Option Method)}
    (missing : ∀ {methods}, choose methods = .ok none ↔ methods = [])
    (same : candidates.Perm reordered) {first second : Option Method}
    (chosen : choose candidates = .ok first) (again : choose reordered = .ok second) :
    (first = none ∧ second = none) ∨
      ∃ winner other, first = some winner ∧ second = some other := by
  have alike : first = none ↔ second = none := by
    calc first = none
      _ ↔ candidates = [] := by rw [← missing, chosen, Except.ok.injEq]
      _ ↔ reordered = [] := by rw [← List.isEmpty_iff, ← List.isEmpty_iff, same.isEmpty_eq]
      _ ↔ second = none := by rw [← missing, again, Except.ok.injEq]
  cases first with
  | none => exact .inl ⟨rfl, alike.mp rfl⟩
  | some winner =>
      cases second with
      | none => cases alike.mpr rfl
      | some other => exact .inr ⟨winner, other, rfl, rfl⟩

/-- Where no type stands above itself, two orders of the candidates that both lead to a choice lead
to accessors of the same type: for getters the same method, unless they are `boolean`. -/
theorem choices_agree_of_perm (bare : registry.RootIsBare) (acyclic : registry.ClausesAcyclic)
    (property : String) (same : candidates.Perm reordered)
    (registered : ∀ candidate ∈ candidates, registry.contains candidate.declaring = true) :
    (∀ first second, registry.chooseGetter property candidates = .ok first →
      registry.chooseGetter property reordered = .ok second →
        first.map registry.erasedReturn = second.map registry.erasedReturn ∧
          (first = second ∨ first.map registry.erasedReturn = some (.primitive .boolean))) ∧
    ∀ getterType first second,
      registry.chooseSetter property candidates getterType = .ok first →
      registry.chooseSetter property reordered getterType = .ok second →
        first.map registry.erasedParameter = second.map registry.erasedParameter := by
  constructor
  · intro first second chosen again
    rcases chosen_alike_of_perm chooseGetter_eq_none_iff same chosen again with
      ⟨rfl, rfl⟩ | ⟨winner, other, rfl, rfl⟩
    · exact ⟨rfl, .inl rfl⟩
    · have erased : ∀ candidate ∈ candidates, (registry.erasedReturn candidate).isErased = true :=
        fun candidate inside => isErased_eraseIn (registered candidate inside) _
      obtain ⟨sameType, agree⟩ := getters_agree_of_perm bare acyclic same erased chosen again
      exact ⟨congrArg some sameType, agree.imp (congrArg some) (congrArg some)⟩
  · intro getterType first second chosen again
    rcases chosen_alike_of_perm chooseSetter_eq_none_iff same chosen again with
      ⟨rfl, rfl⟩ | ⟨winner, other, rfl, rfl⟩
    · rfl
    · have erased : ∀ candidate ∈ candidates,
          (registry.erasedParameter candidate).isErased = true :=
        fun candidate inside => isErased_eraseIn (registered candidate inside) _
      exact congrArg some (setters_agree_of_perm bare acyclic same erased chosen again)

def payments : Registry :=
  ((Registry.builtin.register (TypeDecl.ofInterface "Cash")).register
    (TypeDecl.ofInterface "Card")).register
    { TypeDecl.ofClass "Wallet" with interfaces := [.named "Cash", .named "Card"] }

def paymentGetter (type : String) : Method :=
  { Method.ofHeader "getPayment" [] (.named type) with declaring := "Wallet" }

def paymentSetter (type : String) : Method :=
  { Method.ofHeader "setPayment" [.named type] .void with declaring := "Wallet" }

theorem choices_agree_of_perm_payments :
    payments.RootIsBare ∧ payments.ClausesAcyclic ∧
    ["Wallet", "Cash", "Card"].Perm ["Cash", "Wallet", "Card"] ∧
    (∃ first second,
      payments.chooseGetter "payment" (["Wallet", "Cash", "Card"].map paymentGetter) = .ok first ∧
      payments.chooseGetter "payment" (["Cash", "Wallet", "Card"].map paymentGetter) = .ok second ∧
      first = second) ∧
    ∃ first second,
      payments.chooseSetter "payment" (["Wallet", "Cash", "Card"].map paymentSetter) none =
        .ok first ∧
      payments.chooseSetter "payment" (["Cash", "Wallet", "Card"].map paymentSetter) none =
        .ok second ∧
      first.map payments.erasedParameter = second.map payments.erasedParameter := by
  have bare : payments.RootIsBare := rootIsBare_of_lookup? rfl rfl
  have acyclic : payments.ClausesAcyclic := by
    apply clausesAcyclic_of_rank fun name =>
      if name = rootName then 0
      else if name ∈ ["CharSequence", "Number", "Cash", "Card"] then 1 else 2
    decide
  have swapped : ["Wallet", "Cash", "Card"].Perm ["Cash", "Wallet", "Card"] := .swap _ _ _
  have getters := (choices_agree_of_perm bare acyclic "payment" (swapped.map paymentGetter)
    (by decide)).1 _ _ rfl rfl
  have setters := (choices_agree_of_perm bare acyclic "payment" (swapped.map paymentSetter)
    (by decide)).2 none _ _ rfl rfl
  have plain : some (payments.erasedReturn (paymentGetter "Wallet")) ≠
      some (.primitive .boolean) := by decide
  exact ⟨bare, acyclic, swapped, ⟨_, _, rfl, rfl, getters.2.resolve_right plain⟩,
    ⟨_, _, rfl, rfl, setters⟩⟩

/-- In a third order the two interfaces meet first, and there is no choice. -/
example : payments.chooseGetter "payment" (["Cash", "Card", "Wallet"].map paymentGetter) =
    .error (.ambiguousGetter "payment" "Wallet") := rfl

end Introspection.Registry
