import Introspection.Proofs.Selection

/-!
# The narrowest accessor is chosen

Candidates are read from left to right, and each is compared with the one kept so far alone.
`KeepsGetter` and `KeepsSetter` say what is known of the kept one after any number of them: its
type is the narrowest of all that have been read, not only of those it was compared with. So a
getter that is chosen is the best of all candidates, and a choice that is refused is refused for two
candidates that really clash (`getterVerdict_chooseGetter`).
-/

set_option autoImplicit false

namespace Introspection.Registry

variable {registry : Registry} {property : String} {candidates read : List Method}
  {current candidate kept : Method}

/-- All the types that have been read can hold what the kept one has. -/
def Narrowest (registry : Registry) (type : Method → TypeExpr) (read : List Method)
    (kept : Method) : Prop :=
  ∀ method ∈ read, registry.isAssignable (type method) (type kept) = true

theorem narrowest_singleton (registry : Registry) (type : Method → TypeExpr) (method : Method) :
    registry.Narrowest type [method] method := by
  intro only inside
  rw [List.mem_singleton.mp inside]
  exact isAssignable_refl registry _

theorem Narrowest.snoc {type : Method → TypeExpr} (bare : registry.RootIsBare)
    (erased : ∀ method ∈ read, (type method).isErased = true)
    (narrowest : registry.Narrowest type read current)
    (below : registry.isAssignable (type current) (type kept) = true)
    (candidateBelow : registry.isAssignable (type candidate) (type kept) = true) :
    registry.Narrowest type (read ++ [candidate]) kept := by
  intro method inside
  rcases List.mem_append.mp inside with before | last
  · exact isAssignable_trans bare (erased method before) (narrowest method before) below
  · rw [List.mem_singleton.mp last]
    exact candidateBelow

theorem eq_primitive_of_isAssignable {source : TypeExpr} {kind : Primitive}
    (assignable : registry.isAssignable source (.primitive kind) = true) :
    source = .primitive kind := by
  cases (isAssignable_iff _ _).mp assignable with
  | same => rfl
  | subtype _ raw => cases raw

theorem isBoolean_iff (type : TypeExpr) : type.isBoolean = true ↔ type = .primitive .boolean := by
  cases type with
  | primitive kind => cases kind <;> simp [TypeExpr.isBoolean]
  | _ => simp [TypeExpr.isBoolean]

/-- Only `boolean` itself can hold a `boolean`. -/
theorem eq_of_isAssignable_isBoolean {source target : TypeExpr}
    (boolean : target.isBoolean = true)
    (assignable : registry.isAssignable source target = true) : source = target := by
  rw [(isBoolean_iff target).mp boolean] at assignable ⊢
  exact eq_primitive_of_isAssignable assignable

/-- What is known of the getter that is kept once some candidates have been read. -/
structure KeepsGetter (registry : Registry) (read : List Method) (kept : Method) : Prop where
  listed : kept ∈ read
  narrowest : registry.Narrowest registry.erasedReturn read kept
  alone : (registry.erasedReturn kept).isBoolean = false →
    read.filter (fun candidate => registry.erasedReturn candidate = registry.erasedReturn kept) =
      [kept]
  isForm : (registry.erasedReturn kept).isBoolean = true →
    (∃ candidate ∈ read, "is".toList.isPrefixOf candidate.name.toList = true) →
      "is".toList.isPrefixOf kept.name.toList = true

theorem keepsGetter_singleton (registry : Registry) (method : Method) :
    registry.KeepsGetter [method] method where
  listed := List.mem_singleton_self method
  narrowest := registry.narrowest_singleton _ method
  alone _ := by simp
  isForm _ := by simp

/-- One more candidate: the comparison with the kept getter alone settles it for all. -/
theorem KeepsGetter.snoc (bare : registry.RootIsBare)
    (erased : ∀ method ∈ read, (registry.erasedReturn method).isErased = true)
    (keeps : registry.KeepsGetter read current)
    (compared : registry.betterGetter property current candidate = .ok kept) :
    registry.KeepsGetter (read ++ [candidate]) kept := by
  have step := registry.getterStep_betterGetter property current candidate
  rw [compared] at step
  have refl := registry.isAssignable_refl
  cases step with
  | isForm same boolean form =>
      refine ⟨by simp, keeps.narrowest.snoc bare erased ?_ (refl _), ?_, fun _ _ => form⟩
      · rw [same]
        exact refl _
      · intro other
        rw [same, boolean] at other
        cases other
  | otherForm same boolean form =>
      refine ⟨by simp [keeps.listed], keeps.narrowest.snoc bare erased (refl _) ?_, ?_, ?_⟩
      · rw [same]
        exact refl _
      · intro other
        rw [boolean] at other
        cases other
      · rintro _ ⟨method, inside, named⟩
        rcases List.mem_append.mp inside with before | last
        · exact keeps.isForm boolean ⟨method, before, named⟩
        · rw [List.mem_singleton.mp last, form] at named
          cases named
  | wider different wider =>
      refine ⟨by simp [keeps.listed], keeps.narrowest.snoc bare erased (refl _) wider, ?_, ?_⟩
      · intro other
        rw [List.filter_append, keeps.alone other]
        simp [different]
      · intro boolean
        exact absurd (eq_of_isAssignable_isBoolean boolean wider) different
  | narrower notWider narrower =>
      refine ⟨by simp, keeps.narrowest.snoc bare erased narrower (refl _), ?_, ?_⟩
      · intro _
        -- A type read before that equals the new one would hold the kept one, which is narrower.
        have fresh : ∀ method ∈ read,
            registry.erasedReturn method ≠ registry.erasedReturn candidate := by
          intro method before same
          have holds := keeps.narrowest method before
          rw [same, notWider] at holds
          cases holds
        rw [List.filter_append, List.filter_eq_nil_iff.mpr (by simpa using fresh)]
        simp
      · intro boolean
        rw [eq_of_isAssignable_isBoolean boolean narrower, refl] at notWider
        cases notWider

structure KeepsSetter (registry : Registry) (read : List Method) (kept : Method) : Prop where
  narrowest : registry.Narrowest registry.erasedParameter read kept
  last : ∃ before after, read = before ++ kept :: after ∧
    ∀ later ∈ after, registry.erasedParameter later ≠ registry.erasedParameter kept

theorem KeepsSetter.listed (keeps : registry.KeepsSetter read kept) : kept ∈ read := by
  obtain ⟨before, after, split, _⟩ := keeps.last
  simp [split]

theorem keepsSetter_singleton (registry : Registry) (method : Method) :
    registry.KeepsSetter [method] method where
  narrowest := registry.narrowest_singleton _ method
  last := ⟨[], [], rfl, by simp⟩

theorem KeepsSetter.snoc (bare : registry.RootIsBare)
    (erased : ∀ method ∈ read, (registry.erasedParameter method).isErased = true)
    (keeps : registry.KeepsSetter read current)
    (compared : registry.betterSetter property current candidate = .ok kept) :
    registry.KeepsSetter (read ++ [candidate]) kept := by
  have step := registry.setterStep_betterSetter property current candidate
  rw [compared] at step
  have refl := registry.isAssignable_refl
  cases step with
  | narrower narrower =>
      exact ⟨keeps.narrowest.snoc bare erased narrower (refl _), read, [], rfl, by simp⟩
  | wider notNarrower wider =>
      obtain ⟨before, after, split, later⟩ := keeps.last
      refine ⟨keeps.narrowest.snoc bare erased (refl _) wider, before, after ++ [candidate],
        by simp [split], ?_⟩
      intro method inside same
      rcases List.mem_append.mp inside with earlier | added
      · exact later method earlier same
      · rw [List.mem_singleton.mp added] at same
        rw [same, refl] at notNarrower
        cases notNarrower

theorem sublist_of_split {front back : List Method} (split : candidates = front ++ candidate :: back)
    (listed : current ∈ front) : [current, candidate].Sublist candidates := by
  rw [split]
  exact (List.singleton_sublist.mpr listed).append (List.cons_sublist_cons.mpr back.nil_sublist)

section Folds

variable {first : Method} {rest : List Method} {error : MetadataError}

/-- What one comparison carries on holds after all candidates have been read. -/
theorem keeps_of_foldlM {better : Method → Method → Except MetadataError Method}
    {type : Method → TypeExpr} {keeps : List Method → Method → Prop}
    (singleton : ∀ method, keeps [method] method)
    (snoc : ∀ read current candidate kept, (∀ method ∈ read, (type method).isErased = true) →
      keeps read current → better current candidate = .ok kept →
        keeps (read ++ [candidate]) kept)
    (erased : ∀ method ∈ first :: rest, (type method).isErased = true)
    (ran : rest.foldlM better first = .ok kept) : keeps (first :: rest) kept := by
  refine Fallible.foldlM_carries keeps ran (singleton first) ?_
  intro front candidate back current next split known compared
  refine snoc front current candidate next ?_ known compared
  intro method inside
  apply erased method
  rw [← List.singleton_append, split]
  exact List.mem_append_left _ inside

/-- A fold that keeps one of two candidates at every step fails for two of them all. -/
theorem exists_of_foldlM_choice {better : Method → Method → Except MetadataError Method}
    (either : ∀ current candidate winner, better current candidate = .ok winner →
      winner = current ∨ winner = candidate)
    (failed : rest.foldlM better first = .error error) :
    ∃ current candidate, [current, candidate].Sublist (first :: rest) ∧
      better current candidate = .error error := by
  obtain ⟨front, candidate, back, current, split, listed, refused⟩ :=
    Fallible.exists_of_foldlM_eq_error (fun read kept => kept ∈ read) failed
      (List.mem_singleton_self first) (by
        intro front input _ state next _ listed compared
        rcases either state input next compared with rfl | rfl <;> simp [listed])
  exact ⟨current, candidate, sublist_of_split split listed, refused⟩

end Folds

theorem isErased_eraseIn {name : String} (registered : registry.contains name = true)
    (type : TypeExpr) : (registry.eraseIn name type).isErased = true := by
  obtain ⟨decl, found⟩ := Option.isSome_iff_exists.mp registered
  simp [eraseIn, found, decl.isErased_erase type]

/-! ## Getters -/

theorem keepsGetter_of_chooseGetter (bare : registry.RootIsBare)
    (erased : ∀ candidate ∈ candidates, (registry.erasedReturn candidate).isErased = true)
    (chosen : registry.chooseGetter property candidates = .ok (some kept)) :
    registry.KeepsGetter candidates kept := by
  cases candidates with
  | nil => cases chosen
  | cons first rest =>
      obtain ⟨winner, ran, same⟩ := Fallible.map_eq_ok_iff.mp chosen
      cases same
      exact keeps_of_foldlM registry.keepsGetter_singleton
        (fun _ _ _ _ erased keeps compared => keeps.snoc bare erased compared) erased ran

/-- The getter that is chosen has the narrowest type of all candidates. -/
theorem narrowest_of_chooseGetter (bare : registry.RootIsBare) {winner : Method}
    (erased : ∀ candidate ∈ candidates, (registry.erasedReturn candidate).isErased = true)
    (chosen : registry.chooseGetter property candidates = .ok (some winner)) :
    ∀ candidate ∈ candidates, registry.isAssignable (registry.erasedReturn candidate)
      (registry.erasedReturn winner) = true :=
  (keepsGetter_of_chooseGetter bare erased chosen).narrowest

theorem clash_of_chooseGetter {error : MetadataError}
    (refused : registry.chooseGetter property candidates = .error error) :
    ∃ current candidate, [current, candidate].Sublist candidates ∧
      registry.GettersClash current candidate ∧
      error = .ambiguousGetter property current.declaring := by
  cases candidates with
  | nil => cases refused
  | cons first rest =>
      obtain ⟨current, candidate, listed, compared⟩ :=
        exists_of_foldlM_choice (fun _ _ _ => betterGetter_cases)
          (Fallible.map_eq_error_iff.mp refused)
      have step := registry.getterStep_betterGetter property current candidate
      rw [compared] at step
      cases step with
      | clash clash => exact ⟨current, candidate, listed, clash, rfl⟩

/-- What the outcome of choosing a getter says about the candidates. -/
structure GetterVerdict (registry : Registry) (property : String) (candidates : List Method)
    (verdict : Except MetadataError (Option Method)) : Prop where
  chosen : ∀ winner, verdict = .ok (some winner) → registry.KeepsGetter candidates winner ∧
    ((registry.erasedReturn winner).isBoolean = true →
      ∀ candidate ∈ candidates, registry.erasedReturn candidate = .primitive .boolean)
  refused : ∀ error, verdict = .error error →
    ∃ current candidate, [current, candidate].Sublist candidates ∧
      registry.GettersClash current candidate ∧
      error = .ambiguousGetter property current.declaring
  missing : verdict = .ok none ↔ candidates = []

/-- The getter that is chosen has the narrowest type of all and, unless it is a `boolean`, shares
it with no other candidate; and no choice is refused without two candidates that clash. -/
theorem getterVerdict_chooseGetter (bare : registry.RootIsBare) (property : String)
    (registered : ∀ candidate ∈ candidates, registry.contains candidate.declaring = true) :
    registry.GetterVerdict property candidates (registry.chooseGetter property candidates) := by
  have erased : ∀ candidate ∈ candidates, (registry.erasedReturn candidate).isErased = true :=
    fun candidate inside => isErased_eraseIn (registered candidate inside) _
  refine ⟨?_, fun _ => clash_of_chooseGetter, chooseGetter_eq_none_iff⟩
  intro winner chosen
  have keeps := keepsGetter_of_chooseGetter bare erased chosen
  refine ⟨keeps, ?_⟩
  intro boolean candidate inside
  rw [eq_of_isAssignable_isBoolean boolean (keeps.narrowest candidate inside)]
  exact (isBoolean_iff _).mp boolean

def amountGetter (type : TypeExpr) : Method :=
  { Method.ofHeader "getAmount" [] type with declaring := "Ledger" }

def amountGetters : List Method :=
  [amountGetter .root, amountGetter (.named "Long"), amountGetter (.named "Number")]

def ledgers : Registry := Registry.builtin.register (TypeDecl.ofClass "Ledger")

/-- The second of three getters is kept, though it is compared with the others one by one. -/
theorem getterVerdict_chooseGetter_ledgers :
    ledgers.RootIsBare ∧
    (∀ candidate ∈ amountGetters, ledgers.contains candidate.declaring = true) ∧
    ledgers.chooseGetter "amount" amountGetters = .ok (some (amountGetter (.named "Long"))) ∧
    ledgers.KeepsGetter amountGetters (amountGetter (.named "Long")) := by
  have bare : ledgers.RootIsBare := rootIsBare_of_lookup? rfl rfl
  have registered : ∀ candidate ∈ amountGetters,
      ledgers.contains candidate.declaring = true := by decide
  have chosen : ledgers.chooseGetter "amount" amountGetters =
      .ok (some (amountGetter (.named "Long"))) := rfl
  exact ⟨bare, registered, chosen,
    ((getterVerdict_chooseGetter bare "amount" registered).chosen _ chosen).1⟩

/-! ## Setters -/

theorem keepsSetter_of_chooseSetter (bare : registry.RootIsBare)
    (erased : ∀ candidate ∈ candidates, (registry.erasedParameter candidate).isErased = true)
    {getterType : Option TypeExpr}
    (inexact : ∀ candidate ∈ candidates, getterType ≠ some (registry.erasedParameter candidate))
    (chosen : registry.chooseSetter property candidates getterType = .ok (some kept)) :
    registry.KeepsSetter candidates kept := by
  unfold chooseSetter at chosen
  split at chosen
  · next exact found =>
    have fits : getterType = some (registry.erasedParameter exact) := by
      simpa using List.find?_some found
    exact absurd fits (inexact exact (List.mem_of_find?_eq_some found))
  · cases candidates with
    | nil => cases chosen
    | cons first rest =>
        obtain ⟨winner, ran, same⟩ := Fallible.map_eq_ok_iff.mp chosen
        cases same
        exact keeps_of_foldlM registry.keepsSetter_singleton
          (fun _ _ _ _ erased keeps compared => keeps.snoc bare erased compared) erased ran

end Introspection.Registry
