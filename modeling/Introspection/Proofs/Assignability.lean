import Introspection.Proofs.Subtyping

/-!
# Assignability and conforming values

`Fits` lists the ways in which a value of one type can be stored as another, one
constructor for each rule of `isAssignable`. Where the root class has no
supertypes these rules compose (`isAssignable_trans`), and a value that conforms
to a type conforms to every type that the first can be stored as
(`conforms_of_isAssignable`).
-/

set_option autoImplicit false

namespace Introspection

namespace TypeExpr

theorem isPrimitive_of_rawName? {type : TypeExpr} {name : String}
    (raw : type.rawName? = some name) : type.isPrimitive = false := by
  cases type <;> simp [rawName?, isPrimitive] at raw ⊢

theorem eq_named_of_isErased {type : TypeExpr} {name : String} (erased : type.isErased = true)
    (raw : type.rawName? = some name) : type = .named name := by
  cases type <;> simp [rawName?, isErased] at raw erased ⊢
  exact raw

end TypeExpr

namespace Registry

inductive Fits (registry : Registry) : TypeExpr → TypeExpr → Prop where
  | same (type : TypeExpr) : Fits registry type type
  | elements {element other : TypeExpr} : element.isPrimitive = false →
      other.isPrimitive = false → Fits registry element other →
      Fits registry (.array element) (.array other)
  | arrayAsRoot (element : TypeExpr) : Fits registry .root (.array element)
  | subtype {target source : TypeExpr} {super sub : String} : target.rawName? = some super →
      source.rawName? = some sub → registry.isSubtype sub super = true →
      Fits registry target source

variable {registry : Registry}

theorem isAssignable_array_iff (element source : TypeExpr) :
    registry.isAssignable (.array element) source = true ↔
      .array element = source ∨ ∃ other, source = .array other ∧ element.isPrimitive = false ∧
        other.isPrimitive = false ∧ registry.isAssignable element other = true := by
  cases source with
  | array other =>
      simp only [isAssignable, Bool.or_eq_true, beq_iff_eq, Bool.and_eq_true, Bool.not_eq_true',
        and_assoc, TypeExpr.array.injEq, exists_eq_left']
  | _ => simp [isAssignable]

theorem isAssignable_iff_of_not_array {target : TypeExpr} (source : TypeExpr)
    (plain : ∀ element, target ≠ .array element) :
    registry.isAssignable target source = true ↔
      target = source ∨ (target = .root ∧ ∃ element, source = .array element) ∨
        ∃ super sub, target.rawName? = some super ∧ source.rawName? = some sub ∧
          registry.isSubtype sub super = true := by
  cases target with
  | array element => exact absurd rfl (plain element)
  | void | primitive | var => cases source <;> simp [isAssignable, TypeExpr.rawName?, TypeExpr.root]
  | named name => cases source <;> simp [isAssignable, TypeExpr.rawName?, TypeExpr.root]
  | applied raw arguments =>
      cases source <;> simp [isAssignable, TypeExpr.rawName?, TypeExpr.root]

theorem isAssignable_iff (target source : TypeExpr) :
    registry.isAssignable target source = true ↔ registry.Fits target source := by
  constructor
  · intro assignable
    induction target using TypeExpr.rec (motive_2 := fun _ => True) generalizing source with
    | array element ih =>
        rcases (isAssignable_array_iff element source).mp assignable with
          rfl | ⟨other, rfl, boxed, otherBoxed, inner⟩
        · exact .same _
        · exact .elements boxed otherBoxed (ih other inner)
    | nil | cons => trivial
    | _ =>
        rcases (isAssignable_iff_of_not_array source (by simp)).mp assignable with
          rfl | ⟨top, element, rfl⟩ | ⟨super, sub, raw, sourceRaw, below⟩
        · exact .same _
        · rw [top]
          exact .arrayAsRoot element
        · exact .subtype raw sourceRaw below
  · intro fits
    induction fits with
    | same type =>
        cases type with
        | array element => exact (isAssignable_array_iff _ _).mpr (.inl rfl)
        | _ => exact (isAssignable_iff_of_not_array _ (by simp)).mpr (.inl rfl)
    | elements boxed otherBoxed _ ih =>
        exact (isAssignable_array_iff _ _).mpr (.inr ⟨_, rfl, boxed, otherBoxed, ih⟩)
    | arrayAsRoot element =>
        exact (isAssignable_iff_of_not_array _ (by simp [TypeExpr.root])).mpr
          (.inr (.inl ⟨rfl, element, rfl⟩))
    | @subtype target source super sub raw sourceRaw below =>
        have plain : ∀ element, target ≠ .array element := by
          intro element same
          rw [same] at raw
          cases raw
        exact (isAssignable_iff_of_not_array _ plain).mpr
          (.inr (.inr ⟨super, sub, raw, sourceRaw, below⟩))

theorem isAssignable_refl (registry : Registry) (type : TypeExpr) :
    registry.isAssignable type type = true :=
  (isAssignable_iff type type).mpr (.same type)

namespace Fits

/-- The upper type has to be erased: a generic root class with arguments can hold the plain
root class but no array. -/
theorem trans (bare : registry.RootIsBare) {upper middle lower : TypeExpr}
    (erased : upper.isErased = true) (first : registry.Fits upper middle)
    (second : registry.Fits middle lower) : registry.Fits upper lower := by
  induction first generalizing lower with
  | same => exact second
  | elements boxed _ fits ih =>
      cases second with
      | same => exact .elements boxed (by assumption) fits
      | elements _ lowest inner => exact .elements boxed lowest (ih erased inner)
      | subtype raw => cases raw
  | arrayAsRoot element =>
      cases second with
      | same => exact .arrayAsRoot element
      | elements => exact .arrayAsRoot _
      | subtype raw => cases raw
  | @subtype upper middle super sub raw middleRaw below =>
      cases second with
      | same => exact .subtype raw middleRaw below
      | elements => cases middleRaw
      | arrayAsRoot element =>
          cases middleRaw
          rw [eq_root_of_isSubtype_root bare below] at raw
          rw [TypeExpr.eq_named_of_isErased erased raw]
          exact .arrayAsRoot element
      | subtype again lowerRaw lowest =>
          rw [middleRaw, Option.some.injEq] at again
          subst again
          exact .subtype raw lowerRaw (isSubtype_trans bare lowest below)

theorem array {target source : TypeExpr} (fits : registry.Fits target source) :
    registry.Fits (.array target) (.array source) := by
  have unboxed : target = source ∨ target.isPrimitive = false ∧ source.isPrimitive = false := by
    cases fits with
    | same => exact .inl rfl
    | elements | arrayAsRoot => exact .inr ⟨rfl, rfl⟩
    | subtype raw sourceRaw =>
        exact .inr ⟨TypeExpr.isPrimitive_of_rawName? raw,
          TypeExpr.isPrimitive_of_rawName? sourceRaw⟩
  rcases unboxed with rfl | ⟨boxed, otherBoxed⟩
  · exact .same _
  · exact .elements boxed otherBoxed fits

end Fits

theorem isAssignable_trans (bare : registry.RootIsBare) {upper middle lower : TypeExpr}
    (erased : upper.isErased = true) (first : registry.isAssignable upper middle = true)
    (second : registry.isAssignable middle lower = true) :
    registry.isAssignable upper lower = true := by
  rw [isAssignable_iff] at first second ⊢
  exact first.trans bare erased second

theorem isAssignable_array {target source : TypeExpr}
    (assignable : registry.isAssignable target source = true) :
    registry.isAssignable (.array target) (.array source) = true := by
  rw [isAssignable_iff] at assignable ⊢
  exact assignable.array

theorem conforms_eq_of_rawName? {type : TypeExpr} {name : String} (value : Value)
    (raw : type.rawName? = some name) :
    registry.conforms value type = registry.conforms value (.named name) := by
  cases type <;> cases raw <;> cases value <;> rfl

theorem conforms_named_of_isSubtype (bare : registry.RootIsBare) {sub super : String}
    (below : registry.isSubtype sub super = true) (value : Value)
    (conforms : registry.conforms value (.named sub) = true) :
    registry.conforms value (.named super) = true := by
  cases value with
  | null => rfl
  | bool | char | string | object =>
      simp only [Registry.conforms] at conforms ⊢
      exact isSubtype_trans bare conforms below
  | int number =>
      simp only [Registry.conforms, List.any_eq_true] at conforms ⊢
      obtain ⟨kind, held, boxed⟩ := conforms
      exact ⟨kind, held, isSubtype_trans bare boxed below⟩
  | float number =>
      simp only [Registry.conforms, List.any_eq_true] at conforms ⊢
      obtain ⟨kind, floating, boxed⟩ := conforms
      exact ⟨kind, floating, isSubtype_trans bare boxed below⟩
  | array items =>
      -- An array is an instance of the root class alone, so the subtype is the root class.
      simp only [Registry.conforms, beq_iff_eq] at conforms ⊢
      rw [conforms] at below
      exact eq_root_of_isSubtype_root bare below

theorem conforms_of_fits (bare : registry.RootIsBare) {target source : TypeExpr}
    (fits : registry.Fits target source) (value : Value)
    (conforms : registry.conforms value source = true) :
    registry.conforms value target = true := by
  induction fits generalizing value with
  | same => exact conforms
  | elements _ _ _ ih =>
      cases value with
      | null => rfl
      | array items =>
          simp only [Registry.conforms, List.all_eq_true] at conforms ⊢
          intro item inside
          exact ih item (conforms item inside)
      | _ => cases conforms
  | arrayAsRoot element =>
      cases value with
      | null | array => rfl
      | _ => cases conforms
  | subtype raw sourceRaw below =>
      rw [conforms_eq_of_rawName? value sourceRaw] at conforms
      rw [conforms_eq_of_rawName? value raw]
      exact conforms_named_of_isSubtype bare below value conforms

theorem conforms_of_isAssignable (bare : registry.RootIsBare) {target source : TypeExpr}
    (assignable : registry.isAssignable target source = true) {value : Value}
    (conforms : registry.conforms value source = true) :
    registry.conforms value target = true :=
  conforms_of_fits bare ((isAssignable_iff target source).mp assignable) value conforms

end Registry

end Introspection
