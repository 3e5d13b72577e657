import Introspection.Proofs.Assignability

/-!
# Assignability as an order

Below a bare root class assignability is a preorder on erased types, and where no type stands above
itself it is a partial order (`isAssignable_order`). It agrees with what values conform to: a type
that can be stored as another has no value that the other refuses, and between classes, or arrays
of classes, nothing else is needed (`isAssignable_values`).
-/

set_option autoImplicit false

namespace Introspection

def TypeExpr.isOfClass : TypeExpr → Bool
  | named _ => true
  | array element => element.isOfClass
  | _ => false

namespace Registry

variable {registry : Registry}

/-- Erased types that fit each other are the same, since their classes are and arrays fit nothing
but arrays and the root class. -/
theorem Fits.antisymm (bare : registry.RootIsBare) (acyclic : registry.ClausesAcyclic)
    {left right : TypeExpr} (leftErased : left.isErased = true) (rightErased : right.isErased = true)
    (first : registry.Fits left right) (second : registry.Fits right left) : left = right := by
  induction first with
  | same => rfl
  | elements _ _ _ ih =>
      cases second with
      | same => rfl
      | elements _ _ inner => exact congrArg TypeExpr.array (ih leftErased rightErased inner)
      | subtype raw => cases raw
  | arrayAsRoot =>
      cases second with
      | subtype raw => cases raw
  | subtype raw otherRaw below =>
      cases second with
      | same => rfl
      | elements => cases raw
      | arrayAsRoot => cases raw
      | subtype again lowerAgain above =>
          rw [raw, Option.some.injEq] at lowerAgain
          rw [otherRaw, Option.some.injEq] at again
          subst lowerAgain again
          rw [TypeExpr.eq_named_of_isErased leftErased raw,
            TypeExpr.eq_named_of_isErased rightErased otherRaw,
            isSubtype_antisymm bare acyclic below above]

/-- Below a bare root class assignability is a preorder on erased types; without cycles of
supertype clauses it is a partial order. -/
theorem isAssignable_order (bare : registry.RootIsBare) :
    (∀ type : TypeExpr, type.isErased = true → registry.isAssignable type type = true) ∧
    (∀ upper middle lower : TypeExpr, upper.isErased = true → middle.isErased = true →
      lower.isErased = true → registry.isAssignable upper middle = true →
      registry.isAssignable middle lower = true → registry.isAssignable upper lower = true) ∧
    (registry.ClausesAcyclic → ∀ left right : TypeExpr, left.isErased = true →
      right.isErased = true → registry.isAssignable left right = true →
      registry.isAssignable right left = true → left = right) := by
  refine ⟨fun type _ => registry.isAssignable_refl type, ?_, ?_⟩
  · intro upper middle lower erased _ _ first second
    exact isAssignable_trans bare erased first second
  · intro acyclic left right leftErased rightErased first second
    rw [isAssignable_iff] at first second
    exact first.antisymm bare acyclic leftErased rightErased second

def shapes : Registry :=
  (Registry.builtin.register (TypeDecl.ofInterface "Shape")).register
    { TypeDecl.ofClass "Circle" with interfaces := [.named "Shape", .applied "Shape" [.var "T"]] }

theorem isAssignable_order_shapes :
    shapes.RootIsBare ∧ shapes.ClausesAcyclic ∧
      shapes.isAssignable (.array .root) (.array (.array (.named "Circle"))) = true ∧
      ¬ shapes.isAssignable (.array (.named "Circle")) (.array (.named "Shape")) = true := by
  have bare : shapes.RootIsBare := rootIsBare_of_lookup? rfl rfl
  have acyclic : shapes.ClausesAcyclic := by
    apply clausesAcyclic_of_rank fun name =>
      if name = rootName then 0 else if name ∈ ["CharSequence", "Number", "Shape"] then 1 else 2
    decide
  obtain ⟨_, transitive, antisymmetric⟩ := isAssignable_order bare
  have nested : shapes.isAssignable (.array .root) (.array (.array (.named "Circle"))) = true :=
    transitive _ (.array (.array (.named "Shape"))) _ rfl rfl rfl (by decide) (by decide)
  refine ⟨bare, acyclic, nested, fun back => ?_⟩
  have same := antisymmetric acyclic (.array (.named "Circle")) (.array (.named "Shape")) rfl rfl
    back (by decide)
  exact absurd same (by decide)

/-- A type of classes whose values all conform to an erased type can be stored as it. An object of
the class itself, and the array with one item, are the values that tell. -/
theorem isAssignable_of_conforms {source target : TypeExpr} (classes : source.isOfClass = true)
    (erased : target.isErased = true)
    (included : ∀ value, registry.conforms value source = true →
      registry.conforms value target = true) :
    registry.isAssignable target source = true := by
  induction source using TypeExpr.rec (motive_2 := fun _ => True) generalizing target with
  | void | primitive | applied | var => cases classes
  | named name =>
      have own : registry.conforms (.object ⟨name, 0⟩) target = true :=
        included (.object ⟨name, 0⟩) (registry.isSubtype_refl name)
      cases target with
      | named super => exact (isAssignable_iff _ _).mpr (.subtype rfl rfl own)
      | void | primitive | array => cases own
      | applied | var => cases erased
  | array element ih =>
      have empty : registry.conforms (.array []) target = true := included _ rfl
      cases target with
      | named super =>
          have top : super = rootName := by simpa [conforms] using empty
          rw [top]
          exact (isAssignable_iff _ _).mpr (.arrayAsRoot element)
      | array other =>
          have inner : other.isErased = true := erased
          apply isAssignable_array
          apply ih classes inner
          intro item conforms
          have single := included (.array [item]) (by simpa [Registry.conforms] using conforms)
          simpa [Registry.conforms] using single
      | void | primitive => cases empty
      | applied | var => cases erased
  | nil | cons => trivial

/-- Below a bare root class what can be stored as a type has no value that the type refuses. For
classes and arrays of classes that is all there is to it. -/
theorem isAssignable_values (bare : registry.RootIsBare) (source target : TypeExpr) :
    (registry.isAssignable target source = true → ∀ value,
      registry.conforms value source = true → registry.conforms value target = true) ∧
    (source.isOfClass = true → target.isErased = true →
      (∀ value, registry.conforms value source = true → registry.conforms value target = true) →
      registry.isAssignable target source = true) :=
  ⟨fun assignable _ => conforms_of_isAssignable bare assignable,
    fun classes erased included => isAssignable_of_conforms classes erased included⟩

def boxes : Registry :=
  (Registry.builtin.register (TypeDecl.ofInterface "Small")).register
    { TypeDecl.ofClass "Byte" with interfaces := [.named "Small"] }

theorem isAssignable_values_boxes :
    boxes.RootIsBare ∧
      boxes.isAssignable (.array .root) (.array (.array (.named "Small"))) = true ∧
      boxes.conforms (.array [.array [.int 7, .null], .null])
        (.array (.array (.named "Small"))) = true ∧
      boxes.conforms (.array [.array [.int 7, .null], .null]) (.array .root) = true ∧
      ¬ ∀ value, boxes.conforms value (.named "Small") = true →
        boxes.conforms value (.named "Byte") = true := by
  have bare : boxes.RootIsBare := rootIsBare_of_lookup? rfl rfl
  have assignable : boxes.isAssignable (.array .root) (.array (.array (.named "Small"))) = true := by
    decide
  have conforms : boxes.conforms (.array [.array [.int 7, .null], .null])
      (.array (.array (.named "Small"))) = true := by
    decide
  refine ⟨bare, assignable, conforms,
    (isAssignable_values bare _ _).1 assignable _ conforms, fun included => ?_⟩
  have narrower := (isAssignable_values bare (.named "Small") (.named "Byte")).2 rfl rfl included
  exact absurd narrower (by decide)

end Registry

end Introspection
