import Introspection.TypeDecl

/-!
# Erasure

A declared type without its generic parts: a variable becomes its bound, an
applied class its raw class, and an array is erased element by element.

A bound may be another variable, so variables are followed from bound to bound.
A ring of bounds is followed without end, and then there is no erasure
(`erase?`). Any other way passes each parameter at most once, so one step more
than there are parameters is enough.

`erase` has the root in place of an erasure that does not exist. A function that
erases what it meets is given in both forms: the optional one ends just where
the erasures that it looks for exist, and then with what the other one finds.
-/

set_option autoImplicit false

namespace Introspection

namespace TypeDecl

/-- The erasure of a variable, if the given number of steps is enough to find
it. A variable without a bound, or bounded by itself alone, becomes the root. -/
def eraseVariable? (decl : TypeDecl) : Nat → String → Option TypeExpr
  | 0, _ => none
  | steps + 1, name =>
      match (decl.parameter? name).bind TypeParameter.bound with
      | some bound =>
          if bound = .var name then some .root else bound.eraseWith? (decl.eraseVariable? steps)
      | none => some .root

/-- The erasure of a type written inside the declaration; none if the search
for it goes around a ring of bounds. -/
def erase? (decl : TypeDecl) (type : TypeExpr) : Option TypeExpr :=
  type.eraseWith? (decl.eraseVariable? (decl.parameters.length + 1))

/-- The erasure of a type, with the root in place of a variable without one. -/
def erase (decl : TypeDecl) (type : TypeExpr) : TypeExpr :=
  type.eraseWith fun name => (decl.erase? (.var name)).getD .root

def erasedParameters (decl : TypeDecl) : List TypeExpr :=
  decl.parameters.map (fun parameter => decl.erase (.var parameter.name))

def erasedParameters? (decl : TypeDecl) : Option (List TypeExpr) :=
  decl.parameters.mapM fun parameter => decl.erase? (.var parameter.name)

theorem erase_of_erase? {decl : TypeDecl} {type erasure : TypeExpr}
    (erases : decl.erase? type = some erasure) : decl.erase type = erasure :=
  TypeExpr.eraseWith_of_eraseWith? erases

theorem isErased_of_eraseVariable? {decl : TypeDecl} {steps : Nat} {name : String}
    {erasure : TypeExpr} (erases : decl.eraseVariable? steps name = some erasure) :
    erasure.isErased = true := by
  induction steps generalizing name erasure with
  | zero => cases erases
  | succ steps ih =>
      rw [eraseVariable?] at erases
      split at erases
      · split at erases
        · rw [← Option.some.inj erases]
          rfl
        · rw [← TypeExpr.eraseWith_of_eraseWith? erases]
          refine TypeExpr.isErased_eraseWith _ (fun next => ?_) _
          cases found : decl.eraseVariable? steps next with
          | none => rfl
          | some erasure => exact ih found
      · rw [← Option.some.inj erases]
        rfl

theorem isErased_erase (decl : TypeDecl) (type : TypeExpr) :
    (decl.erase type).isErased = true := by
  refine TypeExpr.isErased_eraseWith _ (fun name => ?_) type
  cases found : decl.erase? (.var name) with
  | none => rfl
  | some erasure => exact isErased_of_eraseVariable? found

theorem erase_of_isErased (decl : TypeDecl) (type : TypeExpr) (erased : type.isErased = true) :
    decl.erase type = type :=
  TypeExpr.eraseWith_of_isErased _ type erased

theorem erase_erase (first second : TypeDecl) (type : TypeExpr) :
    second.erase (first.erase type) = first.erase type :=
  second.erase_of_isErased _ (first.isErased_erase type)

end TypeDecl

end Introspection
