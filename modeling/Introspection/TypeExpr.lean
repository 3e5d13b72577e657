import Introspection.Primitive

/-!
# Type expressions

The type of a member as its declaration writes it: on a field, in a method
header, or in an `extends` or `implements` clause. A generic declaration keeps
its type variables here; erasure and substitution remove them.
-/

set_option autoImplicit false

namespace Introspection

/-- The universal root class; every reference type can be stored in it. -/
def rootName : String := "Object"

inductive TypeExpr where
  /-- No value; only a method returns it. -/
  | void
  | primitive (kind : Primitive)
  /-- A class or interface without type arguments. -/
  | named (name : String)
  | array (element : TypeExpr)
  /-- A generic class applied to arguments, in the order of its parameters. -/
  | applied (raw : String) (arguments : List TypeExpr)
  /-- A type variable. -/
  | var (name : String)

namespace TypeExpr

def commaSeparated : List String → String
  | [] => ""
  | [last] => last
  | first :: rest => first ++ ", " ++ commaSeparated rest

mutual

/-- The written form: `Map<String, V>`, `long[]`. -/
def text : TypeExpr → String
  | void => "void"
  | primitive kind => kind.name
  | named name => name
  | var name => name
  | array element => element.text ++ "[]"
  | applied raw arguments => raw ++ "<" ++ commaSeparated (texts arguments) ++ ">"

def texts : List TypeExpr → List String
  | [] => []
  | first :: rest => first.text :: texts rest

end

mutual

def same : TypeExpr → TypeExpr → Bool
  | void, void => true
  | primitive left, primitive right => left == right
  | named left, named right => left == right
  | array left, array right => left.same right
  | applied leftRaw leftArguments, applied rightRaw rightArguments =>
      leftRaw == rightRaw && sameList leftArguments rightArguments
  | var left, var right => left == right
  | _, _ => false

def sameList : List TypeExpr → List TypeExpr → Bool
  | [], [] => true
  | left :: lefts, right :: rights => left.same right && sameList lefts rights
  | _, _ => false

end

def root : TypeExpr := .named rootName

/-- The type `boolean`, not its boxed class. -/
def isBoolean : TypeExpr → Bool
  | primitive .boolean => true
  | _ => false

def isPrimitive : TypeExpr → Bool
  | primitive _ => true
  | _ => false

def rawName? : TypeExpr → Option String
  | named name => some name
  | applied raw _ => some raw
  | _ => none

def arguments : TypeExpr → List TypeExpr
  | applied _ arguments => arguments
  | _ => []

def isErased : TypeExpr → Bool
  | void | primitive _ | named _ => true
  | array element => element.isErased
  | applied _ _ | var _ => false

mutual

/-- Replace every variable, inside type arguments and arrays as well. -/
def subst (replacement : String → TypeExpr) : TypeExpr → TypeExpr
  | void => void
  | primitive kind => primitive kind
  | named name => .named name
  | var name => replacement name
  | array element => array (element.subst replacement)
  | applied raw arguments => applied raw (substList replacement arguments)

def substList (replacement : String → TypeExpr) : List TypeExpr → List TypeExpr
  | [] => []
  | first :: rest => first.subst replacement :: substList replacement rest

end

/-- Drop type arguments and replace the variable outside them: what is left
is erased as soon as the replacement is. -/
def eraseWith (replacement : String → TypeExpr) : TypeExpr → TypeExpr
  | void => void
  | primitive kind => primitive kind
  | named name => .named name
  | var name => replacement name
  | array element => array (element.eraseWith replacement)
  | applied raw _ => .named raw

/-- The same with replacements that some variables lack. -/
def eraseWith? (replacement : String → Option TypeExpr) : TypeExpr → Option TypeExpr
  | void => some void
  | primitive kind => some (primitive kind)
  | named name => some (.named name)
  | var name => replacement name
  | array element => (element.eraseWith? replacement).map array
  | applied raw _ => some (.named raw)

mutual

private theorem same_iff (left right : TypeExpr) : left.same right = true ↔ left = right := by
  cases left with
  | void => cases right <;> simp [same]
  | primitive kind => cases right <;> simp [same]
  | named name => cases right <;> simp [same]
  | var name => cases right <;> simp [same]
  | array element =>
      cases right with
      | array other => simp [same, same_iff element other]
      | _ => simp [same]
  | applied raw arguments =>
      cases right with
      | applied otherRaw others => simp [same, sameList_iff arguments others]
      | _ => simp [same]

private theorem sameList_iff (lefts rights : List TypeExpr) :
    sameList lefts rights = true ↔ lefts = rights := by
  cases lefts with
  | nil => cases rights <;> simp [sameList]
  | cons left lefts =>
      cases rights with
      | nil => simp [sameList]
      | cons right rights => simp [sameList, same_iff left right, sameList_iff lefts rights]

end

instance : DecidableEq TypeExpr := fun left right =>
  decidable_of_iff (left.same right = true) (same_iff left right)

theorem substList_eq_map (replacement : String → TypeExpr) (types : List TypeExpr) :
    substList replacement types = types.map (subst replacement) := by
  induction types with
  | nil => rfl
  | cons first rest ih => simp [substList, ih]

/-- Erasing with erased replacements leaves no variable and no argument. -/
theorem isErased_eraseWith (replacement : String → TypeExpr)
    (erased : ∀ name, (replacement name).isErased = true) (type : TypeExpr) :
    (type.eraseWith replacement).isErased = true := by
  induction type using TypeExpr.rec (motive_2 := fun _ => True) with
  | void | primitive | named | applied => rfl
  | var name => exact erased name
  | array element ih => exact ih
  | nil | cons => trivial

theorem eraseWith_of_eraseWith? {replacement : String → Option TypeExpr} {type erasure : TypeExpr}
    (erases : type.eraseWith? replacement = some erasure) :
    type.eraseWith (fun name => (replacement name).getD .root) = erasure := by
  induction type using TypeExpr.rec (motive_2 := fun _ => True) generalizing erasure with
  | void | primitive | named | applied => exact Option.some.inj erases
  | var name =>
      rw [eraseWith?] at erases
      rw [eraseWith, erases, Option.getD_some]
  | array element ih =>
      obtain ⟨inner, found, rfl⟩ := Option.map_eq_some_iff.mp erases
      rw [eraseWith, ih found]
  | nil | cons => trivial

/-- An erased type has nothing to erase, whatever the replacements. -/
theorem eraseWith_of_isErased (replacement : String → TypeExpr) (type : TypeExpr)
    (erased : type.isErased = true) : type.eraseWith replacement = type := by
  induction type using TypeExpr.rec (motive_2 := fun _ => True) with
  | void | primitive | named => rfl
  | applied | var => simp [isErased] at erased
  | array element ih => rw [eraseWith, ih erased]
  | nil | cons => trivial

end TypeExpr

end Introspection
