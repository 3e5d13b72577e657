import Introspection.Erasure

/-!
# The registry

The declared types by name. Registering a name again redefines the type: the
latest declaration is the one that every lookup finds. A new registry holds the
root class, the text classes and the boxed primitives.
-/

set_option autoImplicit false

namespace Introspection

/-- The declarations, the latest first. -/
structure Registry where
  declarations : List TypeDecl

namespace Registry

def empty : Registry := ⟨[]⟩

/-- Declare a type, or redefine the one of that name. -/
def register (registry : Registry) (decl : TypeDecl) : Registry :=
  ⟨decl :: registry.declarations⟩

def lookup? (registry : Registry) (name : String) : Option TypeDecl :=
  registry.declarations.find? (fun decl => decl.name == name)

def require (registry : Registry) (name : String) : Except MetadataError TypeDecl :=
  match registry.lookup? name with
  | some decl => .ok decl
  | none => .error (.unknownType name)

def contains (registry : Registry) (name : String) : Bool := (registry.lookup? name).isSome

def names (registry : Registry) : List String :=
  (registry.declarations.map TypeDecl.name).eraseDups

def size (registry : Registry) : Nat := registry.names.length

/-- The erasure of a type written in a member of the named type. Without that
type there is nothing to look variables up in, and the type stays as written. -/
def eraseIn (registry : Registry) (declaring : String) (type : TypeExpr) : TypeExpr :=
  match registry.lookup? declaring with
  | some decl => decl.erase type
  | none => type

/-- The same, and none where the search for the erasure goes around a ring of bounds. -/
def eraseIn? (registry : Registry) (declaring : String) (type : TypeExpr) : Option TypeExpr :=
  match registry.lookup? declaring with
  | some decl => decl.erase? type
  | none => some type

def builtinTypes : List TypeDecl :=
  [.bare rootName .classKind,
    .ofInterface "CharSequence",
    { TypeDecl.ofClass "String" with interfaces := [.named "CharSequence"] },
    .ofAbstractClass "Number"] ++
  (Primitive.integral ++ Primitive.floating).map (fun primitive =>
    { TypeDecl.ofClass primitive.boxedClass with superclass := some (.named "Number") }) ++
  [.ofClass Primitive.boolean.boxedClass, .ofClass Primitive.char.boxedClass]

def builtin : Registry := builtinTypes.foldl register empty

theorem name_of_lookup? {registry : Registry} {name : String} {decl : TypeDecl}
    (found : registry.lookup? name = some decl) : decl.name = name := by
  simpa using List.find?_some found

theorem lookup?_name {registry : Registry} {name : String} {decl : TypeDecl}
    (found : registry.lookup? name = some decl) : registry.lookup? decl.name = some decl := by
  rw [name_of_lookup? found]
  exact found

theorem mem_of_lookup? {registry : Registry} {name : String} {decl : TypeDecl}
    (found : registry.lookup? name = some decl) : decl ∈ registry.declarations :=
  List.mem_of_find?_eq_some found

theorem lookup?_register (registry : Registry) (decl : TypeDecl) (name : String) :
    (registry.register decl).lookup? name =
      if decl.name = name then some decl else registry.lookup? name := by
  by_cases same : decl.name = name <;> simp [register, lookup?, same]

theorem require_eq_ok_iff {registry : Registry} {name : String} {decl : TypeDecl} :
    registry.require name = .ok decl ↔ registry.lookup? name = some decl := by
  cases found : registry.lookup? name <;> simp [require, found]

def initialStatics (registry : Registry) : List (Location × Value) :=
  (registry.names.filterMap registry.lookup?).flatMap fun decl =>
    decl.statics.entries.map fun slot => (.static decl.name slot.1, slot.2)

def initialStore (registry : Registry) : Store :=
  registry.initialStatics.foldl (fun store cell => store.put cell.1 cell.2) .empty

end Registry

end Introspection
