import Introspection.Registry.Hierarchy

/-!
# Resolving generic types

A member of a generic ancestor sees the variables of that ancestor through the
clauses between it and the type under inspection: with `Entity<ID>` declaring
`ID getId()`, the type `User extends Entity<Long>` reads a `Long`. The result is
erased: what no clause binds becomes its bound.

A resolver is any way to see a declared type from another type; `generic` is
the one just described.
-/

set_option autoImplicit false

namespace Introspection

namespace TypeDecl

/-- What a variable stands for when the type parameters stand for `actuals`; a
variable that is no parameter, or has no counterpart, stands for itself. -/
def binding (decl : TypeDecl) (actuals : List TypeExpr) (name : String) : TypeExpr :=
  match decl.parameters.findIdx? (fun parameter => parameter.name == name) with
  | some place => (actuals[place]?).getD (.var name)
  | none => .var name

def substitute (decl : TypeDecl) (actuals : List TypeExpr) (type : TypeExpr) : TypeExpr :=
  type.subst (decl.binding actuals)

/-- The arguments that a clause of this declaration hands to `parent`, when the
own parameters stand for `actuals`. A clause without arguments leaves the
parameters of the parent at their bounds. -/
def clauseArguments (decl : TypeDecl) (actuals : List TypeExpr) (clause : TypeExpr)
    (parent : TypeDecl) : List TypeExpr :=
  if clause.arguments.isEmpty then parent.erasedParameters
  else clause.arguments.map (fun argument => decl.erase (decl.substitute actuals argument))

def clauseArguments? (decl : TypeDecl) (actuals : List TypeExpr) (clause : TypeExpr)
    (parent : TypeDecl) : Option (List TypeExpr) :=
  if clause.arguments.isEmpty then parent.erasedParameters?
  else clause.arguments.mapM fun argument => decl.erase? (decl.substitute actuals argument)

end TypeDecl

namespace Registry

def longestPath : Nat := 256

def parent? (registry : Registry) (clause : TypeExpr) : Option TypeDecl :=
  clause.rawName?.bind registry.lookup?

/-- The type arguments of `declaring` as seen from `decl`, whose own parameters
stand for `actuals`: along the first path of clauses, superclass before
interfaces, that leads there in at most the given number of steps. -/
def argumentsOf? (registry : Registry) (declaring : String) :
    Nat → TypeDecl → List TypeExpr → Option (List TypeExpr)
  | 0, decl, actuals => if decl.name = declaring then some actuals else none
  | steps + 1, decl, actuals =>
      if decl.name = declaring then some actuals
      else
        decl.clauses.findSome? fun clause =>
          match registry.parent? clause with
          | some parent =>
              registry.argumentsOf? declaring steps parent
                (decl.clauseArguments actuals clause parent)
          | none => none

def bindings? (registry : Registry) (declaring : String) (context : TypeDecl) :
    Option (List TypeExpr) :=
  registry.argumentsOf? declaring longestPath context context.erasedParameters

/-- The walk along the paths of clauses; none if it never ends, because the parameters of a type or
the arguments of a clause on its way have no erasure. -/
def searchArguments? (registry : Registry) (declaring : String) :
    Nat → TypeDecl → List TypeExpr → Option (Option (List TypeExpr))
  | 0, decl, actuals => some (if decl.name = declaring then some actuals else none)
  | steps + 1, decl, actuals =>
      if decl.name = declaring then some (some actuals)
      else
        decl.clauses.findSomeM? fun clause =>
          match registry.parent? clause with
          | some parent => do
              let handed ← decl.clauseArguments? actuals clause parent
              registry.searchArguments? declaring steps parent handed
          | none => some none

/-- The walk from the context, whose own parameters are erased before it begins. -/
def searchBindings? (registry : Registry) (declaring : String) (context : TypeDecl) :
    Option (Option (List TypeExpr)) := do
  let actuals ← context.erasedParameters?
  registry.searchArguments? declaring longestPath context actuals

end Registry

/-- A way to see the type of a member of `declaring` from `context`. -/
abbrev TypeResolver : Type :=
  Registry → (declared : TypeExpr) → (declaring context : TypeDecl) → TypeExpr

namespace TypeResolver

/-- Bind type variables along the clauses from the context to the declaring
type, and erase what is left in the declaring type. -/
def generic : TypeResolver := fun registry declared declaring context =>
  if declared.isErased then declared
  else
    match registry.bindings? declaring.name context with
    | some actuals => declaring.erase (declaring.substitute actuals declared)
    | none => declaring.erase declared

/-- The same resolution as it runs; none if a search in it never ends. -/
def generic? (registry : Registry) (declared : TypeExpr) (declaring context : TypeDecl) :
    Option TypeExpr :=
  if declared.isErased then some declared
  else do
    match ← registry.searchBindings? declaring.name context with
    | some actuals => declaring.erase? (declaring.substitute actuals declared)
    | none => declaring.erase? declared

def asDeclared : TypeResolver := fun _ declared _ _ => declared

def erasing : TypeResolver := fun _ declared declaring _ => declaring.erase declared

end TypeResolver

end Introspection
