import Introspection.Factory
import Introspection.Text.Quoted

/-!
# Inspection

One-line descriptions of builders, factories, methods and constructors for
diagnostics: the name of a structure, then its fields in braces.
-/

set_option autoImplicit false

namespace Introspection.Inspection

def bracketed (items : List String) : String := "[" ++ TypeExpr.commaSeparated items ++ "]"

def record (name : String) (fields : List (String × String)) : String :=
  name ++ " \x7b " ++
    TypeExpr.commaSeparated (fields.map fun field => field.1 ++ ": " ++ field.2) ++ " \x7d"

def tagged (name item : String) : String := name ++ "(" ++ item ++ ")"

def flag (value : Bool) : String := if value then "true" else "false"

def primitive : Primitive → String
  | .boolean => "Boolean"
  | .byte => "Byte"
  | .short => "Short"
  | .int => "Int"
  | .long => "Long"
  | .float => "Float"
  | .double => "Double"
  | .char => "Char"

mutual

def type : TypeExpr → String
  | .void => "Void"
  | .primitive kind => tagged "Primitive" (primitive kind)
  | .named name => tagged "Class" (Text.quoted name)
  | .array element => tagged "Array" (type element)
  | .applied raw arguments =>
      record "Parameterized" [("raw", Text.quoted raw), ("args", bracketed (types arguments))]
  | .var name => tagged "Variable" (Text.quoted name)

def types : List TypeExpr → List String
  | [] => []
  | first :: rest => type first :: types rest

end

def modifiers (modifiers : Modifiers) : String := tagged "Modifiers" (toString modifiers.bits)

/-- A method; of its body only whether it has one. -/
def method (method : Method) : String :=
  record "MethodDescriptor" [("name", Text.quoted method.name),
    ("params", bracketed (types method.parameters)), ("return_type", type method.returns),
    ("modifiers", modifiers method.modifiers), ("declaring_type", Text.quoted method.declaring),
    ("has_body", flag method.body.isSome)]

/-- A constructor; of its initializer only whether it has one. -/
def constructor (constructor : Constructor) : String :=
  record "ConstructorDescriptor" [("params", bracketed (types constructor.parameters)),
    ("modifiers", modifiers constructor.modifiers),
    ("has_init", flag constructor.initializer.isSome)]

def constructors (decl : TypeDecl) : String := bracketed (decl.constructors.map constructor)

def builder (builder : TableBuilder) : String :=
  record "ReflectorBuilder" [("types", toString builder.registry.size),
    ("permissions", tagged "ReflectionPermission" (toString builder.permissions.bits))]

def factory (factory : Factory) : String :=
  record "DefaultReflectorFactory" [("class_cache_enabled", flag factory.isCacheEnabled),
    ("cached", toString factory.cachedCount)]

end Introspection.Inspection
