import Introspection.Accessor
import Introspection.OrderedMap
import Introspection.Text.Case

/-!
# Property tables

What is known about the properties of one type. Accessors and types are kept in
maps of their own, one for reading and one for writing, and the lists of names
and the table of spellings are made from the accessors once the maps are full.
Each query looks at one of them only.
-/

set_option autoImplicit false

namespace Introspection

/-- What is collected about properties while a table is built. -/
structure Properties where
  getters : OrderedMap String Accessor
  setters : OrderedMap String Accessor
  getterTypes : OrderedMap String TypeExpr
  setterTypes : OrderedMap String TypeExpr

namespace Properties

def empty : Properties := ⟨.empty, .empty, .empty, .empty⟩

def insertGetter (found : Properties) (property : String) (accessor : Accessor)
    (type : TypeExpr) : Properties :=
  { found with
    getterTypes := found.getterTypes.insert property type
    getters := found.getters.insert property accessor }

def insertSetter (found : Properties) (property : String) (accessor : Accessor)
    (type : TypeExpr) : Properties :=
  { found with
    setterTypes := found.setterTypes.insert property type
    setters := found.setters.insert property accessor }

end Properties

structure PropertyTable extends Properties where
  decl : TypeDecl
  /-- The registry and the permissions that every accessor of the table uses. -/
  access : Access
  readable : List String
  writable : List String
  /-- The constructor without parameters, if there is one. -/
  defaultConstructor : Option Constructor
  /-- Each listed name under its upper-case form. -/
  aliases : OrderedMap (List Char) String

namespace PropertyTable

/-- Enter names under their upper-case forms; a later name replaces an earlier one. -/
def aliasesOf (names : List String) : OrderedMap (List Char) String :=
  names.foldl (fun entered name => entered.insert (Text.upper name.toList) name) .empty

/-- The table for what has been collected about a type. -/
def ofProperties (decl : TypeDecl) (access : Access) (found : Properties) : PropertyTable where
  toProperties := found
  decl := decl
  access := access
  readable := found.getters.keys
  writable := found.setters.keys
  defaultConstructor := decl.defaultConstructor?
  aliases := aliasesOf (found.getters.keys ++ found.setters.keys)

def typeName (table : PropertyTable) : String := table.decl.name

/-- The entry of a property in one of the maps; it is an error when there is none. -/
def require {α : Type} (table : PropertyTable) (side : Side) (entries : OrderedMap String α)
    (property : String) : Except MetadataError α :=
  match entries.get? property with
  | some found => .ok found
  | none => .error (.noSuchProperty side property table.typeName)

def getter (table : PropertyTable) (property : String) : Except MetadataError Accessor :=
  table.require .getter table.getters property

def setter (table : PropertyTable) (property : String) : Except MetadataError Accessor :=
  table.require .setter table.setters property

def getterType (table : PropertyTable) (property : String) : Except MetadataError TypeExpr :=
  table.require .getter table.getterTypes property

def setterType (table : PropertyTable) (property : String) : Except MetadataError TypeExpr :=
  table.require .setter table.setterTypes property

def hasGetter (table : PropertyTable) (property : String) : Bool := table.getters.contains property

def hasSetter (table : PropertyTable) (property : String) : Bool := table.setters.contains property

/-- The property meant by a name in any letter case. -/
def findName? (table : PropertyTable) (name : String) : Option String :=
  table.aliases.get? (Text.upper name.toList)

def requireConstructor (table : PropertyTable) : Except MetadataError Constructor :=
  match table.defaultConstructor with
  | some constructor => .ok constructor
  | none => .error (.noDefaultConstructor table.typeName)

def construct (table : PropertyTable) (constructor : Constructor) : Action ObjectRef :=
  table.access.construct table.typeName constructor

end PropertyTable

end Introspection
