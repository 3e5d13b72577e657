import Introspection.Json.Reader
import Introspection.Permissions

/-!
# Configuration

The settings of a factory, read from JSON: an object with the members
`class_cache_enabled` and `permissions`, or an array with these two values in
this order. What is absent has its default; members of other names are ignored.
A setting of the wrong type, or given twice, makes the configuration invalid.
-/

set_option autoImplicit false

namespace Introspection

structure Config where
  /-- Whether tables are kept and handed out again. -/
  isCacheEnabled : Bool
  /-- What the accessors of the tables may touch. -/
  permissions : Permissions
  deriving DecidableEq

namespace Config

/-- Tables are kept, and everything is permitted. -/
def default : Config := ⟨true, .all⟩

def cacheKey : String := "class_cache_enabled"

def permissionsKey : String := "permissions"

def flag? : Json → Option Bool
  | .bool flag => some flag
  | _ => none

def permissions? : Json → Option Permissions
  | .string (some text) => Permissions.combined? text
  | _ => none

/-- A setting read from the members with its name: its default when there is
none, its value when there is one. -/
def setting? {α : Type} (members : List (Option String × Json)) (key : String) (default : α)
    (read : Json → Option α) : Option α :=
  match members.filter (fun entry => entry.1 == some key) with
  | [] => some default
  | [entry] => read entry.2
  | _ => none

def ofJson? : Json → Option Config
  | .object members =>
      if members.all (fun entry => entry.1.isSome) then
        match setting? members cacheKey default.isCacheEnabled flag?,
          setting? members permissionsKey default.permissions permissions? with
        | some flag, some permissions => some ⟨flag, permissions⟩
        | _, _ => none
      else none
  | .array [] => some default
  | .array [first] => (flag? first).map fun flag => ⟨flag, default.permissions⟩
  | .array [first, second] =>
      match flag? first, permissions? second with
      | some flag, some permissions => some ⟨flag, permissions⟩
      | _, _ => none
  | _ => none

def ofText? (text : String) : Option Config := (Json.ofText? text).bind ofJson?

def text (config : Config) : String :=
  "\x7b\"" ++ cacheKey ++ "\":" ++ (if config.isCacheEnabled then "true" else "false") ++ ",\"" ++
    permissionsKey ++ "\":\"" ++ config.permissions.text ++ "\"\x7d"

end Config

end Introspection
