/-!
# JSON values

A JSON document as a value. Numbers keep their written form, since nothing here
counts with them. A string whose escapes spell no text, because one half of a
surrogate pair stands alone, is kept without its text.
-/

set_option autoImplicit false

namespace Introspection

inductive Json where
  | null
  | bool (flag : Bool)
  | number (written : String)
  | string (text : Option String)
  | array (items : List Json)
  /-- The members in the order in which they are written. -/
  | object (members : List (Option String × Json))
  deriving Inhabited

end Introspection
