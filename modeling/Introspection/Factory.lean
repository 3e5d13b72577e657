import Introspection.Config
import Introspection.PropertyTable.Build

/-!
# Factories

A factory hands out property tables by type name. While caching is on, each type
has a cell: the first request that builds its table fills the cell, and from
then on every request is answered with that very table. A build that fails leaves
the cell empty. While caching is off, every request builds a table of its own and
the cells stay as they are.

A request goes through separate steps (`isCacheEnabled`, `reserve`, `fill` or
`buildNew`), between which other requests may come.
-/

set_option autoImplicit false

namespace Introspection

/-- A table as it was handed out; the serial number tells which build it came from. -/
structure IssuedTable where
  serial : Nat
  table : PropertyTable

structure Factory where
  builder : TableBuilder
  isCacheEnabled : Bool
  /-- The cell of every type that was asked for while caching was on. -/
  cells : OrderedMap String (Option IssuedTable)
  /-- The number of tables built so far. -/
  builds : Nat

namespace Factory

/-- A factory with a given builder; caching is on. -/
def ofBuilder (builder : TableBuilder) : Factory := ⟨builder, true, .empty, 0⟩

def ofConfig (registry : Registry) (config : Config) : Factory :=
  { ofBuilder { TableBuilder.ofRegistry registry with permissions := config.permissions } with
    isCacheEnabled := config.isCacheEnabled }

def ofRegistry (registry : Registry) : Factory := ofConfig registry .default

/-- Turn caching on or off; filled cells stay filled. -/
def setCacheEnabled (factory : Factory) (enabled : Bool) : Factory :=
  { factory with isCacheEnabled := enabled }

/-- Build a table that is kept nowhere. -/
def buildNew (factory : Factory) (name : String) : Except MetadataError IssuedTable × Factory :=
  match factory.builder.build name with
  | .ok table => (.ok ⟨factory.builds, table⟩, { factory with builds := factory.builds + 1 })
  | .error error => (.error error, factory)

/-- Make sure that the type has a cell. -/
def reserve (factory : Factory) (name : String) : Factory :=
  { factory with cells := factory.cells.insertIfNew name none }

def cached? (factory : Factory) (name : String) : Option IssuedTable :=
  (factory.cells.get? name).join

/-- Answer from the cell of the type, building its table first if the cell is empty. -/
def fill (factory : Factory) (name : String) : Except MetadataError IssuedTable × Factory :=
  match factory.cached? name with
  | some issued => (.ok issued, factory)
  | none =>
      match factory.buildNew name with
      | (.ok issued, after) =>
          (.ok issued, { after with cells := after.cells.insert name (some issued) })
      | (.error error, after) => (.error error, after)

def find (factory : Factory) (name : String) : Except MetadataError IssuedTable × Factory :=
  if factory.isCacheEnabled then (factory.reserve name).fill name else factory.buildNew name

def cachedCount (factory : Factory) : Nat :=
  (factory.cells.values.filter Option.isSome).length

end Factory

end Introspection
