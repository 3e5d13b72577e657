/-!
# Modifiers

The flags on a type or member. A set of flags is a 16-bit word in which every
flag has a fixed place, so `bits` is the number that the word spells.
-/

set_option autoImplicit false

namespace Introspection

inductive Modifier where
  | publicAccess
  | privateAccess
  | protectedAccess
  | static
  | final
  /-- Written by the compiler to stand for a covariant or generic override. -/
  | bridge
  | abstract
  /-- Written by the compiler. -/
  | synthetic
  deriving DecidableEq

namespace Modifier

def all : List Modifier :=
  [publicAccess, privateAccess, protectedAccess, static, final, bridge, abstract, synthetic]

def place : Modifier → Nat
  | publicAccess => 0
  | privateAccess => 1
  | protectedAccess => 2
  | static => 3
  | final => 4
  | bridge => 6
  | abstract => 10
  | synthetic => 12

def name : Modifier → String
  | publicAccess => "public"
  | privateAccess => "private"
  | protectedAccess => "protected"
  | static => "static"
  | final => "final"
  | bridge => "bridge"
  | abstract => "abstract"
  | synthetic => "synthetic"

def ofName? (text : String) : Option Modifier := all.find? (fun flag => flag.name == text)

end Modifier

structure Modifiers where
  /-- The word with a one at the place of each member. -/
  word : BitVec 16
  deriving DecidableEq

namespace Modifiers

/-- No flag: an instance member visible in its own package. -/
def empty : Modifiers := ⟨0⟩

def single (flag : Modifier) : Modifiers := ⟨BitVec.twoPow 16 flag.place⟩

def union (left right : Modifiers) : Modifiers := ⟨left.word ||| right.word⟩

def ofList (flags : List Modifier) : Modifiers :=
  flags.foldl (fun set flag => set.union (single flag)) empty

def contains (left right : Modifiers) : Bool := left.word &&& right.word == right.word

def has (modifiers : Modifiers) (flag : Modifier) : Bool := modifiers.contains (single flag)

/-- The number that the word spells. -/
def bits (modifiers : Modifiers) : Nat := modifiers.word.toNat

def isPublic (modifiers : Modifiers) : Bool := modifiers.has .publicAccess

def isPrivate (modifiers : Modifiers) : Bool := modifiers.has .privateAccess

def isStatic (modifiers : Modifiers) : Bool := modifiers.has .static

def isFinal (modifiers : Modifiers) : Bool := modifiers.has .final

def isAbstract (modifiers : Modifiers) : Bool := modifiers.has .abstract

/-- Written by the compiler: a bridge or a synthetic member. -/
def isGenerated (modifiers : Modifiers) : Bool :=
  modifiers.has .bridge || modifiers.has .synthetic

def publicOnly : Modifiers := single .publicAccess

def privateOnly : Modifiers := single .privateAccess

def publicAbstract : Modifiers := ofList [.publicAccess, .abstract]

end Modifiers

end Introspection
