import Introspection.Text.CaseTable

/-!
# Letter case

Full case mapping: a character may turn into several (`ß` becomes `SS`), and
the mapping looks at one character at a time, never at its neighbours. ASCII is
decided without the tables.
-/

set_option autoImplicit false

namespace Introspection.Text

/-- The member of `runs` reached from `code`, or `code` itself outside all runs. -/
def counterpart (runs : List (CodeRun × Int)) (code : Nat) : Nat :=
  match runs.find? (fun run => run.1.covers code) with
  | some run => (code + run.2).toNat
  | none => code

/-- The case form of a character outside ASCII, by its sequence when it has one. -/
def caseForm (sequences : List (Nat × List Nat)) (runs : List (CodeRun × Int))
    (char : Char) : List Char :=
  match sequences.find? (fun entry => entry.1 == char.toNat) with
  | some entry => entry.2.map Char.ofNat
  | none => [Char.ofNat (counterpart runs char.toNat)]

def upperChar (char : Char) : List Char :=
  if char.toNat < 128 then [char.toUpper]
  else caseForm toUpperSequences toUpperRuns char

def lowerChar (char : Char) : List Char :=
  if char.toNat < 128 then [char.toLower]
  else caseForm toLowerSequences toLowerRuns char

/-- Whether a character is an upper-case one; title-case letters are not. -/
def isUppercase (char : Char) : Bool :=
  if char.toNat < 128 then char.isUpper
  else uppercaseRuns.any (fun run => run.covers char.toNat)

def upper (chars : List Char) : List Char := chars.flatMap upperChar

end Introspection.Text
