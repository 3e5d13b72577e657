import Introspection.Json

/-!
# Reading JSON

A strict reader: nothing but the grammar of JSON is accepted, so no trailing
commas, comments, bare control characters in strings, or leading zeros. Each
reader takes the characters that are left and gives back what it leaves. A value
nests at most as deep as its text is long, which bounds the recursion.
-/

set_option autoImplicit false

namespace Introspection.Json

def skipBlanks : List Char → List Char
  | ' ' :: rest | '\t' :: rest | '\n' :: rest | '\r' :: rest => skipBlanks rest
  | chars => chars

def afterWord? : List Char → List Char → Option (List Char)
  | [], chars => some chars
  | letter :: word, char :: chars => if letter = char then afterWord? word chars else none
  | _ :: _, [] => none

def hexValue? (char : Char) : Option Nat :=
  if '0' ≤ char ∧ char ≤ '9' then some (char.toNat - '0'.toNat)
  else if 'a' ≤ char ∧ char ≤ 'f' then some (char.toNat - 'a'.toNat + 10)
  else if 'A' ≤ char ∧ char ≤ 'F' then some (char.toNat - 'A'.toNat + 10)
  else none

def hexUnit? : List Char → Option (Nat × List Char)
  | first :: second :: third :: fourth :: rest =>
      match hexValue? first, hexValue? second, hexValue? third, hexValue? fourth with
      | some a, some b, some c, some d => some (((a * 16 + b) * 16 + c) * 16 + d, rest)
      | _, _, _, _ => none
  | _ => none

/-- One unit of a string: an ordinary character, or a 16-bit unit of an escape. -/
inductive TextUnit where
  | char (char : Char)
  | escaped (unit : Nat)

def shortEscape? : Char → Option Char
  | '"' => some '"'
  | '\\' => some '\\'
  | '/' => some '/'
  | 'b' => some '\x08'
  | 'f' => some '\x0c'
  | 'n' => some '\n'
  | 'r' => some '\r'
  | 't' => some '\t'
  | _ => none

/-- The units of a string up to its closing quote, in reverse. -/
def textUnits? : Nat → List TextUnit → List Char → Option (List TextUnit × List Char)
  | 0, _, _ => none
  | _ + 1, units, '"' :: rest => some (units, rest)
  | bound + 1, units, '\\' :: 'u' :: rest =>
      match hexUnit? rest with
      | some (unit, left) => textUnits? bound (.escaped unit :: units) left
      | none => none
  | bound + 1, units, '\\' :: letter :: rest =>
      match shortEscape? letter with
      | some char => textUnits? bound (.char char :: units) rest
      | none => none
  | bound + 1, units, char :: rest =>
      if char = '\\' ∨ char.toNat < 0x20 then none
      else textUnits? bound (.char char :: units) rest
  | _ + 1, _, [] => none

/-- The text of the units, in order. A high surrogate must be followed by a low
one, and a low one must follow a high one. -/
def spelt? : List TextUnit → Option (List Char)
  | [] => some []
  | .char char :: rest => (spelt? rest).map (char :: ·)
  | [.escaped unit] =>
      if 0xD800 ≤ unit ∧ unit < 0xE000 then none else some [Char.ofNat unit]
  | .escaped high :: .escaped low :: rest =>
      if 0xD800 ≤ high ∧ high < 0xDC00 then
        if 0xDC00 ≤ low ∧ low < 0xE000 then
          (spelt? rest).map
            (Char.ofNat (0x10000 + (high - 0xD800) * 0x400 + (low - 0xDC00)) :: ·)
        else none
      else if 0xDC00 ≤ high ∧ high < 0xE000 then none
      else (spelt? (.escaped low :: rest)).map (Char.ofNat high :: ·)
  | .escaped unit :: .char char :: rest =>
      if 0xD800 ≤ unit ∧ unit < 0xE000 then none
      else (spelt? rest).map (fun chars => Char.ofNat unit :: char :: chars)

def text? (chars : List Char) : Option (Option String × List Char) :=
  (textUnits? (chars.length + 1) [] chars).map fun result =>
    ((spelt? result.1.reverse).map String.ofList, result.2)

def afterDigits? (chars : List Char) : Option (List Char) :=
  match chars with
  | char :: rest => if char.isDigit then some (rest.dropWhile Char.isDigit) else none
  | [] => none

/-- The characters after the digits of a whole number, which has no leading zero. -/
def afterWhole? : List Char → Option (List Char)
  | '0' :: rest =>
      match rest with
      | char :: _ => if char.isDigit then none else some rest
      | [] => some rest
  | chars => afterDigits? chars

def afterFraction? : List Char → Option (List Char)
  | '.' :: rest => afterDigits? rest
  | chars => some chars

def afterExponent? : List Char → Option (List Char)
  | 'e' :: '+' :: rest | 'e' :: '-' :: rest | 'E' :: '+' :: rest | 'E' :: '-' :: rest =>
      afterDigits? rest
  | 'e' :: rest | 'E' :: rest => afterDigits? rest
  | chars => some chars

def number? (chars : List Char) : Option (Json × List Char) := do
  let unsigned := match chars with
    | '-' :: rest => rest
    | _ => chars
  let rest ← (afterWhole? unsigned).bind afterFraction? >>= afterExponent?
  return (.number (String.ofList (chars.take (chars.length - rest.length))), rest)

mutual

def value? : Nat → List Char → Option (Json × List Char)
  | 0, _ => none
  | bound + 1, chars =>
      match skipBlanks chars with
      | '"' :: rest => (text? rest).map fun result => (.string result.1, result.2)
      | '[' :: rest =>
          match skipBlanks rest with
          | ']' :: left => some (.array [], left)
          | left => (items? bound left).map fun result => (.array result.1, result.2)
      | '{' :: rest =>
          match skipBlanks rest with
          | '}' :: left => some (.object [], left)
          | left => (members? bound left).map fun result => (.object result.1, result.2)
      | 'n' :: rest => (afterWord? "ull".toList rest).map fun left => (.null, left)
      | 't' :: rest => (afterWord? "rue".toList rest).map fun left => (.bool true, left)
      | 'f' :: rest => (afterWord? "alse".toList rest).map fun left => (.bool false, left)
      | left => number? left

/-- The items of an array up to its closing bracket; there is at least one. -/
def items? : Nat → List Char → Option (List Json × List Char)
  | 0, _ => none
  | bound + 1, chars =>
      match value? bound chars with
      | some (item, rest) =>
          match skipBlanks rest with
          | ',' :: left => (items? bound left).map fun result => (item :: result.1, result.2)
          | ']' :: left => some ([item], left)
          | _ => none
      | none => none

/-- The members of an object up to its closing brace; there is at least one. -/
def members? : Nat → List Char → Option (List (Option String × Json) × List Char)
  | 0, _ => none
  | bound + 1, chars =>
      match skipBlanks chars with
      | '"' :: quoted =>
          match text? quoted with
          | some (key, afterKey) =>
              match skipBlanks afterKey with
              | ':' :: rest =>
                  match value? bound rest with
                  | some (value, afterValue) =>
                      match skipBlanks afterValue with
                      | ',' :: left =>
                          (members? bound left).map fun result =>
                            ((key, value) :: result.1, result.2)
                      | '}' :: left => some ([(key, value)], left)
                      | _ => none
                  | none => none
              | _ => none
          | none => none
      | _ => none

end

/-- The value that a text consists of, white space around it aside. -/
def ofText? (text : String) : Option Json :=
  match value? (2 * text.toList.length + 2) text.toList with
  | some (value, rest) => if (skipBlanks rest).isEmpty then some value else none
  | none => none

end Introspection.Json
