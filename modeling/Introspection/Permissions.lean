import Introspection.Text.Blank
import Introspection.Text.Case

/-!
# Permissions

What an accessor may touch: fields to read, fields to write and methods to
invoke, each for public and for other members. A permission set is a word of
six flags. It is written as flag names, or as numbers, joined by bars; `read`
accepts exactly those texts, in any letter case, with white space around each
part.
-/

set_option autoImplicit false

namespace Introspection

/-- A set of the six access flags. -/
structure Permissions where
  /-- The word with a one at the place of each flag. -/
  word : BitVec 6
  deriving DecidableEq

inductive PermissionError where
  | malformed (text : String)
  deriving DecidableEq

def PermissionError.message : PermissionError → String
  | malformed text => "invalid reflection permission '" ++ text ++ "'"

namespace Permissions

def empty : Permissions := ⟨0x00⟩
def readPublic : Permissions := ⟨0x01⟩
def readPrivate : Permissions := ⟨0x02⟩
def writePublic : Permissions := ⟨0x04⟩
def writePrivate : Permissions := ⟨0x08⟩
def invokePublic : Permissions := ⟨0x10⟩
def invokePrivate : Permissions := ⟨0x20⟩
def readAll : Permissions := ⟨0x03⟩
def writeAll : Permissions := ⟨0x0C⟩
def invokeAll : Permissions := ⟨0x30⟩
def publicOnly : Permissions := ⟨0x15⟩
def privateAll : Permissions := ⟨0x2A⟩
def all : Permissions := ⟨0x3F⟩

/-- The written names. A set with several names is shown by the first. -/
def names : List (String × Permissions) :=
  [("NONE", empty), ("READ_PUBLIC", readPublic), ("READ_PRIVATE", readPrivate),
    ("WRITE_PUBLIC", writePublic), ("WRITE_PRIVATE", writePrivate),
    ("INVOKE_PUBLIC", invokePublic), ("INVOKE_PRIVATE", invokePrivate),
    ("READ_ALL", readAll), ("WRITE_ALL", writeAll), ("INVOKE_ALL", invokeAll),
    ("PUBLIC_ONLY", publicOnly), ("PRIVATE_ALL", privateAll), ("ALL", all),
    ("FULL_ACCESS", all)]

/-- The set spelt by the lowest six bits of a number; higher bits are dropped. -/
def ofBits (bits : Nat) : Permissions := ⟨BitVec.ofNat 6 bits⟩

def bits (permissions : Permissions) : Nat := permissions.word.toNat

def contains (left right : Permissions) : Bool := left.word &&& right.word == right.word

def union (left right : Permissions) : Permissions := ⟨left.word ||| right.word⟩

def difference (left right : Permissions) : Permissions := ⟨left.word &&& ~~~right.word⟩

def allowsRead (permissions : Permissions) (isPublic : Bool) : Bool :=
  permissions.contains (if isPublic then readPublic else readPrivate)

def allowsWrite (permissions : Permissions) (isPublic : Bool) : Bool :=
  permissions.contains (if isPublic then writePublic else writePrivate)

def allowsInvoke (permissions : Permissions) (isPublic : Bool) : Bool :=
  permissions.contains (if isPublic then invokePublic else invokePrivate)

/-- Whether every check on non-public members is lifted. -/
def controlsNonPublic (permissions : Permissions) : Bool := permissions.contains privateAll

def twoHexDigits (number : Nat) : String :=
  String.ofList [(Nat.digitChar (number / 16)).toUpper, (Nat.digitChar (number % 16)).toUpper]

/-- The written form: a name where there is one, else the hexadecimal bits. -/
def text (permissions : Permissions) : String :=
  match names.find? (fun entry => entry.2 == permissions) with
  | some entry => entry.1
  | none => "0x" ++ twoHexDigits permissions.bits

/-- The value of an upper-case digit, up to `F`. -/
def digitValue? (char : Char) : Option Nat :=
  if '0' ≤ char ∧ char ≤ '9' then some (char.toNat - '0'.toNat)
  else if 'A' ≤ char ∧ char ≤ 'F' then some (char.toNat - 'A'.toNat + 10)
  else none

/-- The number spelt by digits that continue `value`. -/
def digits? (base value : Nat) : List Char → Option Nat
  | [] => some value
  | char :: rest =>
      match digitValue? char with
      | some digit => if digit < base then digits? base (value * base + digit) rest else none
      | none => none

/-- A number below 256: a plus sign or none, and at least one digit. -/
def byte? (base : Nat) (chars : List Char) : Option Nat :=
  let unsigned := match chars with
    | '+' :: rest => rest
    | _ => chars
  if unsigned.isEmpty then none
  else (digits? base 0 unsigned).filter (· < 256)

/-- The set that one upper-case part stands for: a name, a hexadecimal number
after `0X`, or a decimal number. -/
def ofUpper? (chars : List Char) : Option Permissions :=
  match names.find? (fun entry => entry.1.toList == chars) with
  | some entry => some entry.2
  | none =>
      match chars with
      | '0' :: 'X' :: hexadecimal => (byte? 16 hexadecimal).map ofBits
      | _ => (byte? 10 chars).map ofBits

def ofPart? (chars : List Char) : Option Permissions := ofUpper? (Text.upper (Text.trim chars))

/-- The parts between bars; a text without bars is one part. -/
def parts : List Char → List (List Char)
  | [] => [[]]
  | char :: rest =>
      if char = '|' then [] :: parts rest
      else
        match parts rest with
        | [] => [[char]]
        | first :: others => (char :: first) :: others

/-- The union of the sets that the parts stand for; each part must stand for one. -/
def unionOf? : List (List Char) → Option Permissions
  | [] => some empty
  | part :: rest =>
      match ofPart? part, unionOf? rest with
      | some first, some others => some (first.union others)
      | _, _ => none

def single? (text : String) : Option Permissions := ofPart? text.toList

def combined? (text : String) : Option Permissions := unionOf? (parts text.toList)

/-- The set written as parts joined by bars, or the reason why there is none. -/
def read (text : String) : Except PermissionError Permissions :=
  match combined? text with
  | some permissions => .ok permissions
  | none => .error (.malformed text)

end Permissions

end Introspection
