import Introspection.Text.VisibleTable

/-!
# Quoted text

A text in double quotes, with every character that would not be seen as itself
written as an escape: the usual short escapes where there is one, and the
character's hexadecimal number in `\u{…}` otherwise.
-/

set_option autoImplicit false

namespace Introspection.Text

def inRanges (ranges : List (Nat × Nat)) (code : Nat) : Bool :=
  ranges.any (fun range => range.1 ≤ code && code ≤ range.2)

/-- Whether a character is seen as itself when it stands alone. -/
def isVisible (char : Char) : Bool :=
  if char.toNat < 128 then 32 ≤ char.toNat && char.toNat < 127
  else !inRanges glyphlessRanges char.toNat && !inRanges combiningRanges char.toNat

def quotedChar (char : Char) : List Char :=
  match char with
  | '"' => ['\\', '"']
  | '\\' => ['\\', '\\']
  | '\n' => ['\\', 'n']
  | '\r' => ['\\', 'r']
  | '\t' => ['\\', 't']
  | '\x00' => ['\\', '0']
  | other =>
      if isVisible other then [other]
      else "\\u\x7b".toList ++ Nat.toDigits 16 other.toNat ++ ['\x7d']

def quoted (text : String) : String :=
  String.ofList ('"' :: text.toList.flatMap quotedChar ++ ['"'])

end Introspection.Text
