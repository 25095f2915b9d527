import BoundSql.Text.HiddenTable

/-!
# Quoted text

How a message shows a text that it found: between double quotes, with a backslash before a quote
or a backslash, short escapes for the usual control characters, and the code point of every
character that could not be seen otherwise.
-/

namespace BoundSql.Text

/-- Whether a character cannot be shown as it is. -/
def isHidden (c : Char) : Bool :=
  (hiddenBoundaries.takeWhile (· ≤ c.toNat)).length % 2 == 1

/-- One character inside double quotes. -/
def quotedChar (c : Char) : List Char :=
  match c with
  | '"' => ['\\', '"']
  | '\\' => ['\\', '\\']
  | '\n' => ['\\', 'n']
  | '\r' => ['\\', 'r']
  | '\t' => ['\\', 't']
  | '\x00' => ['\\', '0']
  | c => if isHidden c then ['\\', 'u', '\x7b'] ++ Nat.toDigits 16 c.toNat ++ ['\x7d'] else [c]

/-- A text as a message shows it. -/
def quoted (s : String) : String :=
  String.ofList ('"' :: s.toList.flatMap quotedChar ++ ['"'])

end BoundSql.Text
