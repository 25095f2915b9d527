import BoundSql.Decimal.Notation

/-!
# JSON values

JSON values with the fields of an object in order, repeated keys included, and the text that
stands for a value: without blanks, in which every character of a string other than quotes,
backslashes and control characters stands for itself.
-/

namespace BoundSql

open Decimal

/-- A number: one written without fraction and exponent is an integer if it is one of the 64-bit
integers with or without sign, any other number is a double. -/
inductive JsonNumber where
  | int (n : Int)
  | real (x : Double)
deriving DecidableEq

/-- A JSON value. -/
inductive Json where
  | null
  | bool (b : Bool)
  | num (n : JsonNumber)
  | str (s : String)
  | arr (items : List Json)
  | obj (fields : List (String × Json))

namespace Json

/-- Whether a whole number is one of the 64-bit integers, with or without sign. -/
def isWord (n : Int) : Bool :=
  -9223372036854775808 ≤ n && n < 18446744073709551616

/-- The text of an integer. -/
def intText : Int → List Char
  | .ofNat n => Nat.toDigits 10 n
  | .negSucc n => '-' :: Nat.toDigits 10 (n + 1)

/-- The text of a number. There is no text for infinities and for not-a-number, so `null` stands
for these. -/
def numberText : JsonNumber → List Char
  | .int n => intText n
  | .real x => if x.isFinite then x.text else ['n', 'u', 'l', 'l']

/-- One character inside a JSON string. -/
def escapeChar (c : Char) : List Char :=
  match c with
  | '"' => ['\\', '"']
  | '\\' => ['\\', '\\']
  | '\x08' => ['\\', 'b']
  | '\x0c' => ['\\', 'f']
  | '\n' => ['\\', 'n']
  | '\r' => ['\\', 'r']
  | '\t' => ['\\', 't']
  | c =>
    if c.toNat < 0x20 then
      ['\\', 'u', '0', '0', Nat.digitChar (c.toNat / 16), Nat.digitChar (c.toNat % 16)]
    else [c]

/-- The text of a string. -/
def stringText (s : String) : List Char :=
  '"' :: s.toList.flatMap escapeChar ++ ['"']

mutual
/-- The text of a value. -/
def chars : Json → List Char
  | .null => ['n', 'u', 'l', 'l']
  | .bool true => ['t', 'r', 'u', 'e']
  | .bool false => ['f', 'a', 'l', 's', 'e']
  | .num n => numberText n
  | .str s => stringText s
  | .arr [] => ['[', ']']
  | .arr (v :: vs) => '[' :: v.chars ++ charsTail vs
  | .obj [] => ['\x7b', '\x7d']
  | .obj ((k, v) :: fs) => '\x7b' :: stringText k ++ ':' :: v.chars ++ charsFields fs

/-- The items after the first, with the bracket that closes them. -/
def charsTail : List Json → List Char
  | [] => [']']
  | v :: vs => ',' :: v.chars ++ charsTail vs

/-- The fields after the first, with the brace that closes them. -/
def charsFields : List (String × Json) → List Char
  | [] => ['\x7d']
  | (k, v) :: fs => ',' :: stringText k ++ ':' :: v.chars ++ charsFields fs
end

/-- The text of a value. -/
def text (j : Json) : String := String.ofList j.chars

end Json

end BoundSql
