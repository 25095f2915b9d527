import BoundSql.Json.Draft

/-!
# Numerals

The numbers of a JSON text: a sign, digits without superfluous zeros, and perhaps a fraction and
an exponent.
-/

namespace BoundSql

open Decimal

/-- A number as it is written. -/
structure Numeral where
  negative : Bool
  whole : List Char
  fraction? : Option (List Char)
  exponent? : Option Int

namespace Numeral

/-- The digits at the start of a text, of which there has to be one, and the rest of the text. -/
def digits : List Char → Except Fault (List Char × List Char)
  | [] => .error .truncated
  | c :: cs =>
    if c.isDigit then .ok (c :: cs.takeWhile Char.isDigit, cs.dropWhile Char.isDigit)
    else .error .malformed

/-- The whole part: a zero is not followed by another digit. -/
def wholeDigits (cs : List Char) : Except Fault (List Char × List Char) :=
  match cs with
  | '0' :: c :: rest => if c.isDigit then .error .malformed else .ok (['0'], c :: rest)
  | cs => digits cs

/-- The fraction, if there is one. -/
def fractionDigits (cs : List Char) : Except Fault (Option (List Char) × List Char) :=
  match cs with
  | '.' :: rest => do
    let (ds, rest) ← digits rest
    pure (some ds, rest)
  | cs => .ok (none, cs)

/-- The sign of an exponent, and the rest of the text. -/
def exponentSign (cs : List Char) : Bool × List Char :=
  match cs with
  | '-' :: rest => (true, rest)
  | '+' :: rest => (false, rest)
  | cs => (false, cs)

/-- A whole number from its sign and digits. -/
def signed (negative : Bool) (ds : List Char) : Int :=
  let n : Nat := Nat.ofDigitChars 10 ds 0
  if negative then -n else n

/-- The exponent, if there is one. -/
def exponentPart (cs : List Char) : Except Fault (Option Int × List Char) :=
  match cs with
  | [] => .ok (none, [])
  | c :: rest =>
    if c = 'e' ∨ c = 'E' then do
      let (negative, rest) := exponentSign rest
      let (ds, rest) ← digits rest
      pure (some (signed negative ds), rest)
    else .ok (none, c :: rest)

/-- The number at the start of a text, and the rest of the text. -/
def read (cs : List Char) : Except Fault (Numeral × List Char) := do
  let (negative, cs) := match cs with
    | '-' :: rest => (true, rest)
    | cs => (false, cs)
  let (whole, cs) ← wholeDigits cs
  let (fraction?, cs) ← fractionDigits cs
  let (exponent?, cs) ← exponentPart cs
  pure ({ negative, whole, fraction?, exponent? }, cs)

/-- The number that is written, or `none` beyond the largest double. A zero with a minus sign is a
double, since no integer is a negative zero. -/
def number? (n : Numeral) : Option JsonNumber :=
  match n.fraction?, n.exponent? with
  | none, none =>
    let i := signed n.negative n.whole
    if Json.isWord i ∧ ¬ (n.negative = true ∧ i = 0) then some (.int i)
    else (Double.ofDecimal? n.negative i.natAbs 0).map .real
  | fraction?, exponent? =>
    let fraction := fraction?.getD []
    let mantissa := Nat.ofDigitChars 10 (n.whole ++ fraction) 0
    let exponent := exponent?.getD 0 - fraction.length
    (Double.ofDecimal? n.negative mantissa exponent).map .real

end Numeral

end BoundSql
