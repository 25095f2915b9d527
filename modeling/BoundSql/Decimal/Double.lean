/-!
# Doubles

A double is its 64 bits. Without the sign, the finite doubles are numbered from zero upwards in
the order of their values, and the number of a double is just the rest of its bits; so rounding to
a double is finding a number on this scale.
-/

namespace BoundSql.Decimal

/-- `num / den` as a whole number, the nearest one, a half going to the even neighbour. -/
def roundHalfEven (num den : Nat) : Nat :=
  let q := num / den
  let r := num % den
  if 2 * r < den then q else if den < 2 * r then q + 1 else q + q % 2

/-- `num / den` in units of `2 ^ q`, as a fraction. -/
def scaled (num den : Nat) (q : Int) : Nat × Nat :=
  match q with
  | .ofNat n => (num, den * Nat.pow 2 n)
  | .negSucc n => (num * Nat.pow 2 (n + 1), den)

/-- The exponent of the last bit of a double near `num / den`: the one that leaves 53 bits, but
never one below the last bit of the smallest double. -/
def lastBit (num den : Nat) : Int :=
  let q := (num.log2 : Int) - den.log2 - 53
  let (a, b) := scaled num den q
  max (-1074) (if Nat.pow 2 53 * b ≤ a then q + 1 else q)

/-- The number, on the scale of doubles without sign, of the one nearest to `num / den`; of two
equally near the even one. -/
def nearest (num den : Nat) : Nat :=
  let q := lastBit num den
  let (a, b) := scaled num den q
  (q + 1074).toNat * Nat.pow 2 52 + roundHalfEven a b

/-- The place of infinity on the scale of doubles without sign: the finite ones are below it. -/
def infinityRank : Nat := 0x7FF0000000000000

/-- A double, as its 64 bits: sign, eleven bits of exponent, 52 bits of fraction. -/
structure Double where
  bits : UInt64
deriving DecidableEq

namespace Double

/-- Whether the sign bit is set. -/
def isNegative (x : Double) : Bool :=
  Nat.pow 2 63 ≤ x.bits.toNat

/-- The number of the double on the scale of doubles without sign. -/
def rank (x : Double) : Nat :=
  x.bits.toNat % Nat.pow 2 63

/-- Neither infinite nor not-a-number. -/
def isFinite (x : Double) : Bool :=
  x.rank < infinityRank

/-- The double with a sign and a number on the scale of doubles without sign. -/
def ofRank (negative : Bool) (rank : Nat) : Double :=
  ⟨UInt64.ofNat (rank + if negative then Nat.pow 2 63 else 0)⟩

/-- The value of a finite double without its sign, as `m * 2 ^ q`. -/
def magnitude (x : Double) : Nat × Int :=
  let e : Nat := x.rank / Nat.pow 2 52
  let f : Nat := x.rank % Nat.pow 2 52
  if e = 0 then (f, -1074) else (Nat.pow 2 52 + f, (e : Int) - 1075)

/-- The double nearest to `digits * 10 ^ exponent` with the given sign, or `none` beyond the
largest one. The two outer cases keep the powers small: what they settle is beyond the largest
double, or below half of the smallest. -/
def ofDecimal? (negative : Bool) (digits : Nat) (exponent : Int) : Option Double :=
  let places := (Nat.toDigits 10 digits).length
  if digits = 0 ∨ exponent + places < -330 then some (ofRank negative 0)
  else if 310 < exponent + places then none
  else
    let rank := match exponent with
      | .ofNat n => nearest (digits * Nat.pow 10 n) 1
      | .negSucc n => nearest digits (Nat.pow 10 (n + 1))
    if rank < infinityRank then some (ofRank negative rank) else none

end Double

end BoundSql.Decimal
