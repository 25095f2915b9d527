import BoundSql.Decimal.Double

/-!
# Shortest decimals

The decimal that stands for a double: of those with the fewest digits that read back as the
double, the nearest to its value. For each count of digits only the two neighbours of the value on
the grid of that count are tried, because if any point of the grid reads back then so does one of
these two.
-/

namespace BoundSql.Decimal

/-- The decimal `mantissa * 10 ^ exponent`. -/
structure Digits where
  mantissa : Nat
  exponent : Int
deriving DecidableEq

namespace Double

/-- The value without sign as a fraction. -/
def fraction (x : Double) : Nat × Nat :=
  match x.magnitude with
  | (m, .ofNat q) => (m * Nat.pow 2 q, 1)
  | (m, .negSucc q) => (m, Nat.pow 2 (q + 1))

/-- `num / den` in units of `10 ^ p`, as a fraction. -/
def inUnits (num den : Nat) (p : Int) : Nat × Nat :=
  match p with
  | .ofNat n => (num, den * Nat.pow 10 n)
  | .negSucc n => (num * Nat.pow 10 (n + 1), den)

/-- The least `k` with `num / den < 10 ^ k`, found near the estimate that the binary logarithm
gives. -/
def decimalPlaces (num den : Nat) : Int :=
  let e := (num.log2 : Int) - den.log2
  let k := (e * 1233).fdiv 4096
  let below (k : Int) : Bool :=
    let (a, b) := inUnits num den k
    a < b
  ([k - 1, k, k + 1, k + 2].find? below).getD (k + 3)

/-- Whether a decimal reads back as the double without its sign. -/
def reads (x : Double) (d : Digits) : Bool :=
  ofDecimal? false d.mantissa d.exponent == some (ofRank false x.rank)

/-- The decimal on the grid of `10 ^ p` that stands for the double, if one reads back: the nearer
neighbour of the value if both do, and of two equally near the even one. -/
def onGrid? (x : Double) (p : Int) : Option Digits :=
  let (num, den) := x.fraction
  let (a, b) := inUnits num den p
  let low := a / b
  let lower : Digits := ⟨low, p⟩
  let upper : Digits := ⟨low + 1, p⟩
  match x.reads lower, x.reads upper with
  | true, true => some ⟨roundHalfEven a b, p⟩
  | true, false => some lower
  | false, true => some upper
  | false, false => none

/-- The exact value of the double without its sign. -/
def exact (x : Double) : Digits :=
  match x.magnitude with
  | (m, .ofNat q) => ⟨m * Nat.pow 2 q, 0⟩
  | (m, .negSucc q) => ⟨m * Nat.pow 5 (q + 1), .negSucc q⟩

/-- The decimal that stands for a finite double without its sign. -/
def shortest (x : Double) : Digits :=
  let (num, den) := x.fraction
  let k := decimalPlaces num den
  ((List.range 17).findSome? fun (n : Nat) => x.onGrid? (k - (n + 1))).getD x.exact

end Double

end BoundSql.Decimal
