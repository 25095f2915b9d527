import BoundSql.Decimal.Shortest

/-!
# Decimal notation

How a finite double is written: with the fewest digits that read back, positionally and with a
point from `0.00001` up to but excluding `10 ^ 16`, and with an exponent otherwise.
-/

namespace BoundSql.Decimal

/-- The digits of a decimal without the zeros at their end. -/
def Digits.significant (d : Digits) : List Char :=
  ((Nat.toDigits 10 d.mantissa).reverse.dropWhile (· == '0')).reverse

/-- How many digits of a decimal stand before the point; negative where zeros follow the point. -/
def Digits.point (d : Digits) : Int :=
  (Nat.toDigits 10 d.mantissa).length + d.exponent

/-- The digits with a point after the first `point` of them. -/
def positional (digits : List Char) (point : Int) : List Char :=
  match point with
  | .ofNat 0 => ['0', '.'] ++ digits
  | .negSucc n => ['0', '.'] ++ List.replicate (n + 1) '0' ++ digits
  | .ofNat n =>
    if digits.length ≤ n then digits ++ List.replicate (n - digits.length) '0' ++ ['.', '0']
    else digits.take n ++ '.' :: digits.drop n

/-- The digits with a point after the first of them and a signed power of ten. -/
def scientific (digits : List Char) (point : Int) : List Char :=
  let fraction := match digits with
    | d :: [] => [d]
    | d :: rest => d :: '.' :: rest
    | [] => ['0']
  let sign := if point ≤ 0 then '-' else '+'
  fraction ++ 'e' :: sign :: Nat.toDigits 10 (point - 1).natAbs

/-- The text of a finite double. -/
def Double.text (x : Double) : List Char :=
  let sign := if x.isNegative then ['-'] else []
  if x.rank = 0 then sign ++ ['0', '.', '0']
  else
    let d := x.shortest
    let body :=
      if -5 < d.point ∧ d.point ≤ 16 then positional d.significant d.point
      else scientific d.significant d.point
    sign ++ body

end BoundSql.Decimal
