import BoundSql.Decimal.Notation
import Mathlib

/-!
# Rounding depends on the value

The double nearest to a fraction depends on the value of the fraction alone, and so does the double
that a decimal is read as: zeros at the end of its digits can be moved into its exponent.
-/

namespace BoundSql.Decimal

/-! ### Fractions -/

lemma roundHalfEven_mul_right (num den : Nat) {k : Nat} (hk : 0 < k) :
    roundHalfEven (num * k) (den * k) = roundHalfEven num den := by
  have hless : 2 * (num * k % (den * k)) < den * k ↔ 2 * (num % den) < den := by
    rw [Nat.mul_mod_mul_right, ← mul_assoc, Nat.mul_lt_mul_right hk]
  have hmore : den * k < 2 * (num * k % (den * k)) ↔ den < 2 * (num % den) := by
    rw [Nat.mul_mod_mul_right, ← mul_assoc, Nat.mul_lt_mul_right hk]
  simp only [roundHalfEven, hless, hmore, Nat.mul_div_mul_right _ _ hk]

/-- Rounding depends on the value of a fraction alone. -/
lemma roundHalfEven_congr {a b c d : Nat} (hb : 0 < b) (hd : 0 < d) (h : a * d = c * b) :
    roundHalfEven a b = roundHalfEven c d := by
  rw [← roundHalfEven_mul_right a b hd, h, mul_comm b d, roundHalfEven_mul_right c d hb]

@[simp] lemma roundHalfEven_one (n : Nat) : roundHalfEven n 1 = n := by
  simp [roundHalfEven, Nat.mod_one]

lemma scaled_pos (a : Nat) {b : Nat} (hb : 0 < b) (q : Int) : 0 < (scaled a b q).2 := by
  cases q with
  | ofNat n => exact Nat.mul_pos hb (Nat.pow_pos two_pos)
  | negSucc n => exact hb

/-- A fraction in units of a power of two. -/
lemma scaled_div (a b : Nat) (q : Int) :
    ((scaled a b q).1 : ℚ) / (scaled a b q).2 = a / b / 2 ^ q := by
  cases q with
  | ofNat n =>
    simp only [scaled, Nat.pow_eq, Int.ofNat_eq_natCast, zpow_natCast]
    push_cast
    rw [div_div]
  | negSucc n =>
    simp only [scaled, Nat.pow_eq, zpow_negSucc]
    push_cast
    rw [div_inv_eq_mul, div_mul_eq_mul_div]

/-! ### The last bit -/

lemma le_div_two_zpow_iff {x : ℚ} {n q : Int} : 2 ^ n ≤ x / 2 ^ q ↔ 2 ^ (n + q) ≤ x := by
  rw [le_div_iff₀ (by positivity), zpow_add₀ two_ne_zero]

/-- The binary logarithm of a fraction from those of its parts. -/
lemma log_div_bounds {a b : Nat} (ha : 0 < a) (hb : 0 < b) :
    (a.log2 : Int) - b.log2 - 1 ≤ Int.log 2 ((a : ℚ) / b) ∧
      Int.log 2 ((a : ℚ) / b) < (a.log2 : Int) - b.log2 + 1 := by
  have hpos : 0 < (a : ℚ) / b := by positivity
  have hb' : (0 : ℚ) < b := by exact_mod_cast hb
  have hlowa : (2 : ℚ) ^ (a.log2 : Int) ≤ a := by
    rw [zpow_natCast]
    exact_mod_cast Nat.log2_self_le ha.ne'
  have hlowb : (2 : ℚ) ^ (b.log2 : Int) ≤ b := by
    rw [zpow_natCast]
    exact_mod_cast Nat.log2_self_le hb.ne'
  have hhigha : (a : ℚ) < 2 ^ (a.log2 + 1 : Int) := by
    exact_mod_cast a.lt_log2_self
  have hhighb : (b : ℚ) < 2 ^ (b.log2 + 1 : Int) := by
    exact_mod_cast b.lt_log2_self
  constructor
  · rw [← Int.zpow_le_iff_le_log one_lt_two hpos, le_div_iff₀ hb']
    calc ((2 : ℕ) : ℚ) ^ ((a.log2 : Int) - b.log2 - 1) * b
        ≤ 2 ^ ((a.log2 : Int) - b.log2 - 1) * 2 ^ (b.log2 + 1 : Int) := by gcongr; simp
      _ = 2 ^ (a.log2 : Int) := by rw [← zpow_add₀ two_ne_zero]; congr 1; ring
      _ ≤ a := hlowa
  · rw [← Int.lt_zpow_iff_log_lt one_lt_two hpos, div_lt_iff₀ hb']
    calc (a : ℚ) < 2 ^ (a.log2 + 1 : Int) := hhigha
      _ = 2 ^ ((a.log2 : Int) - b.log2 + 1) * 2 ^ (b.log2 : Int) := by
        rw [← zpow_add₀ two_ne_zero]; congr 1; ring
      _ ≤ ((2 : ℕ) : ℚ) ^ ((a.log2 : Int) - b.log2 + 1) * b := by gcongr; simp

/-- The last bit of a double is 52 places after the first bit of its value. -/
lemma lastBit_eq_log {a b : Nat} (ha : 0 < a) (hb : 0 < b) :
    lastBit a b = max (-1074) (Int.log 2 ((a : ℚ) / b) - 52) := by
  have hpos : 0 < (a : ℚ) / b := by positivity
  obtain ⟨hlow, hhigh⟩ := log_div_bounds ha hb
  generalize hq : (a.log2 : Int) - b.log2 - 53 = q
  have htop : Nat.pow 2 53 * (scaled a b q).2 ≤ (scaled a b q).1 ↔
      q + 53 ≤ Int.log 2 ((a : ℚ) / b) := by
    have hden : (0 : ℚ) < (scaled a b q).2 := by exact_mod_cast scaled_pos a hb q
    calc Nat.pow 2 53 * (scaled a b q).2 ≤ (scaled a b q).1
        ↔ (2 : ℚ) ^ (53 : Int) * (scaled a b q).2 ≤ (scaled a b q).1 := by
          rw [Nat.pow_eq]; norm_cast
      _ ↔ (2 : ℚ) ^ (q + 53) ≤ a / b := by
          rw [← le_div_iff₀ hden, scaled_div, le_div_two_zpow_iff, add_comm]
      _ ↔ q + 53 ≤ Int.log 2 ((a : ℚ) / b) := Int.zpow_le_iff_le_log one_lt_two hpos
  have hlast : lastBit a b = max (-1074)
      (if Nat.pow 2 53 * (scaled a b q).2 ≤ (scaled a b q).1 then q + 1 else q) := by
    rw [lastBit, hq]
  rw [hlast]
  split_ifs with h <;> rw [htop] at h <;> omega

/-- The nearest double depends on the value of a fraction alone. -/
lemma nearest_congr {a b c d : Nat} (ha : 0 < a) (hb : 0 < b) (hd : 0 < d)
    (h : (a : ℚ) / b = c / d) : nearest a b = nearest c d := by
  have hcross : ∀ {a b c d : Nat}, 0 < b → 0 < d → (a : ℚ) / b = c / d → a * d = c * b := by
    intro a b c d hb hd h
    rw [div_eq_div_iff (by exact_mod_cast hb.ne') (by exact_mod_cast hd.ne')] at h
    exact_mod_cast h
  have hc : 0 < c := Nat.pos_of_mul_pos_right (hcross hb hd h ▸ Nat.mul_pos ha hd)
  have hlast : lastBit a b = lastBit c d := by rw [lastBit_eq_log ha hb, lastBit_eq_log hc hd, h]
  have hround : ∀ q, roundHalfEven (scaled a b q).1 (scaled a b q).2
      = roundHalfEven (scaled c d q).1 (scaled c d q).2 := by
    intro q
    apply roundHalfEven_congr (scaled_pos a hb q) (scaled_pos c hd q)
    exact hcross (scaled_pos a hb q) (scaled_pos c hd q) (by rw [scaled_div, scaled_div, h])
  simp only [nearest, hlast, hround]

/-! ### Decimals -/

/-- The fraction that is `digits * 10 ^ exponent`. -/
def decimalFraction (digits : Nat) : Int → Nat × Nat
  | .ofNat n => (digits * Nat.pow 10 n, 1)
  | .negSucc n => (digits, Nat.pow 10 (n + 1))

lemma decimalFraction_pos (digits : Nat) (e : Int) : 0 < (decimalFraction digits e).2 := by
  cases e with
  | ofNat n => exact one_pos
  | negSucc n => exact Nat.pow_pos (by decide)

lemma decimalFraction_div (digits : Nat) (e : Int) :
    ((decimalFraction digits e).1 : ℚ) / (decimalFraction digits e).2 = digits * 10 ^ e := by
  cases e with
  | ofNat n => simp [decimalFraction]
  | negSucc n => simp [decimalFraction, zpow_negSucc, div_eq_mul_inv]

/-- The place of the nearest double on the scale of doubles without sign. -/
def decimalRank (digits : Nat) (e : Int) : Nat :=
  nearest (decimalFraction digits e).1 (decimalFraction digits e).2

/-- Zeros at the end of the digits can be moved into the exponent. -/
lemma decimalRank_mul_pow {m : Nat} (hm : 0 < m) (k : Nat) (e : Int) :
    decimalRank (m * 10 ^ k) e = decimalRank m (e + k) := by
  have hpos : 0 < (decimalFraction (m * 10 ^ k) e).1 := by
    cases e with
    | ofNat n => exact Nat.mul_pos (by positivity) (Nat.pow_pos (by decide))
    | negSucc n => exact Nat.mul_pos hm (by positivity)
  apply nearest_congr hpos (decimalFraction_pos _ _) (decimalFraction_pos _ _)
  rw [decimalFraction_div, decimalFraction_div, zpow_add₀ (by norm_num), zpow_natCast]
  push_cast
  ring

lemma toDigits_mul_pow {m : Nat} (hm : 0 < m) (k : Nat) :
    Nat.toDigits 10 (m * 10 ^ k) = Nat.toDigits 10 m ++ List.replicate k '0' := by
  induction k with
  | zero => simp
  | succ k ih =>
    have hstep := Nat.toDigits_append_toDigits (b := 10) (d := 0) (by decide)
      (Nat.mul_pos hm (Nat.pow_pos (n := k) (by decide : 0 < 10))) (by decide)
    rw [ih, add_zero] at hstep
    rw [List.replicate_succ', ← List.append_assoc, pow_succ, ← mul_assoc, mul_comm _ 10, ← hstep]
    rfl

namespace Double

/-- The double that a decimal other than zero is read as. -/
lemma ofDecimal?_eq {m : Nat} (hm : m ≠ 0) (negative : Bool) (e : Int) :
    ofDecimal? negative m e =
      if e + (Nat.toDigits 10 m).length < -330 then some (ofRank negative 0)
      else if 310 < e + (Nat.toDigits 10 m).length then none
      else if decimalRank m e < infinityRank then some (ofRank negative (decimalRank m e))
      else none := by
  cases e <;> (simp only [ofDecimal?, hm, false_or]; rfl)

/-- The double that a decimal is read as depends on its value alone: zeros at the end of the digits
can be moved into the exponent. -/
lemma ofDecimal?_mul_pow {m : Nat} (hm : m ≠ 0) (negative : Bool) (k : Nat) (e : Int) :
    ofDecimal? negative (m * 10 ^ k) e = ofDecimal? negative m (e + k) := by
  have hpos : 0 < m := Nat.pos_of_ne_zero hm
  have hlength : e + (Nat.toDigits 10 (m * 10 ^ k)).length
      = e + k + (Nat.toDigits 10 m).length := by
    rw [toDigits_mul_pow hpos, List.length_append, List.length_replicate]
    push_cast
    ring
  rw [ofDecimal?_eq (by positivity), ofDecimal?_eq hm, hlength, decimalRank_mul_pow hpos]

end Double

end BoundSql.Decimal
