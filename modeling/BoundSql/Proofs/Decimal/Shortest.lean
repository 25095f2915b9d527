import BoundSql.Proofs.Decimal.Nearest

/-!
# Shortest decimals read back

The decimal that stands for a finite double reads back as the double: those on a grid because only
such are taken, and the exact value, which stands in for them, because rounding does not change it.
-/

namespace BoundSql.Decimal

/-- Rounding does not change the value of a double. -/
lemma nearest_of_div_eq {a b m : Nat} {q : Int} (hb : 0 < b) (hm : 0 < m) (hhigh : m < 2 ^ 53)
    (hlow : q = -1074 ∨ -1074 ≤ q ∧ 2 ^ 52 ≤ m) (h : (a : ℚ) / b = m * 2 ^ q) :
    nearest a b = (q + 1074).toNat * 2 ^ 52 + m := by
  have hpos : 0 < (m : ℚ) * 2 ^ q := by positivity
  have ha : 0 < a := by
    rw [← h] at hpos
    by_contra hzero
    simp [Nat.eq_zero_of_not_pos hzero] at hpos
  have hlog : Int.log 2 ((m : ℚ) * 2 ^ q) < q + 53 := by
    rw [← Int.lt_zpow_iff_log_lt one_lt_two hpos, Nat.cast_ofNat, zpow_add₀ two_ne_zero, mul_comm]
    have hm' : (m : ℚ) < 2 ^ (53 : Int) := by exact_mod_cast hhigh
    gcongr
  have hlast : lastBit a b = q := by
    rw [lastBit_eq_log ha hb, h]
    obtain rfl | ⟨hq, hbig⟩ := hlow
    · omega
    · have hlog' : q + 52 ≤ Int.log 2 ((m : ℚ) * 2 ^ q) := by
        rw [← Int.zpow_le_iff_le_log one_lt_two hpos, Nat.cast_ofNat, zpow_add₀ two_ne_zero,
          mul_comm]
        have hm' : (2 : ℚ) ^ (52 : Int) ≤ m := by exact_mod_cast hbig
        gcongr
      omega
  have hround : roundHalfEven (scaled a b q).1 (scaled a b q).2 = m := by
    have hden := scaled_pos a hb q
    have hden' : ((scaled a b q).2 : ℚ) ≠ 0 := by exact_mod_cast hden.ne'
    have hscaled : ((scaled a b q).1 : ℚ) / (scaled a b q).2 = m := by
      rw [scaled_div, h, mul_div_assoc, div_self (by positivity), mul_one]
    rw [div_eq_iff hden'] at hscaled
    rw [← roundHalfEven_one m]
    exact roundHalfEven_congr hden one_pos (by rw [mul_one]; exact_mod_cast hscaled)
  simp only [nearest, hlast, hround]
  rfl

/-! ### Lengths of exact values -/

/-- How many digits a double without fraction has. -/
lemma length_toDigits_mul_two_pow {m n : Nat} (hm : m < 2 ^ 53) (hn : n ≤ 971) :
    (Nat.toDigits 10 (m * 2 ^ n)).length ≤ 310 := by
  have hlarge : 2 ^ 971 ≤ 10 ^ 294 := by decide +kernel
  rw [Nat.length_toDigits_le_iff (by decide) (by decide)]
  calc m * 2 ^ n < 2 ^ 53 * 2 ^ n := Nat.mul_lt_mul_of_pos_right hm (by positivity)
    _ ≤ 10 ^ 16 * 10 ^ 294 :=
      Nat.mul_le_mul (by decide) ((pow_le_pow_right₀ one_le_two hn).trans hlarge)
    _ = 10 ^ 310 := by rw [← pow_add]

/-- How many digits a double with `n` digits behind the point has. -/
lemma length_toDigits_mul_five_pow {m n : Nat} (hpos : 0 < m) (hm : m < 2 ^ 53) (hn : n ≤ 1074) :
    n < (Nat.toDigits 10 (m * 5 ^ n)).length + 331 ∧
      (Nat.toDigits 10 (m * 5 ^ n)).length ≤ n + 310 := by
  have hsmall : 2 ^ 1074 ≤ 10 ^ 331 := by decide +kernel
  constructor
  · by_contra hless
    have hlength : (Nat.toDigits 10 (m * 5 ^ n)).length ≤ n - 331 := by omega
    have hne : 0 < (Nat.toDigits 10 (m * 5 ^ n)).length :=
      List.length_pos_of_ne_nil Nat.toDigits_ne_nil
    rw [Nat.length_toDigits_le_iff (by decide) (by omega)] at hlength
    have hpower : 10 ^ (n - 331) * 10 ^ 331 ≤ 5 ^ n * 10 ^ 331 := by
      calc 10 ^ (n - 331) * 10 ^ 331 = 5 ^ n * 2 ^ n := by
            rw [← pow_add, Nat.sub_add_cancel (by omega), ← Nat.mul_pow]
        _ ≤ 5 ^ n * 10 ^ 331 :=
          Nat.mul_le_mul_left _ ((pow_le_pow_right₀ one_le_two hn).trans hsmall)
    have hle := Nat.le_of_mul_le_mul_right hpower (by positivity)
    have hge : 5 ^ n ≤ m * 5 ^ n := Nat.le_mul_of_pos_left _ hpos
    omega
  · rw [Nat.length_toDigits_le_iff (by decide) (by omega)]
    calc m * 5 ^ n < 2 ^ 53 * 5 ^ n := Nat.mul_lt_mul_of_pos_right hm (by positivity)
      _ ≤ 10 ^ 310 * 10 ^ n :=
        Nat.mul_le_mul (by decide +kernel) (Nat.pow_le_pow_left (by decide) _)
      _ = 10 ^ (n + 310) := by rw [← pow_add, add_comm]

namespace Double

variable {x : Double}

/-- What the parts of a finite double other than zero are. -/
lemma magnitude_spec (hfinite : x.isFinite = true) (hrank : x.rank ≠ 0) :
    0 < x.magnitude.1 ∧ x.magnitude.1 < 2 ^ 53 ∧ x.magnitude.2 ≤ 971 ∧
      (x.magnitude.2 = -1074 ∨ -1074 ≤ x.magnitude.2 ∧ 2 ^ 52 ≤ x.magnitude.1) ∧
      (x.magnitude.2 + 1074).toNat * 2 ^ 52 + x.magnitude.1 = x.rank := by
  have hlt : x.rank < 0x7FF0000000000000 := of_decide_eq_true hfinite
  have hpow : Nat.pow 2 52 = 4503599627370496 := rfl
  simp only [magnitude, hpow]
  split_ifs with he
  · exact ⟨by omega, by omega, by omega, .inl rfl, by omega⟩
  · exact ⟨by omega, by omega, by omega, .inr ⟨by omega, by omega⟩, by omega⟩

/-- The value of the exact decimal of a double. -/
lemma exact_value (x : Double) :
    (x.exact.mantissa : ℚ) * 10 ^ x.exact.exponent = x.magnitude.1 * 2 ^ x.magnitude.2 := by
  rw [exact]
  obtain ⟨m, q⟩ := x.magnitude
  cases q with
  | ofNat n => simp
  | negSucc n =>
    have hten : (10 : ℚ) = 5 * 2 := by norm_num
    simp only [zpow_negSucc, Nat.pow_eq]
    push_cast
    rw [hten, mul_pow]
    field_simp

/-- The exact value of a double is neither too large nor too small to be rounded. -/
lemma exact_places (hfinite : x.isFinite = true) (hrank : x.rank ≠ 0) :
    -330 ≤ x.exact.exponent + (Nat.toDigits 10 x.exact.mantissa).length ∧
      x.exact.exponent + (Nat.toDigits 10 x.exact.mantissa).length ≤ 310 := by
  obtain ⟨hm, hhigh, hq, hlow, -⟩ := magnitude_spec hfinite hrank
  rw [exact]
  generalize x.magnitude = magnitude at hm hhigh hq hlow
  obtain ⟨m, q⟩ := magnitude
  simp only at hm hhigh hq hlow
  cases q with
  | ofNat n =>
    have hlength := length_toDigits_mul_two_pow (n := n) hhigh (by simpa using hq)
    simp only [Nat.pow_eq]
    omega
  | negSucc n =>
    have hlength := length_toDigits_mul_five_pow (n := n + 1) hm hhigh (by omega)
    simp only [Nat.pow_eq]
    omega

/-- The exact value of a finite double reads back. -/
lemma reads_exact (hfinite : x.isFinite = true) (hrank : x.rank ≠ 0) : x.reads x.exact = true := by
  obtain ⟨hm, hhigh, hq, hlow, heq⟩ := magnitude_spec hfinite hrank
  have hlt : x.rank < infinityRank := of_decide_eq_true hfinite
  have hmantissa : x.exact.mantissa ≠ 0 := by
    intro hzero
    have hvalue := x.exact_value
    rw [hzero, Nat.cast_zero, zero_mul] at hvalue
    have hpos : 0 < (x.magnitude.1 : ℚ) * 2 ^ x.magnitude.2 := by positivity
    exact hpos.ne hvalue
  have hdecimal : decimalRank x.exact.mantissa x.exact.exponent = x.rank := by
    rw [decimalRank, nearest_of_div_eq (decimalFraction_pos _ _) hm hhigh hlow
      ((decimalFraction_div _ _).trans x.exact_value), heq]
  obtain ⟨hsmall, hlarge⟩ := exact_places hfinite hrank
  rw [reads, beq_iff_eq, ofDecimal?_eq hmantissa, if_neg (not_lt.mpr hsmall),
    if_neg (not_lt.mpr hlarge), hdecimal, if_pos hlt]

lemma roundHalfEven_eq_or (a b : Nat) :
    roundHalfEven a b = a / b ∨ roundHalfEven a b = a / b + 1 := by
  rw [roundHalfEven]
  split_ifs
  · exact .inl rfl
  · exact .inr rfl
  · omega

lemma reads_of_onGrid? {p : Int} {d : Digits} (h : x.onGrid? p = some d) : x.reads d = true := by
  rw [onGrid?] at h
  dsimp only at h
  generalize inUnits x.fraction.1 x.fraction.2 p = units at h
  cases hlower : x.reads ⟨units.1 / units.2, p⟩ with
  | true =>
    cases hupper : x.reads ⟨units.1 / units.2 + 1, p⟩ with
    | true =>
      simp only [hlower, hupper, Option.some.injEq] at h
      obtain hround | hround := roundHalfEven_eq_or units.1 units.2
      · rw [← h, hround, hlower]
      · rw [← h, hround, hupper]
    | false =>
      simp only [hlower, hupper, Option.some.injEq] at h
      rw [← h, hlower]
  | false =>
    cases hupper : x.reads ⟨units.1 / units.2 + 1, p⟩ with
    | true =>
      simp only [hlower, hupper, Option.some.injEq] at h
      rw [← h, hupper]
    | false => simp [hlower, hupper] at h

/-- The decimal that stands for a finite double reads back. -/
lemma reads_shortest (hfinite : x.isFinite = true) (hrank : x.rank ≠ 0) :
    x.reads x.shortest = true := by
  rw [shortest]
  dsimp only
  cases h : (List.range 17).findSome? fun n : Nat =>
      x.onGrid? (decimalPlaces x.fraction.1 x.fraction.2 - (n + 1)) with
  | none => exact reads_exact hfinite hrank
  | some d =>
    obtain ⟨n, -, hd⟩ := List.exists_of_findSome?_eq_some h
    exact reads_of_onGrid? hd

end Double

end BoundSql.Decimal
