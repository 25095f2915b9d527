import BoundSql.Proofs.Decimal.Shortest

/-!
# Digits and the values that they stand for

The digits of a number have no zero in front, and those of the decimal that stands for a double
have none at the end either. As a whole number, with the place of the point as their exponent, they
read back as the double, sign included.
-/

namespace BoundSql.Decimal

/-! ### Digits -/

lemma ofDigitChars_append_zeros (ds : List Char) (k : Nat) :
    Nat.ofDigitChars 10 (ds ++ List.replicate k '0') 0 = Nat.ofDigitChars 10 ds 0 * 10 ^ k := by
  rw [Nat.ofDigitChars_append]
  generalize Nat.ofDigitChars 10 ds 0 = n
  induction k generalizing n with
  | zero => simp [Nat.ofDigitChars]
  | succ k ih =>
    rw [List.replicate_succ, Nat.ofDigitChars_cons, ih]
    simp [pow_succ]
    ring

lemma ofDigitChars_zeros_append (ds : List Char) (k : Nat) :
    Nat.ofDigitChars 10 (List.replicate k '0' ++ ds) 0 = Nat.ofDigitChars 10 ds 0 := by
  induction k with
  | zero => rfl
  | succ k ih => rw [List.replicate_succ, List.cons_append, Nat.ofDigitChars_cons]; exact ih

/-- The digits of a number other than zero do not start with a zero. -/
lemma head?_toDigits_ne_zero {n : Nat} (hn : n ≠ 0) : (Nat.toDigits 10 n).head? ≠ some '0' := by
  induction n using Nat.strong_induction_on with
  | h n ih =>
    by_cases hsmall : n < 10
    · rw [Nat.toDigits_of_lt_base hsmall]
      interval_cases n <;> simp_all [Nat.digitChar]
    · have hstep := Nat.toDigits_append_toDigits (b := 10) (n := n / 10) (d := n % 10) (by decide)
        (by omega) (by omega)
      rw [Nat.div_add_mod] at hstep
      rw [← hstep, List.head?_append_of_ne_nil _ Nat.toDigits_ne_nil]
      exact ih (n / 10) (by omega) (by omega)

/-- Digits that stand for a number other than zero, without zeros in front. -/
structure IsNumber (ds : List Char) : Prop where
  digits : ∀ c ∈ ds, c.isDigit = true
  ne_nil : ds ≠ []
  head : ds.head? ≠ some '0'

lemma isNumber_toDigits {n : Nat} (hn : n ≠ 0) : IsNumber (Nat.toDigits 10 n) where
  digits _ := Nat.isDigit_of_mem_toDigits (by decide) (by decide)
  ne_nil := Nat.toDigits_ne_nil
  head := head?_toDigits_ne_zero hn

lemma IsNumber.append {ds ds' : List Char} (h : IsNumber ds)
    (hds' : ∀ c ∈ ds', c.isDigit = true) : IsNumber (ds ++ ds') where
  digits c hc := (List.mem_append.mp hc).elim (h.digits c) (hds' c)
  ne_nil := List.append_ne_nil_of_left_ne_nil h.ne_nil _
  head := by
    rw [List.head?_append_of_ne_nil _ h.ne_nil]
    exact h.head

lemma IsNumber.take {ds : List Char} (h : IsNumber ds) {n : Nat} (hn : n ≠ 0) :
    IsNumber (ds.take n) where
  digits c hc := h.digits c (List.mem_of_mem_take hc)
  ne_nil := by simp [h.ne_nil, hn]
  head := by simpa [List.head?_take, hn] using h.head

lemma IsNumber.ofDigitChars_ne_zero {ds : List Char} (h : IsNumber ds) :
    Nat.ofDigitChars 10 ds 0 ≠ 0 := by
  obtain ⟨d, ds, rfl⟩ := List.exists_cons_of_ne_nil h.ne_nil
  have hdigit : 48 ≤ d.toNat := by
    have := h.digits d List.mem_cons_self
    simp only [Char.isDigit, Bool.and_eq_true, decide_eq_true_eq] at this
    exact this.1
  have hne : d.toNat ≠ 48 := by
    intro heq
    apply h.head
    rw [List.head?_cons, ← Char.ofNat_toNat d, heq]
  have hzero : '0'.toNat = 48 := rfl
  rw [Nat.ofDigitChars_cons, Nat.ofDigitChars_eq_ofDigitChars_zero]
  have hpos : 0 < 10 ^ ds.length * (10 * 0 + (d.toNat - '0'.toNat)) :=
    Nat.mul_pos (by positivity) (by omega)
  omega

lemma isDigit_of_mem_zeros {k : Nat} {c : Char} (h : c ∈ List.replicate k '0') :
    c.isDigit = true := by
  rw [List.eq_of_mem_replicate h]
  rfl

/-- The digits of a decimal other than zero are its significant digits and zeros. -/
lemma Digits.exists_zeros (d : Digits) :
    ∃ k, Nat.toDigits 10 d.mantissa = d.significant ++ List.replicate k '0' := by
  have hzeros : (Nat.toDigits 10 d.mantissa).rtakeWhile (· == '0')
      = List.replicate ((Nat.toDigits 10 d.mantissa).rtakeWhile (· == '0')).length '0' :=
    List.eq_replicate_of_mem fun c hc => by simpa using List.mem_rtakeWhile_imp hc
  refine ⟨((Nat.toDigits 10 d.mantissa).rtakeWhile (· == '0')).length, ?_⟩
  rw [← hzeros]
  exact List.rdropWhile_append_rtakeWhile.symm

lemma Digits.isNumber_significant {d : Digits} (hd : d.mantissa ≠ 0) : IsNumber d.significant := by
  obtain ⟨k, hk⟩ := d.exists_zeros
  have hnumber := isNumber_toDigits hd
  have hne : d.significant ≠ [] := by
    intro hnil
    have hvalue := Nat.ofDigitChars_toDigits (b := 10) (n := d.mantissa) (by decide) (by decide)
    rw [hk, hnil, ofDigitChars_append_zeros] at hvalue
    simp [Nat.ofDigitChars] at hvalue
    exact hd hvalue.symm
  refine ⟨fun c hc => hnumber.digits c (hk ▸ List.mem_append_left _ hc), hne, fun hhead => ?_⟩
  apply hnumber.head
  rw [hk, List.head?_append_of_ne_nil _ hne, hhead]

/-! ### Doubles from their parts -/

namespace Double

lemma rank_ofRank {r : Nat} (negative : Bool) (hr : r < 2 ^ 63) :
    (ofRank negative r).rank = r := by
  rw [rank, ofRank]
  cases negative <;> simp <;> omega

/-- What is read is finite. -/
lemma isFinite_ofDecimal? {negative : Bool} {digits : Nat} {exponent : Int}
    {x : Double} (h : ofDecimal? negative digits exponent = some x) : x.isFinite = true := by
  have hrank : ∀ r < infinityRank, (ofRank negative r).isFinite = true := by
    intro r hr
    have hlt : r < 2 ^ 63 := hr.trans (by decide)
    rw [isFinite, rank_ofRank negative hlt, decide_eq_true_eq]
    exact hr
  simp only [ofDecimal?] at h
  split_ifs at h with hzero hlarge hfinite
  · rw [← Option.some.inj h]
    exact hrank 0 (by decide)
  · rw [← Option.some.inj h]
    exact hrank _ hfinite

/-- A double is made up of its sign and its rank. -/
lemma ofRank_rank (x : Double) : ofRank x.isNegative x.rank = x := by
  have hpow : Nat.pow 2 63 = 9223372036854775808 := rfl
  obtain ⟨bits⟩ := x
  have hlt : bits.toNat < 18446744073709551616 := bits.toNat_lt
  simp only [ofRank, rank, isNegative, hpow, Double.mk.injEq]
  apply UInt64.toNat_inj.mp
  by_cases hneg : 9223372036854775808 ≤ bits.toNat
  · simp [hneg]
    omega
  · simp [hneg]
    omega

/-- The sign of a decimal that is read is the sign of the double. -/
lemma ofDecimal?_of_unsigned {m r : Nat} {e : Int} (hm : m ≠ 0) (hr : r < 2 ^ 63)
    (h : ofDecimal? false m e = some (ofRank false r)) (negative : Bool) :
    ofDecimal? negative m e = some (ofRank negative r) := by
  have hrank : ∀ {r' : Nat}, r' < 2 ^ 63 → some (ofRank false r') = some (ofRank false r) →
      r' = r := by
    intro r' hr' heq
    rw [← rank_ofRank false hr', Option.some.inj heq, rank_ofRank false hr]
  have hinfinity : infinityRank < 2 ^ 63 := by decide
  rw [ofDecimal?_eq hm] at h ⊢
  split_ifs at h ⊢ with hsmall hlarge hfinite
  · rw [hrank (by decide) h]
  · rw [hrank (hfinite.trans hinfinity) h]

lemma ofDecimal?_shortest {x : Double} (hfinite : x.isFinite = true) (hrank : x.rank ≠ 0) :
    ofDecimal? false x.shortest.mantissa x.shortest.exponent = some (ofRank false x.rank) := by
  simpa [reads] using reads_shortest hfinite hrank

lemma rank_lt_of_isFinite {x : Double} (hfinite : x.isFinite = true) : x.rank < 2 ^ 63 :=
  (of_decide_eq_true hfinite).trans (by decide)

lemma mantissa_shortest_ne_zero {x : Double} (hfinite : x.isFinite = true) (hrank : x.rank ≠ 0) :
    x.shortest.mantissa ≠ 0 := by
  intro hzero
  have hreads := ofDecimal?_shortest hfinite hrank
  have hread : ofDecimal? false 0 x.shortest.exponent = some (ofRank false 0) := by
    simp [ofDecimal?]
  rw [hzero, hread] at hreads
  apply hrank
  rw [← rank_ofRank false (rank_lt_of_isFinite hfinite), ← Option.some.inj hreads,
    rank_ofRank false (by decide)]

/-- The significant digits of the decimal that stands for a finite double read back. -/
lemma ofDecimal?_significant {x : Double} (hfinite : x.isFinite = true) (hrank : x.rank ≠ 0) :
    ofDecimal? x.isNegative (Nat.ofDigitChars 10 x.shortest.significant 0)
      (x.shortest.point - x.shortest.significant.length) = some x := by
  have hmantissa := mantissa_shortest_ne_zero hfinite hrank
  obtain ⟨k, hk⟩ := x.shortest.exists_zeros
  have hvalue : x.shortest.mantissa
      = Nat.ofDigitChars 10 x.shortest.significant 0 * 10 ^ k := by
    rw [← ofDigitChars_append_zeros, ← hk, Nat.ofDigitChars_toDigits (by decide) (by decide)]
  have hsignificant : Nat.ofDigitChars 10 x.shortest.significant 0 ≠ 0 := by
    intro hzero
    rw [hzero, zero_mul] at hvalue
    exact hmantissa hvalue
  have hpoint : x.shortest.point - x.shortest.significant.length = x.shortest.exponent + k := by
    rw [Digits.point, hk, List.length_append, List.length_replicate]
    push_cast
    ring
  rw [hpoint, ← ofDecimal?_mul_pow hsignificant, ← hvalue,
    ofDecimal?_of_unsigned hmantissa (rank_lt_of_isFinite hfinite)
      (ofDecimal?_shortest hfinite hrank), ofRank_rank]

end Double

end BoundSql.Decimal
