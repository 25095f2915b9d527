import BoundSql.Json.Numeral
import BoundSql.Proofs.Decimal.Notation

/-!
# Numbers that are written are read

The text of an integer or of a finite double is read as that number, in front of any text that a
number does not go on with.
-/

namespace BoundSql

open Decimal

namespace Numeral

/-! ### Parts -/

/-- Whether a text does not go on with a digit. -/
def NoDigit (rest : List Char) : Prop := ∀ c ∈ rest.head?, c.isDigit = false

/-- Whether a number ends where a text goes on. -/
def Ends (rest : List Char) : Prop :=
  ∀ c ∈ rest.head?, c.isDigit = false ∧ c ≠ '.' ∧ c ≠ 'e' ∧ c ≠ 'E'

lemma Ends.noDigit {rest : List Char} (h : Ends rest) : NoDigit rest := fun c hc => (h c hc).1

lemma takeWhile_isDigit {rest : List Char} (h : NoDigit rest) :
    rest.takeWhile Char.isDigit = [] ∧ rest.dropWhile Char.isDigit = rest := by
  cases rest with
  | nil => exact ⟨rfl, rfl⟩
  | cons c cs => simp [h c rfl]

lemma digits_append {ds rest : List Char} (hds : ∀ c ∈ ds, c.isDigit = true) (hne : ds ≠ [])
    (hrest : NoDigit rest) : digits (ds ++ rest) = .ok (ds, rest) := by
  obtain ⟨d, ds, rfl⟩ := List.exists_cons_of_ne_nil hne
  have hall : ∀ c ∈ ds, c.isDigit = true := fun c hc => hds c (List.mem_cons_of_mem d hc)
  obtain ⟨htake, hdrop⟩ := takeWhile_isDigit hrest
  rw [List.cons_append, digits, if_pos (hds d List.mem_cons_self),
    List.takeWhile_append_of_pos hall, List.dropWhile_append_of_pos hall, htake, hdrop,
    List.append_nil]

/-- Digits that may stand in front of the point. -/
def IsWhole (ds : List Char) : Prop := ds = ['0'] ∨ IsNumber ds

lemma IsWhole.wholeDigits {ds rest : List Char} (h : IsWhole ds) (hrest : NoDigit rest) :
    wholeDigits (ds ++ rest) = .ok (ds, rest) := by
  obtain rfl | h := h
  · cases rest with
    | nil => rfl
    | cons c cs => simp [Numeral.wholeDigits, hrest c rfl]
  · have hhead : ∀ c cs, ds ++ rest ≠ '0' :: c :: cs := by
      intro c cs heq
      apply h.head
      have hds : (ds ++ rest).head? = ds.head? := List.head?_append_of_ne_nil _ h.ne_nil
      rw [← hds, heq, List.head?_cons]
    rw [Numeral.wholeDigits, digits_append h.digits h.ne_nil hrest]
    exact hhead

/-- A whole part starts with a digit. -/
lemma IsWhole.exists_cons {ds : List Char} (h : IsWhole ds) :
    ∃ d rest, ds = d :: rest ∧ d.isDigit = true := by
  obtain rfl | h := h
  · exact ⟨'0', [], rfl, rfl⟩
  · obtain ⟨d, ds, rfl⟩ := List.exists_cons_of_ne_nil h.ne_nil
    exact ⟨d, ds, rfl, h.digits d List.mem_cons_self⟩

/-- The sign of a number. -/
def signText (negative : Bool) : List Char := if negative then ['-'] else []

/-- A number is read part by part. -/
lemma read_parts {whole rest₁ rest₂ rest₃ : List Char} {fraction? : Option (List Char)}
    {exponent? : Option Int} (negative : Bool) (hwhole : IsWhole whole) (hrest₁ : NoDigit rest₁)
    (hfraction : fractionDigits rest₁ = .ok (fraction?, rest₂))
    (hexponent : exponentPart rest₂ = .ok (exponent?, rest₃)) :
    read (signText negative ++ (whole ++ rest₁))
      = .ok ({ negative, whole, fraction?, exponent? }, rest₃) := by
  have hparts := hwhole.wholeDigits hrest₁
  cases negative with
  | true =>
    change read ('-' :: (whole ++ rest₁)) = _
    rw [read]
    simp only [hparts, hfraction, hexponent, bind, Except.bind]
    rfl
  | false =>
    have hminus : ∀ rest, whole ++ rest₁ ≠ '-' :: rest := by
      obtain ⟨d, ds, rfl, hd⟩ := hwhole.exists_cons
      intro rest heq
      rw [List.cons_append, List.cons.injEq] at heq
      rw [heq.1] at hd
      exact absurd hd (by decide)
    change read (whole ++ rest₁) = _
    rw [read]
    · simp only [hparts, hfraction, hexponent, bind, Except.bind]
      rfl
    · exact hminus

/-! ### Fractions and exponents -/

lemma fractionDigits_dot {ds rest : List Char} (hds : ∀ c ∈ ds, c.isDigit = true) (hne : ds ≠ [])
    (hrest : NoDigit rest) : fractionDigits ('.' :: (ds ++ rest)) = .ok (some ds, rest) := by
  rw [fractionDigits, digits_append hds hne hrest]
  rfl

lemma fractionDigits_of_ne {rest : List Char} (h : ∀ c ∈ rest.head?, c ≠ '.') :
    fractionDigits rest = .ok (none, rest) := by
  cases rest with
  | nil => rfl
  | cons c cs =>
    rw [fractionDigits]
    simpa using h c rfl

lemma Ends.exponentPart {rest : List Char} (h : Ends rest) :
    exponentPart rest = .ok (none, rest) := by
  cases rest with
  | nil => rfl
  | cons c cs =>
    obtain ⟨-, -, he, hE⟩ := h c rfl
    rw [Numeral.exponentPart, if_neg (by simp [he, hE])]

/-- An exponent is written with its sign. -/
lemma exponentPart_signed {e : Int} {rest : List Char} (hrest : NoDigit rest) :
    exponentPart ('e' :: (if e < 0 then '-' else '+') :: (Nat.toDigits 10 e.natAbs ++ rest))
      = .ok (some e, rest) := by
  have hdigits : digits (Nat.toDigits 10 e.natAbs ++ rest)
      = .ok (Nat.toDigits 10 e.natAbs, rest) :=
    digits_append (fun c => Nat.isDigit_of_mem_toDigits (by decide) (by decide))
      Nat.toDigits_ne_nil hrest
  have hvalue : Nat.ofDigitChars 10 (Nat.toDigits 10 e.natAbs) 0 = e.natAbs :=
    Nat.ofDigitChars_toDigits (by decide) (by decide)
  rw [exponentPart, if_pos (.inl rfl)]
  split_ifs with he
  · simp only [exponentSign, hdigits, bind, Except.bind, pure, Except.pure, signed, hvalue,
      ↓reduceIte, Except.ok.injEq, Prod.mk.injEq, Option.some.injEq, and_true]
    omega
  · simp only [exponentSign, hdigits, bind, Except.bind, pure, Except.pure, signed, hvalue,
      Bool.false_eq_true, ↓reduceIte, Except.ok.injEq, Prod.mk.injEq, Option.some.injEq, and_true]
    omega

/-! ### Numbers with a value -/

/-- Whether characters, with or without a minus sign, are read as `digits * 10 ^ exponent`. -/
def Denotes (cs : List Char) (digits : Nat) (exponent : Int) : Prop :=
  ∀ negative rest, Ends rest → ∃ n : Numeral,
    read (signText negative ++ (cs ++ rest)) = .ok (n, rest) ∧
      n.number? = (Double.ofDecimal? negative digits exponent).map .real

lemma isDigit_zero : ∀ c ∈ ['0'], c.isDigit = true := by simp

/-- Digits around a point. -/
lemma denotes_point {whole fraction : List Char} (hwhole : IsWhole whole)
    (hfraction : ∀ c ∈ fraction, c.isDigit = true) (hne : fraction ≠ []) :
    Denotes (whole ++ '.' :: fraction) (Nat.ofDigitChars 10 (whole ++ fraction) 0)
      (-fraction.length) := by
  intro negative rest hrest
  refine ⟨⟨negative, whole, some fraction, none⟩, ?_, ?_⟩
  · rw [List.append_assoc, List.cons_append]
    exact read_parts negative hwhole (by simp [NoDigit])
      (fractionDigits_dot hfraction hne hrest.noDigit) hrest.exponentPart
  · simp [number?]

/-- Digits with an exponent. -/
lemma denotes_exponent {whole : List Char} (hwhole : IsWhole whole) (e : Int) :
    Denotes (whole ++ 'e' :: (if e < 0 then '-' else '+') :: Nat.toDigits 10 e.natAbs)
      (Nat.ofDigitChars 10 whole 0) e := by
  intro negative rest hrest
  refine ⟨⟨negative, whole, none, some e⟩, ?_, ?_⟩
  · rw [List.append_assoc, List.cons_append, List.cons_append]
    exact read_parts negative hwhole (by simp [NoDigit]) (fractionDigits_of_ne (by simp))
      (exponentPart_signed hrest.noDigit)
  · simp [number?]

/-- Digits around a point with an exponent. -/
lemma denotes_point_exponent {whole fraction : List Char} (hwhole : IsWhole whole)
    (hfraction : ∀ c ∈ fraction, c.isDigit = true) (hne : fraction ≠ []) (e : Int) :
    Denotes (whole ++ '.' :: (fraction ++ 'e' :: (if e < 0 then '-' else '+') ::
        Nat.toDigits 10 e.natAbs))
      (Nat.ofDigitChars 10 (whole ++ fraction) 0) (e - fraction.length) := by
  intro negative rest hrest
  refine ⟨⟨negative, whole, some fraction, some e⟩, ?_, ?_⟩
  · rw [List.append_assoc, List.cons_append, List.append_assoc, List.cons_append,
      List.cons_append]
    exact read_parts negative hwhole (by simp [NoDigit])
      (fractionDigits_dot hfraction hne (by simp [NoDigit])) (exponentPart_signed hrest.noDigit)
  · simp [number?]

/-- Zeros at the end of the digits can be moved into the exponent. -/
lemma Denotes.of_zeros {cs : List Char} {m k : Nat} {e : Int} (hm : m ≠ 0)
    (h : Denotes cs (m * 10 ^ k) e) : Denotes cs m (e + k) := by
  intro negative rest hrest
  rw [← Double.ofDecimal?_mul_pow hm]
  exact h negative rest hrest

end Numeral

open Numeral

/-! ### Doubles -/

/-- Digits behind a point, with zeros between. -/
lemma denotes_fraction {ds : List Char} (hds : IsNumber ds) (k : Nat) :
    Denotes ('0' :: '.' :: (List.replicate k '0' ++ ds)) (Nat.ofDigitChars 10 ds 0)
      (-(k + ds.length : Nat)) := by
  have hdigits : ∀ c ∈ List.replicate k '0' ++ ds, c.isDigit = true := fun c hc =>
    (List.mem_append.mp hc).elim isDigit_of_mem_zeros (hds.digits c)
  have h := denotes_point (.inl rfl) hdigits (by simp [hds.ne_nil])
  have hvalue : Nat.ofDigitChars 10 (['0'] ++ (List.replicate k '0' ++ ds)) 0
      = Nat.ofDigitChars 10 ds 0 := ofDigitChars_zeros_append ds (k + 1)
  rw [hvalue, List.length_append, List.length_replicate] at h
  exact h

/-- Digits in front of a point, with zeros between. -/
lemma denotes_whole {ds : List Char} (hds : IsNumber ds) (k : Nat) :
    Denotes (ds ++ List.replicate k '0' ++ ['.', '0']) (Nat.ofDigitChars 10 ds 0) k := by
  have hwhole : IsWhole (ds ++ List.replicate k '0') :=
    .inr (hds.append fun c => isDigit_of_mem_zeros)
  have h := denotes_point hwhole isDigit_zero (by simp)
  have hvalue : Nat.ofDigitChars 10 (ds ++ List.replicate k '0' ++ ['0']) 0
      = Nat.ofDigitChars 10 ds 0 * 10 ^ (k + 1) := by
    rw [← ofDigitChars_append_zeros, List.replicate_succ', List.append_assoc]
  have hexponent : (k : Int) = -(['0'].length : Int) + (k + 1 : Nat) := by simp
  rw [hvalue] at h
  rw [hexponent]
  exact h.of_zeros hds.ofDigitChars_ne_zero

/-- Digits, the first of them in front of a point. -/
lemma denotes_split {ds : List Char} (hds : IsNumber ds) {n : Nat} (hn : n ≠ 0)
    (hlength : n < ds.length) :
    Denotes (ds.take n ++ '.' :: ds.drop n) (Nat.ofDigitChars 10 ds 0)
      (-(ds.length - n : Nat)) := by
  have hwhole : IsWhole (ds.take n) := .inr (hds.take hn)
  have hfraction : ∀ c ∈ ds.drop n, c.isDigit = true := fun c hc =>
    hds.digits c (List.mem_of_mem_drop hc)
  have h := denotes_point hwhole hfraction (by simp; omega)
  rw [List.take_append_drop, List.length_drop] at h
  exact h

/-- Digits with a point have the value that the place of the point gives them. -/
lemma denotes_positional {ds : List Char} (hds : IsNumber ds) (point : Int) :
    Denotes (positional ds point) (Nat.ofDigitChars 10 ds 0) (point - ds.length) := by
  match point with
  | .ofNat 0 =>
    have hexponent : Int.ofNat 0 - (ds.length : Int) = -(0 + ds.length : Nat) := by simp
    rw [hexponent]
    exact denotes_fraction hds 0
  | .negSucc n =>
    have hexponent : Int.negSucc n - (ds.length : Int) = -(n + 1 + ds.length : Nat) := by
      simp
      omega
    rw [hexponent, positional, List.append_assoc]
    exact denotes_fraction hds (n + 1)
  | .ofNat (n + 1) =>
    rw [positional.eq_3 _ _ (by omega)]
    split_ifs with hlength
    · have hexponent : Int.ofNat (n + 1) - (ds.length : Int) = (n + 1 - ds.length : Nat) := by
        simp
        omega
      rw [hexponent]
      exact denotes_whole hds _
    · have hexponent : Int.ofNat (n + 1) - (ds.length : Int) = -(ds.length - (n + 1) : Nat) := by
        simp
        omega
      rw [hexponent]
      exact denotes_split hds n.succ_ne_zero (by omega)

lemma denotes_scientific {ds : List Char} (hds : IsNumber ds) (point : Int) :
    Denotes (scientific ds point) (Nat.ofDigitChars 10 ds 0) (point - ds.length) := by
  have hsign : (if point ≤ 0 then '-' else '+') = if point - 1 < 0 then '-' else '+' := by
    congr 1
    rw [eq_iff_iff]
    omega
  cases ds with
  | nil => exact absurd rfl hds.ne_nil
  | cons d ds =>
    have hwhole : IsWhole [d] := .inr (hds.take (n := 1) one_ne_zero)
    cases ds with
    | nil =>
      have h := denotes_exponent hwhole (point - 1)
      rw [← hsign] at h
      exact h
    | cons d' ds =>
      have h := denotes_point_exponent hwhole
        (fun c hc => hds.digits c (List.mem_cons_of_mem _ hc)) (by simp) (point - 1)
      rw [← hsign] at h
      have hexponent : point - ((d :: d' :: ds).length : Int)
          = point - 1 - ((d' :: ds).length : Int) := by
        simp
        ring
      rw [hexponent]
      exact h

/-- A finite double is read back from its text. -/
theorem exists_read_text {x : Double} (hfinite : x.isFinite = true) {rest : List Char}
    (hrest : Ends rest) :
    ∃ n : Numeral, read (x.text ++ rest) = .ok (n, rest) ∧ n.number? = some (.real x) := by
  have hbody : ∀ {cs m e}, Denotes cs m e → Double.ofDecimal? x.isNegative m e = some x →
      x.text = signText x.isNegative ++ cs →
      ∃ n : Numeral, read (x.text ++ rest) = .ok (n, rest) ∧ n.number? = some (.real x) := by
    intro cs m e hcs hx htext
    obtain ⟨n, hread, hnumber⟩ := hcs x.isNegative rest hrest
    refine ⟨n, ?_, ?_⟩
    · rw [htext, List.append_assoc, hread]
    · rw [hnumber, hx, Option.map_some]
  by_cases hrank : x.rank = 0
  · have hzero : IsWhole ['0'] := .inl rfl
    refine hbody (denotes_point hzero isDigit_zero (by simp)) ?_ ?_
    · have hx := x.ofRank_rank
      rw [hrank] at hx
      simp [Double.ofDecimal?, Nat.ofDigitChars, hx]
    · rw [Double.text, if_pos hrank]
      rfl
  · have hnumber := Digits.isNumber_significant (Double.mantissa_shortest_ne_zero hfinite hrank)
    have hx := Double.ofDecimal?_significant hfinite hrank
    by_cases hpoint : -5 < x.shortest.point ∧ x.shortest.point ≤ 16
    · refine hbody (denotes_positional hnumber _) hx ?_
      rw [Double.text, if_neg hrank]
      dsimp only
      rw [if_pos hpoint, signText]
    · refine hbody (denotes_scientific hnumber _) hx ?_
      rw [Double.text, if_neg hrank]
      dsimp only
      rw [if_neg hpoint, signText]

/-- A 64-bit integer, with or without sign, is read back from its text. -/
theorem exists_read_intText {i : Int} (hi : Json.isWord i = true) {rest : List Char}
    (hrest : Ends rest) :
    ∃ n : Numeral, read (Json.intText i ++ rest) = .ok (n, rest) ∧
      n.number? = some (.int i) := by
  have hread : ∀ (negative : Bool) (k : Nat),
      read (signText negative ++ (Nat.toDigits 10 k ++ rest))
        = .ok (⟨negative, Nat.toDigits 10 k, none, none⟩, rest) := by
    intro negative k
    have hwhole : IsWhole (Nat.toDigits 10 k) := by
      by_cases hk : k = 0
      · exact .inl (by rw [hk]; rfl)
      · exact .inr (isNumber_toDigits hk)
    exact read_parts negative hwhole hrest.noDigit
      (fractionDigits_of_ne fun c hc => (hrest c hc).2.1) hrest.exponentPart
  have hvalue : ∀ k : Nat, Nat.ofDigitChars 10 (Nat.toDigits 10 k) 0 = k := fun k =>
    Nat.ofDigitChars_toDigits (by decide) (by decide)
  cases i with
  | ofNat k =>
    refine ⟨_, hread false k, ?_⟩
    have hi' : Json.isWord (k : Int) = true := hi
    simp [number?, signed, hvalue, hi']
  | negSucc k =>
    refine ⟨_, hread true (k + 1), ?_⟩
    have hneg : -((k + 1 : Nat) : Int) = Int.negSucc k := rfl
    simp only [number?, signed, hvalue, hneg]
    simp [hi]

end BoundSql
