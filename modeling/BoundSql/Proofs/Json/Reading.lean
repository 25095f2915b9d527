import BoundSql.Proofs.Json.Canonical
import BoundSql.Proofs.Json.Printing

/-!
# What is read can be printed

A value that is read from a text has only numbers that can be printed, and is no deeper than a
text may be. So its own text is read as this value again.
-/

namespace BoundSql

open Decimal Draft

/-! ### Numbers -/

/-- The number that is read is a 64-bit integer or a finite double. -/
lemma Numeral.fits_number? {n : Numeral} {x : JsonNumber} (h : n.number? = some x) (depth : Nat) :
    Json.Fits depth (.num x) := by
  have hreal : ∀ {negative m e}, (Double.ofDecimal? negative m e).map JsonNumber.real = some x →
      Json.Fits depth (.num x) := by
    intro negative m e hx
    obtain ⟨y, hy, rfl⟩ := Option.map_eq_some_iff.mp hx
    exact .real (Double.isFinite_ofDecimal? hy)
  rw [number?] at h
  split at h
  · dsimp only at h
    split_ifs at h with hword
    · obtain rfl := Option.some.inj h
      exact .int hword.1
    · exact hreal h
  · exact hreal h

/-! ### Drafts -/

namespace Draft

/-- Whether a draft settles to nothing but values that fit. -/
def Settles (n : Nat) (d : Draft) : Prop := ∀ j, d.settle = .ok j → Json.Fits n j

lemma settleItems_eq_ok {ds : List Draft} {vs : List Json} (h : settleItems ds = .ok vs) :
    List.Forall₂ (fun d v => d.settle = .ok v) ds vs := by
  induction ds generalizing vs with
  | nil =>
    rw [settleItems, Except.ok.injEq] at h
    exact h ▸ .nil
  | cons d ds ih =>
    rw [settleItems] at h
    obtain ⟨v, hv, h⟩ := bind_eq_ok.mp h
    obtain ⟨vs, hvs, h⟩ := bind_eq_ok.mp h
    exact pure_eq_ok.mp h ▸ .cons hv (ih hvs)

lemma settleFields_eq_ok {fs : List (Draft × Draft)} {es : List (String × Json)}
    (h : settleFields fs = .ok es) :
    List.Forall₂ (fun f e => f.1.key = .ok e.1 ∧ f.2.settle = .ok e.2) fs es := by
  induction fs generalizing es with
  | nil =>
    rw [settleFields, Except.ok.injEq] at h
    exact h ▸ .nil
  | cons f fs ih =>
    rw [settleFields] at h
    obtain ⟨k, hk, h⟩ := bind_eq_ok.mp h
    obtain ⟨v, hv, h⟩ := bind_eq_ok.mp h
    obtain ⟨es, hes, h⟩ := bind_eq_ok.mp h
    exact pure_eq_ok.mp h ▸ .cons ⟨hk, hv⟩ (ih hes)

lemma Settles.arr {n : Nat} {items : List Draft} (h : ∀ d ∈ items, Settles n d)
    (close : Option Fault) : Settles (n + 1) (.arr items close) := by
  intro j hj
  obtain ⟨vs, hvs, hj⟩ := bind_eq_ok.mp hj
  obtain ⟨-, -, hj⟩ := bind_eq_ok.mp hj
  obtain rfl := pure_eq_ok.mp hj
  refine .arr fun v hv => ?_
  obtain ⟨d, hd, hdv⟩ := exists_of_mem_forall₂ (settleItems_eq_ok hvs) hv
  exact h d hd v hdv

lemma Settles.obj {n : Nat} {fields : List (Draft × Draft)} (h : ∀ f ∈ fields, Settles n f.2)
    (close : Option Fault) : Settles (n + 1) (.obj fields close) := by
  intro j hj
  obtain ⟨es, hes, hj⟩ := bind_eq_ok.mp hj
  obtain ⟨-, -, hj⟩ := bind_eq_ok.mp hj
  obtain rfl := pure_eq_ok.mp hj
  refine .obj fun e he => ?_
  obtain ⟨f, hf, -, hfe⟩ := exists_of_mem_forall₂ (settleFields_eq_ok hes) he
  exact h f hf e.2 hfe

/-- A container settles only where there is room for it. -/
lemma Settles.nested {depth : Nat} {d : Draft}
    (h : Settles (maxDepth - (depth + 1) + 1) d) : Settles (maxDepth - depth) (nested depth d) := by
  rw [Draft.nested]
  split_ifs with hdepth
  · have hroom : maxDepth - (depth + 1) + 1 = maxDepth - depth := by omega
    exact hroom ▸ h
  · intro j hj
    simp [settle] at hj

lemma settles_of_error {n : Nat} {d : Draft} {f : Fault} (h : d.settle = .error f) :
    Settles n d := by
  intro j hj
  simp [h] at hj

/-! ### Texts -/

lemma settles_scanString (n : Nat) (cs : List Char) : Settles n (scanString cs).1 := by
  rw [scanString]
  split
  · intro j hj
    rw [settle, Except.ok.injEq] at hj
    exact hj ▸ .str _
  · split <;> exact settles_of_error rfl

lemma settles_num {n : Nat} {x? : Option JsonNumber} (h : ∀ x, x? = some x → Json.Fits n (.num x)) :
    Settles n (.num x?) := by
  cases x? with
  | none => exact settles_of_error rfl
  | some x =>
    rintro j ⟨⟩
    exact h x rfl

lemma settles_scanNumber (n : Nat) (cs : List Char) : Settles n (scanNumber cs).1 := by
  rw [scanNumber]
  split
  · exact settles_num fun x hx => Numeral.fits_number? hx n
  · exact settles_of_error rfl

lemma settles_scanLiteral {n : Nat} {value : Draft} (h : Settles n value) (word cs : List Char) :
    Settles n (scanLiteral word value cs).1 := by
  rw [scanLiteral]
  split
  · exact h
  · exact settles_of_error rfl

section

variable {fuel : Nat}

lemma settles_scan_succ
    (hitems : ∀ depth cs, ∀ d ∈ (scanItems fuel depth cs).1, Settles (maxDepth - depth) d)
    (hfields : ∀ depth cs, ∀ f ∈ (scanFields fuel depth cs).1, Settles (maxDepth - depth) f.2)
    (depth : Nat) (cs : List Char) :
    Settles (maxDepth - depth) (scan (fuel + 1) depth cs).1 := by
  rw [scan]
  split
  · exact settles_of_error rfl
  · next c rest _ =>
    split_ifs
    · exact settles_scanString _ _
    · split
      · exact (Settles.arr (by simp) _).nested
      · exact (Settles.arr (by simp) _).nested
      · exact (Settles.arr (hitems (depth + 1) _) _).nested
    · split
      · exact (Settles.obj (by simp) _).nested
      · exact (Settles.obj (by simp) _).nested
      · exact (Settles.obj (hfields (depth + 1) _) _).nested
    · exact settles_scanLiteral (by rintro j ⟨⟩; exact .null) _ _
    · exact settles_scanLiteral (by rintro j ⟨⟩; exact .bool _) _ _
    · exact settles_scanLiteral (by rintro j ⟨⟩; exact .bool _) _ _
    · exact settles_scanNumber _ _
    · exact settles_of_error rfl

lemma settles_scanItems_succ
    (hscan : ∀ depth cs, Settles (maxDepth - depth) (scan fuel depth cs).1)
    (hitems : ∀ depth cs, ∀ d ∈ (scanItems fuel depth cs).1, Settles (maxDepth - depth) d)
    (depth : Nat) (cs : List Char) :
    ∀ d ∈ (scanItems (fuel + 1) depth cs).1, Settles (maxDepth - depth) d := by
  have hitem := hscan depth cs
  rw [scanItems]
  cases hd : scan fuel depth cs with | mk d rest =>
  rw [hd] at hitem
  dsimp only
  split
  · simpa using hitem
  · simpa using hitem
  · split
    · simpa using hitem
    · simp only [List.forall_mem_cons]
      exact ⟨hitem, hitems depth _⟩
  · simpa using hitem

lemma settles_scanFields_succ
    (hscan : ∀ depth cs, Settles (maxDepth - depth) (scan fuel depth cs).1)
    (hfields : ∀ depth cs, ∀ f ∈ (scanFields fuel depth cs).1, Settles (maxDepth - depth) f.2)
    (depth : Nat) (cs : List Char) :
    ∀ f ∈ (scanFields (fuel + 1) depth cs).1, Settles (maxDepth - depth) f.2 := by
  rw [scanFields.eq_def]
  dsimp only
  split
  · next rest =>
    cases hk : scanString rest with | mk k rest =>
    dsimp only
    split
    · simpa using settles_of_error rfl
    · next rest _ =>
      have hvalue := hscan depth rest
      cases hd : scan fuel depth rest with | mk d rest =>
      rw [hd] at hvalue
      dsimp only
      split
      · simpa using hvalue
      · simpa using hvalue
      · split
        · simpa using hvalue
        · simp only [List.forall_mem_cons]
          exact ⟨hvalue, hfields depth _⟩
      · simpa using hvalue
    · simpa using settles_of_error rfl
  · simpa using settles_of_error rfl
  · simpa using settles_of_error rfl

/-- What is scanned inside some containers settles to values that leave room for these. -/
lemma settles_scan (fuel : Nat) :
    (∀ depth cs, Settles (maxDepth - depth) (scan fuel depth cs).1) ∧
    (∀ depth cs, ∀ d ∈ (scanItems fuel depth cs).1, Settles (maxDepth - depth) d) ∧
    ∀ depth cs, ∀ f ∈ (scanFields fuel depth cs).1, Settles (maxDepth - depth) f.2 := by
  induction fuel with
  | zero => exact ⟨fun _ _ => settles_of_error rfl, by simp [scanItems], by simp [scanFields]⟩
  | succ fuel ih =>
    obtain ⟨hscan, hitems, hfields⟩ := ih
    exact ⟨settles_scan_succ hitems hfields, settles_scanItems_succ hscan hitems,
      settles_scanFields_succ hscan hfields⟩

end

end Draft

namespace Json

/-- What is read from a text can be read back from its own text. -/
lemma fits_of_ofText {s : String} {j : Json} (h : ofText s = .ok j) : Fits maxDepth j := by
  have hscan := (settles_scan (2 * s.toList.length + 2)).1 0 s.toList
  rw [ofText, ofChars] at h
  cases hd : scan (2 * s.toList.length + 2) 0 s.toList with | mk d rest =>
  rw [hd] at h hscan
  obtain ⟨v, hv, h⟩ := bind_eq_ok.mp h
  split_ifs at h
  exact pure_eq_ok.mp h ▸ hscan v hv

/-- A value that was read is read back from its text. -/
theorem ofText_text_of_ofText {s : String} {j : Json} (h : ofText s = .ok j) :
    ofText j.text = .ok j :=
  (fits_of_ofText h).ofText le_rfl

/-! ### Canonical forms -/

lemma Fits.putField {n : Nat} {k : String} {v : Json} {fs : List (String × Json)} (hv : Fits n v)
    (hfs : ∀ e ∈ fs, Fits n e.2) : ∀ e ∈ putField k v fs, Fits n e.2 := by
  intro e he
  obtain rfl | he := mem_putField he
  · exact hv
  · exact hfs e he

lemma Fits.canonicalFields {n : Nat} {fs done : List (String × Json)}
    (hfs : ∀ e ∈ fs, Fits n e.2.canonical) (hdone : ∀ e ∈ done, Fits n e.2) :
    ∀ e ∈ canonicalFields fs done, Fits n e.2 := by
  induction fs generalizing done with
  | nil =>
    rw [Json.canonicalFields]
    exact hdone
  | cons f fs ih =>
    obtain ⟨k, v⟩ := f
    obtain ⟨hv, hfs⟩ := List.forall_mem_cons.mp hfs
    rw [Json.canonicalFields]
    exact ih hfs (Fits.putField hv hdone)

/-- The canonical form of a value can be read back if the value can. -/
lemma Fits.canonical {n : Nat} {j : Json} (h : Fits n j) : Fits n j.canonical := by
  induction h with
  | null => exact .null
  | bool b => exact .bool b
  | int h => exact .int h
  | real h => exact .real h
  | str s => exact .str s
  | arr h ih =>
    rw [Json.canonical, canonicalItems_eq_map]
    refine .arr fun v hv => ?_
    obtain ⟨w, hw, rfl⟩ := List.mem_map.mp hv
    exact ih w hw
  | obj h ih =>
    rw [Json.canonical]
    exact .obj (Fits.canonicalFields ih (by simp))

lemma fits_of_documentOfText {s : String} {j : Json} (h : documentOfText s = .ok j) :
    Fits maxDepth j := by
  obtain ⟨v, hv, rfl⟩ := map_eq_ok.mp h
  exact (fits_of_ofText hv).canonical

end Json

end BoundSql
