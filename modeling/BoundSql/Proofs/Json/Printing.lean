import BoundSql.Json.Text
import BoundSql.Proofs.Json.Numerals

/-!
# What is printed is read back

The text of a JSON value is read as this value, if its numbers are 64-bit integers and finite
doubles and not too many arrays and objects are open at once.
-/

namespace BoundSql

open Draft

/-! ### Strings -/

lemma hexUnit?_control : ∀ n < 32,
    hexUnit? '0' '0' (Nat.digitChar (n / 16)) (Nat.digitChar (n % 16)) = some n := by
  decide

/-- A character that stands for itself inside a string. -/
lemma unquote_cons {c : Char} (hquote : c ≠ '"') (hbackslash : c ≠ '\\') (hplain : ¬ c.toNat < 0x20)
    (rest : List Char) : unquote (c :: rest) = consChar c (unquote rest) := by
  rw [unquote.eq_def]
  simp [hquote, hbackslash, hplain]

lemma unquote_quote (rest : List Char) : unquote ('"' :: rest) = .ok ([], rest) := by
  rw [unquote.eq_def]
  rfl

/-- A character that is written by a letter. -/
lemma unquote_short {e c : Char} (he : e ≠ 'u') (hc : shortEscape? e = some c) (rest : List Char) :
    unquote ('\\' :: e :: rest) = consChar c (unquote rest) := by
  rw [unquote.eq_def]
  simp [he, hc]

/-- A control character that is written by its number. -/
lemma unquote_control {c : Char} (hcontrol : c.toNat < 0x20) (rest : List Char) :
    unquote ('\\' :: 'u' :: '0' :: '0' :: Nat.digitChar (c.toNat / 16) ::
      Nat.digitChar (c.toNat % 16) :: rest) = consChar c (unquote rest) := by
  have hunit := hexUnit?_control c.toNat hcontrol
  have hlow : isLowSurrogate c.toNat = false := by
    simp only [isLowSurrogate, Bool.and_eq_false_iff, decide_eq_false_iff_not]
    omega
  have hhigh : isHighSurrogate c.toNat = false := by
    simp only [isHighSurrogate, Bool.and_eq_false_iff, decide_eq_false_iff_not]
    omega
  rw [unquote]
  simp [hunit, hlow, hhigh, Char.ofNat_toNat]

/-- A character is read as it is written inside a string. -/
lemma unquote_escapeChar (c : Char) (rest : List Char) :
    unquote (Json.escapeChar c ++ rest) = consChar c (unquote rest) := by
  by_cases h : c ∈ ['"', '\\', '\x08', '\x0c', '\n', '\r', '\t']
  · simp only [List.mem_cons, List.not_mem_nil, or_false] at h
    obtain rfl | rfl | rfl | rfl | rfl | rfl | rfl := h
    all_goals exact unquote_short (by decide) rfl rest
  · simp only [List.mem_cons, List.not_mem_nil, or_false, not_or] at h
    obtain ⟨hquote, hbackslash, hback, hform, hnew, hreturn, htab⟩ := h
    rw [Json.escapeChar.eq_8 _ hquote hbackslash hback hform hnew hreturn htab]
    split_ifs with hcontrol
    · exact unquote_control hcontrol rest
    · exact unquote_cons hquote hbackslash hcontrol rest

lemma unquote_flatMap_escapeChar (cs rest : List Char) :
    unquote (cs.flatMap Json.escapeChar ++ '"' :: rest) = .ok (cs, rest) := by
  induction cs with
  | nil => exact unquote_quote rest
  | cons c cs ih => rw [List.flatMap_cons, List.append_assoc, unquote_escapeChar, ih]; rfl

lemma scanString_chars (s : String) (rest : List Char) :
    scanString (s.toList.flatMap Json.escapeChar ++ '"' :: rest) = (.str (some s), rest) := by
  rw [scanString, unquote_flatMap_escapeChar]
  dsimp only
  rw [String.ofList_toList]

/-! ### Numbers -/

/-- A number starts with a sign or a digit. -/
lemma Numeral.exists_cons_of_read {cs : List Char} {r : Numeral × List Char}
    (h : Numeral.read cs = .ok r) : ∃ c rest, cs = c :: rest ∧ (c = '-' ∨ c.isDigit = true) := by
  cases cs with
  | nil => simp [read, wholeDigits, digits, bind, Except.bind] at h
  | cons c cs =>
    refine ⟨c, cs, rfl, ?_⟩
    by_contra hc
    rw [not_or] at hc
    obtain ⟨hminus, hdigit⟩ := hc
    have hzero : c ≠ '0' := by
      rintro rfl
      exact hdigit rfl
    have hwhole : wholeDigits (c :: cs) = .error .malformed := by
      rw [wholeDigits, digits, if_neg hdigit]
      exact fun d rest heq => hzero (List.cons.inj heq).1
    rw [read] at h
    · simp [hwhole, bind, Except.bind] at h
    · exact fun rest heq => hminus (List.cons.inj heq).1

/-! ### Where a value starts and where it stops -/

/-- Whether a value may start with a character: it is not a blank, and closes nothing. -/
def IsSolid (c : Char) : Prop := c ∉ [' ', '\t', '\n', '\r', ']', '\x7d']

instance (c : Char) : Decidable (IsSolid c) := inferInstanceAs (Decidable (_ ∉ _))

lemma IsSolid.ne {c d : Char} (hc : IsSolid c) (hd : ¬IsSolid d) : c ≠ d := by
  rintro rfl
  exact hd hc

/-- Whether a text stops where a value ends. -/
def Stops (rest : List Char) : Prop := ∀ c ∈ rest.head?, c ∈ [',', ']', '\x7d']

lemma Stops.ends {rest : List Char} (h : Stops rest) : Numeral.Ends rest := by
  intro c hc
  have hmem := h c hc
  simp only [List.mem_cons, List.not_mem_nil, or_false] at hmem
  obtain rfl | rfl | rfl := hmem <;> decide

lemma dropBlanks_of_isSolid {c : Char} (hc : IsSolid c) (cs : List Char) :
    dropBlanks (c :: cs) = c :: cs := by
  simp only [IsSolid, List.mem_cons, List.not_mem_nil, or_false, not_or] at hc
  rw [dropBlanks, List.dropWhile_cons_of_neg]
  simp [hc]

lemma isSolid_of_digit {c : Char} (hc : c = '-' ∨ c.isDigit = true) : IsSolid c := by
  obtain rfl | hc := hc
  · decide
  · intro hmem
    simp only [List.mem_cons, List.not_mem_nil, or_false] at hmem
    obtain rfl | rfl | rfl | rfl | rfl | rfl := hmem <;> exact absurd hc (by decide)

lemma scan_number {cs rest : List Char} {n : Numeral} (h : Numeral.read cs = .ok (n, rest))
    (fuel depth : Nat) : scan (fuel + 1) depth cs = (.num n.number?, rest) := by
  obtain ⟨c, cs, rfl, hc⟩ := Numeral.exists_cons_of_read h
  have hne : ∀ d ∈ ['"', '[', '\x7b', 'n', 't', 'f'], c ≠ d := by
    rintro d hd rfl
    obtain rfl | hc := hc
    · exact absurd hd (by decide)
    · simp only [List.mem_cons, List.not_mem_nil, or_false] at hd
      obtain rfl | rfl | rfl | rfl | rfl | rfl := hd <;> exact absurd hc (by decide)
  simp only [List.mem_cons, List.not_mem_nil, or_false, forall_eq_or_imp, forall_eq] at hne
  obtain ⟨hquote, hbracket, hbrace, hn, ht, hf⟩ := hne
  rw [scan, dropBlanks_of_isSolid (isSolid_of_digit hc)]
  dsimp only
  rw [if_neg hquote, if_neg hbracket, if_neg hbrace, if_neg hn, if_neg ht, if_neg hf, if_pos hc,
    scanNumber, h]

/-! ### Values that can be read back -/

namespace Json

/-- Whether a value can be read back from its text: its numbers are 64-bit integers and finite
doubles, and at most so many arrays and objects are open at once. -/
inductive Fits : Nat → Json → Prop where
  | null {n : Nat} : Fits n .null
  | bool {n : Nat} (b : Bool) : Fits n (.bool b)
  | int {n : Nat} {i : Int} (h : isWord i = true) : Fits n (.num (.int i))
  | real {n : Nat} {x : Decimal.Double} (h : x.isFinite = true) : Fits n (.num (.real x))
  | str {n : Nat} (s : String) : Fits n (.str s)
  | arr {n : Nat} {items : List Json} (h : ∀ v ∈ items, Fits n v) : Fits (n + 1) (.arr items)
  | obj {n : Nat} {fields : List (String × Json)} (h : ∀ e ∈ fields, Fits n e.2) :
    Fits (n + 1) (.obj fields)

/-- What a value leaves room for, something flatter leaves room for as well. -/
lemma Fits.mono {m n : Nat} {j : Json} (h : Fits m j) (hmn : m ≤ n) : Fits n j := by
  induction h generalizing n with
  | null => exact .null
  | bool b => exact .bool b
  | int h => exact .int h
  | real h => exact .real h
  | str s => exact .str s
  | arr h ih =>
    obtain ⟨n, rfl⟩ := Nat.exists_eq_add_of_lt hmn
    exact .arr fun v hv => ih v hv (by omega)
  | obj h ih =>
    obtain ⟨n, rfl⟩ := Nat.exists_eq_add_of_lt hmn
    exact .obj fun e he => ih e he (by omega)

lemma Fits.exists_cons {n : Nat} {j : Json} (h : Fits n j) :
    ∃ c cs, j.chars = c :: cs ∧ IsSolid c := by
  have hnil : Numeral.Ends [] := by simp [Numeral.Ends]
  have hnumber : ∀ {cs : List Char} {r : Numeral × List Char}, Numeral.read (cs ++ []) = .ok r →
      ∃ c rest, cs = c :: rest ∧ IsSolid c := by
    intro cs r hr
    rw [List.append_nil] at hr
    obtain ⟨c, rest, rfl, hc⟩ := Numeral.exists_cons_of_read hr
    exact ⟨c, rest, rfl, isSolid_of_digit hc⟩
  cases h with
  | null => exact ⟨_, _, rfl, by decide⟩
  | bool b => cases b <;> exact ⟨_, _, rfl, by decide⟩
  | int h =>
    obtain ⟨n, hread, -⟩ := exists_read_intText h hnil
    exact hnumber hread
  | @real _ x h =>
    obtain ⟨n, hread, -⟩ := exists_read_text h hnil
    rw [chars, numberText, if_pos h]
    exact hnumber hread
  | str s => exact ⟨_, _, rfl, by decide⟩
  | @arr _ items h =>
    cases items <;> exact ⟨_, _, rfl, by decide⟩
  | @obj _ fields h =>
    cases fields <;> exact ⟨_, _, rfl, by decide⟩

end Json

/-! ### Arrays and objects -/

/-- After an item and a comma come the other items. -/
lemma scanItems_comma {fuel depth : Nat} {cs after rest : List Char} {c : Char} {d : Draft}
    {ds : List Draft} {close : Option Fault} (hc : IsSolid c)
    (hscan : scan fuel depth cs = (d, ',' :: c :: rest))
    (hitems : scanItems fuel depth (c :: rest) = (ds, close, after)) :
    scanItems (fuel + 1) depth cs = (d :: ds, close, after) := by
  have hne : c ≠ ']' := hc.ne (by decide)
  rw [scanItems, hscan]
  dsimp only
  rw [dropBlanks_of_isSolid (by decide)]
  simp only
  rw [dropBlanks_of_isSolid hc]
  split
  · next heq => exact absurd (List.cons.inj heq).1 hne
  · rw [hitems]

/-- After a field and a comma come the other fields. -/
lemma scanFields_comma {fuel depth : Nat} {cs value after rest : List Char} {c : Char}
    {k d : Draft} {fs : List (Draft × Draft)} {close : Option Fault} (hc : IsSolid c)
    (hkey : scanString cs = (k, ':' :: value))
    (hscan : scan fuel depth value = (d, ',' :: c :: rest))
    (hfields : scanFields fuel depth (c :: rest) = (fs, close, after)) :
    scanFields (fuel + 1) depth ('"' :: cs) = ((k, d) :: fs, close, after) := by
  have hne : c ≠ '\x7d' := hc.ne (by decide)
  rw [scanFields, hkey]
  simp only
  rw [dropBlanks_of_isSolid (by decide)]
  simp only
  rw [hscan]
  simp only
  rw [dropBlanks_of_isSolid (by decide)]
  simp only
  rw [dropBlanks_of_isSolid hc]
  split
  · next heq => exact absurd (List.cons.inj heq).1 hne
  · rw [hfields]

/-- After a bracket come the items. -/
lemma scan_bracket {fuel depth : Nat} {cs rest : List Char} {c : Char} {ds : List Draft}
    {close : Option Fault} (hc : IsSolid c)
    (hitems : scanItems fuel (depth + 1) (c :: cs) = (ds, close, rest)) :
    scan (fuel + 1) depth ('[' :: c :: cs) = (nested depth (.arr ds close), rest) := by
  have hne : c ≠ ']' := hc.ne (by decide)
  rw [scan, dropBlanks_of_isSolid (by decide)]
  simp only [Char.reduceEq, ↓reduceIte]
  rw [dropBlanks_of_isSolid hc]
  split
  · next heq => exact absurd heq (List.cons_ne_nil _ _)
  · next heq => exact absurd (List.cons.inj heq).1 hne
  · rw [hitems]

/-- After a brace come the fields. -/
lemma scan_brace {fuel depth : Nat} {cs rest : List Char} {c : Char} {fs : List (Draft × Draft)}
    {close : Option Fault} (hc : IsSolid c)
    (hfields : scanFields fuel (depth + 1) (c :: cs) = (fs, close, rest)) :
    scan (fuel + 1) depth ('\x7b' :: c :: cs) = (nested depth (.obj fs close), rest) := by
  have hne : c ≠ '\x7d' := hc.ne (by decide)
  rw [scan, dropBlanks_of_isSolid (by decide)]
  simp only [Char.reduceEq, ↓reduceIte]
  rw [dropBlanks_of_isSolid hc]
  split
  · next heq => exact absurd heq (List.cons_ne_nil _ _)
  · next heq => exact absurd (List.cons.inj heq).1 hne
  · rw [hfields]

namespace Json

/-- Whether a value inside `depth` containers is read back from its text. -/
def Reads (depth : Nat) (j : Json) : Prop :=
  ∀ fuel rest, 2 * j.chars.length ≤ fuel + 1 → Stops rest →
    scan (fuel + 1) depth (j.chars ++ rest) = (j.draft, rest)

/-- The items of an array are read back one after the other. -/
lemma scanItems_chars {n : Nat} {v : Json} {vs : List Json} (fuel depth : Nat) (rest : List Char)
    (h : ∀ w ∈ v :: vs, Fits n w ∧ Reads depth w)
    (hfuel : 2 * (v.chars.length + (charsTail vs).length) + 1 ≤ fuel) :
    scanItems fuel depth (v.chars ++ (charsTail vs ++ rest))
      = (draftItems (v :: vs), none, rest) := by
  induction vs generalizing v fuel with
  | nil =>
    have hlength : (charsTail []).length = 1 := rfl
    obtain ⟨fuel, rfl⟩ : ∃ k, fuel = k + 2 := ⟨fuel - 2, by omega⟩
    have hscan := (h v List.mem_cons_self).2 fuel (charsTail [] ++ rest) (by omega)
      (by simp [charsTail, Stops])
    rw [scanItems, hscan]
    rfl
  | cons w vs ih =>
    have hlength : (charsTail (w :: vs)).length = w.chars.length + (charsTail vs).length + 1 := by
      simp [charsTail]
    obtain ⟨fuel, rfl⟩ : ∃ k, fuel = k + 2 := ⟨fuel - 2, by omega⟩
    obtain ⟨hv, hvs⟩ := List.forall_mem_cons.mp h
    obtain ⟨c, cs, hchars, hc⟩ := (hvs w List.mem_cons_self).1.exists_cons
    have htail : charsTail (w :: vs) ++ rest = ',' :: (w.chars ++ (charsTail vs ++ rest)) := by
      simp [charsTail]
    have hscan := hv.2 fuel (charsTail (w :: vs) ++ rest) (by omega) (by simp [charsTail, Stops])
    have hitems := ih (fuel + 1) hvs (by omega)
    rw [htail] at hscan ⊢
    rw [hchars] at hscan hitems ⊢
    exact scanItems_comma hc hscan hitems

lemma stringText_append (s : String) (rest : List Char) :
    stringText s ++ rest = '"' :: (s.toList.flatMap escapeChar ++ '"' :: rest) := by
  simp [stringText]

/-- The fields of an object are read back one after the other. -/
lemma scanFields_chars {k : String} {v : Json} {fs : List (String × Json)} (fuel depth : Nat)
    (rest : List Char) (h : ∀ e ∈ (k, v) :: fs, Reads depth e.2)
    (hfuel : 2 * ((stringText k).length + v.chars.length + (charsFields fs).length) + 1 ≤ fuel) :
    scanFields fuel depth (stringText k ++ ':' :: (v.chars ++ (charsFields fs ++ rest)))
      = (draftFields ((k, v) :: fs), none, rest) := by
  induction fs generalizing k v fuel with
  | nil =>
    have hlength : (charsFields []).length = 1 := rfl
    obtain ⟨fuel, rfl⟩ : ∃ k, fuel = k + 2 := ⟨fuel - 2, by omega⟩
    have hv : Reads depth v := h _ List.mem_cons_self
    have hscan := hv fuel (charsFields [] ++ rest) (by omega) (by simp [charsFields, Stops])
    rw [stringText_append, scanFields, scanString_chars]
    simp only
    rw [dropBlanks_of_isSolid (by decide)]
    simp only
    rw [hscan]
    rfl
  | cons f fs ih =>
    obtain ⟨k', w⟩ := f
    have hlength : (charsFields ((k', w) :: fs)).length
        = (stringText k').length + w.chars.length + (charsFields fs).length + 2 := by
      simp [charsFields]
      omega
    obtain ⟨fuel, rfl⟩ : ∃ k, fuel = k + 2 := ⟨fuel - 2, by omega⟩
    have hv : Reads depth v := h _ List.mem_cons_self
    have htail : charsFields ((k', w) :: fs) ++ rest
        = ',' :: (stringText k' ++ ':' :: (w.chars ++ (charsFields fs ++ rest))) := by
      simp [charsFields]
    have hscan := hv fuel (charsFields ((k', w) :: fs) ++ rest) (by omega)
      (by simp [charsFields, Stops])
    have hfields := ih (fuel + 1) (fun e he => h e (List.mem_cons_of_mem _ he)) (by omega)
    rw [htail] at hscan ⊢
    rw [stringText_append] at hscan hfields
    rw [stringText_append k, stringText_append k']
    exact scanFields_comma (by decide) (scanString_chars k _) hscan hfields

section

variable {n depth : Nat}

/-- An array is read back if its items are. -/
lemma reads_arr {items : List Json} (h : ∀ v ∈ items, Fits n v ∧ Reads (depth + 1) v)
    (hdepth : depth + 1 ≤ maxDepth) : Reads depth (.arr items) := by
  intro fuel rest hfuel _
  have hnested : ∀ d, nested depth d = d := fun d => if_pos (by omega)
  cases items with
  | nil =>
    rw [chars, List.cons_append, scan, dropBlanks_of_isSolid (by decide)]
    simp [dropBlanks, hnested, draft, draftItems]
  | cons v vs =>
    have hlength : (Json.arr (v :: vs)).chars.length
        = v.chars.length + (charsTail vs).length + 1 := by
      simp [chars]
    have htext : (Json.arr (v :: vs)).chars ++ rest
        = '[' :: (v.chars ++ (charsTail vs ++ rest)) := by
      simp [chars]
    obtain ⟨c, cs, hchars, hc⟩ := (h v List.mem_cons_self).1.exists_cons
    have hitems := scanItems_chars fuel (depth + 1) rest h (by omega)
    rw [htext, draft, ← hnested (.arr _ none)]
    rw [hchars] at hitems ⊢
    exact scan_bracket hc hitems

/-- An object is read back if its fields are. -/
lemma reads_obj {fields : List (String × Json)} (h : ∀ e ∈ fields, Reads (depth + 1) e.2)
    (hdepth : depth + 1 ≤ maxDepth) : Reads depth (.obj fields) := by
  intro fuel rest hfuel _
  have hnested : ∀ d, nested depth d = d := fun d => if_pos (by omega)
  cases fields with
  | nil =>
    rw [chars, List.cons_append, scan, dropBlanks_of_isSolid (by decide)]
    simp [dropBlanks, hnested, draft, draftFields]
  | cons f fs =>
    obtain ⟨k, v⟩ := f
    have hlength : (Json.obj ((k, v) :: fs)).chars.length
        = (stringText k).length + v.chars.length + (charsFields fs).length + 2 := by
      simp [chars]
      omega
    have htext : (Json.obj ((k, v) :: fs)).chars ++ rest
        = '\x7b' :: (stringText k ++ ':' :: (v.chars ++ (charsFields fs ++ rest))) := by
      simp [chars]
    have hfields := scanFields_chars fuel (depth + 1) rest h (by omega)
    rw [htext, draft, ← hnested (.obj _ none)]
    rw [stringText_append] at hfields ⊢
    exact scan_brace (by decide) hfields

/-- A value is read back from its text. -/
lemma Fits.reads {j : Json} (h : Fits n j) (hdepth : depth + n ≤ maxDepth) : Reads depth j := by
  induction h generalizing depth with
  | null =>
    intro fuel rest _ _
    rw [chars, List.cons_append, scan, dropBlanks_of_isSolid (by decide)]
    rfl
  | bool b =>
    intro fuel rest _ _
    cases b
    all_goals
      rw [chars, List.cons_append, scan, dropBlanks_of_isSolid (by decide)]
      rfl
  | @int _ i h =>
    intro fuel rest _ hrest
    obtain ⟨n, hread, hnumber⟩ := exists_read_intText h hrest.ends
    rw [chars, numberText, scan_number hread, hnumber]
    rfl
  | @real _ x h =>
    intro fuel rest _ hrest
    obtain ⟨n, hread, hnumber⟩ := exists_read_text h hrest.ends
    rw [chars, numberText, if_pos h, scan_number hread, hnumber]
    rfl
  | str s =>
    intro fuel rest _ _
    rw [chars, stringText_append, scan, dropBlanks_of_isSolid (by decide)]
    exact scanString_chars s rest
  | arr h ih => exact reads_arr (fun v hv => ⟨h v hv, ih v hv (by omega)⟩) (by omega)
  | obj h ih => exact reads_obj (fun e he => ih e he (by omega)) (by omega)

end

/-- A value that is printed is read back. -/
theorem Fits.ofText {n : Nat} {j : Json} (h : Fits n j) (hn : n ≤ maxDepth) :
    Json.ofText j.text = .ok j := by
  have hdepth : 0 + n ≤ maxDepth := by omega
  have hscan := h.reads hdepth (2 * j.chars.length + 1) [] (by omega) (by simp [Stops])
  rw [List.append_nil] at hscan
  rw [Json.ofText, text, String.toList_ofList, ofChars, hscan]
  simp only [settle_draft, bind, Except.bind]
  rfl

end Json

end BoundSql
