import BoundSql.Proofs.Composition.Statement
import BoundSql.Text.Uppercase

/-!
# Marks

The characters that quote names and that placeholders begin with. The compiler's own texts have
none of them, and upper case never makes one out of another character. Inside a quoted name each
quote mark is doubled.
-/

namespace BoundSql

namespace Text

/-- The characters that quote names and that placeholders begin with. -/
def marks : List Char := ['"', '`', '?', '$']

lemma toNat_ofNat_of_ne_zero {n : Nat} (h : (Char.ofNat n).toNat ≠ 0) :
    (Char.ofNat n).toNat = n := by
  by_cases hn : n.isValidChar
  · rw [Char.toNat_ofNat, if_pos hn]
  · rw [Char.toNat_ofNat, if_neg hn] at h
    exact absurd rfl h

lemma toNat_ne_zero_of_mem_marks {x : Char} (h : x ∈ marks) : x.toNat ≠ 0 := by
  simp only [marks, List.mem_cons, List.not_mem_nil, or_false] at h
  rcases h with rfl | rfl | rfl | rfl <;> decide

lemma toNat_mem_of_mem_marks {x : Char} (h : x ∈ marks) : x.toNat ∈ [0x22, 0x60, 0x3F, 0x24] := by
  simp only [marks, List.mem_cons, List.not_mem_nil, or_false] at h
  rcases h with rfl | rfl | rfl | rfl <;> decide

/-- No run of the case table moves a letter to a mark. -/
lemma caseRuns_avoid_marks : ∀ r ∈ caseRuns, ∀ m ∈ [0x22, 0x60, 0x3F, 0x24],
    ¬ ((r.first : Int) ≤ (m : Nat) - r.shift ∧ ((m : Nat) : Int) - r.shift ≤ r.last) := by
  decide +kernel

/-- No character becomes several of which one is a mark. -/
lemma expansions_avoid_marks :
    ∀ e ∈ expansions, ∀ n ∈ e.2, n ∉ [0x22, 0x60, 0x3F, 0x24] := by
  decide +kernel

lemma target?_ne_mark {r : CaseRun} (hr : r ∈ caseRuns) {n m : Nat} (h : r.target? n = some m)
    {x : Char} (hx : x ∈ marks) : m ≠ x.toNat := by
  simp only [CaseRun.target?, Option.ite_none_right_eq_some, Option.some.injEq] at h
  obtain ⟨⟨hfirst, hlast, -⟩, hm⟩ := h
  have hne : x.toNat ≠ 0 := toNat_ne_zero_of_mem_marks hx
  intro hmx
  exact caseRuns_avoid_marks r hr _ (toNat_mem_of_mem_marks hx) (by omega)

/-- Among the upper case of a character, a mark is the character itself. -/
lemma eq_of_mem_upperChar {c x : Char} (hx : x ∈ upperChar c) (hmark : x ∈ marks) : x = c := by
  have hne : x.toNat ≠ 0 := toNat_ne_zero_of_mem_marks hmark
  simp only [upperChar] at hx
  split_ifs at hx with hascii
  · rw [List.mem_singleton] at hx
    have htable : ∀ n < 0x80, (Char.ofNat n).toUpper ∈ marks →
        (Char.ofNat n).toUpper = Char.ofNat n := by
      decide +kernel
    have hc : Char.ofNat c.toNat = c := Char.ofNat_toNat c
    have hupper := htable c.toNat hascii
    rw [hc, ← hx] at hupper
    exact hupper hmark
  · split at hx
    · next codes hcodes =>
      obtain ⟨n, hn, rfl⟩ := List.mem_map.mp hx
      obtain ⟨before, after, hsplit, -⟩ := List.lookup_eq_some_iff.mp hcodes
      have hmem : (c.toNat, codes) ∈ expansions := by simp [hsplit]
      have hcode : n ∈ [0x22, 0x60, 0x3F, 0x24] :=
        toNat_ofNat_of_ne_zero hne ▸ toNat_mem_of_mem_marks hmark
      exact absurd hcode (expansions_avoid_marks _ hmem n hn)
    · rw [List.mem_singleton] at hx
      cases hrun : caseRuns.findSome? (·.target? c.toNat) with
      | none => simpa [hrun] using hx
      | some m =>
        simp only [hrun, Option.map_some, Option.getD_some] at hx
        subst hx
        obtain ⟨r, hr, htarget⟩ := List.exists_of_findSome?_eq_some hrun
        exact absurd (toNat_ofNat_of_ne_zero hne).symm (target?_ne_mark hr htarget hmark)

/-- Upper case brings no marks into a text. -/
lemma mem_of_mem_upper {s : String} {x : Char} (hx : x ∈ (upper s).toList) (hmark : x ∈ marks) :
    x ∈ s.toList := by
  simp only [upper, String.toList_ofList, List.mem_flatMap] at hx
  obtain ⟨c, hc, hxc⟩ := hx
  exact eq_of_mem_upperChar hxc hmark ▸ hc

/-! ### Doubled marks -/

/-- A text with each quote mark written twice. -/
def double (q : Char) (cs : List Char) : List Char :=
  cs.flatMap fun c => if c = q then [q, q] else [c]

@[simp] lemma double_nil {q : Char} : double q [] = [] := rfl

@[simp] lemma double_cons_self {q : Char} (cs : List Char) :
    double q (q :: cs) = q :: q :: double q cs := by
  simp [double]

lemma double_cons_of_ne {q c : Char} (h : c ≠ q) (cs : List Char) :
    double q (c :: cs) = c :: double q cs := by
  simp [double, h]

end Text

lemma Dialect.toList_quote (d : Dialect) (s : String) :
    (d.quote s).toList = d.quoteMark :: (Text.double d.quoteMark s.toList ++ [d.quoteMark]) := by
  rw [quote, String.toList_ofList, List.cons_append]
  rfl

open Template Text

/-! ### Texts without marks -/

/-- A text without quotes and placeholders. -/
def Unmarked (d : Dialect) (s : String) : Prop :=
  ∀ x ∈ s.toList, x ≠ d.quoteMark ∧ x ≠ '?' ∧ x ≠ '$'

lemma Unmarked.trimmed {d : Dialect} {s : String} (h : Unmarked d s) : Unmarked d (trimmed s) := by
  intro x hx
  rw [BoundSql.trimmed, String.toList_ofList] at hx
  exact h x ((trimEnd_isPrefix s.toList).subset hx)

lemma Dialect.quoteMark_mem_marks (d : Dialect) : d.quoteMark ∈ marks := by
  cases d <;> decide

lemma Unmarked.notMem {d : Dialect} {s : String} (h : Unmarked d s) :
    d.quoteMark ∉ s.toList ∧ '?' ∉ s.toList ∧ '$' ∉ s.toList :=
  ⟨fun hx => (h _ hx).1 rfl, fun hx => (h _ hx).2.1 rfl, fun hx => (h _ hx).2.2 rfl⟩

lemma quoteMark_notMem_placeholder (d : Dialect) (n : Nat) :
    d.quoteMark ∉ (d.placeholder n).toList := by
  cases d with
  | postgres =>
    simp only [Dialect.placeholder, Dialect.quoteMark, String.toList_append, Nat.toList_repr,
      List.mem_append, not_or]
    refine ⟨by decide, ?_⟩
    intro h
    have := Nat.isDigit_of_mem_toDigits (by decide) (by decide) h
    simp at this
  | generic | mysql | sqlite => simp only [Dialect.placeholder, Dialect.quoteMark]; decide

lemma isDigit_of_isBreak {c : Char} (h : isBreak c = true) : c.isDigit = false := by
  simp only [isBreak, Bool.or_eq_true, beq_iff_eq] at h
  rcases h with (((rfl | rfl) | rfl) | rfl) | rfl <;> decide

/-! ### The compiler's own texts -/

lemma Unmarked.append {d : Dialect} {s s' : String} (h : Unmarked d s) (h' : Unmarked d s') :
    Unmarked d (s ++ s') := by
  intro x hx
  rw [String.toList_append, List.mem_append] at hx
  exact hx.elim (h x) (h' x)

/-- Whether a text has no mark of any dialect. -/
def markFree (s : String) : Bool := s.toList.all fun x => !marks.contains x

lemma unmarked_of_markFree {d : Dialect} {s : String} (h : markFree s = true) : Unmarked d s := by
  have h : ∀ x ∈ s.toList, x ∉ marks := by simpa [markFree] using h
  intro x hx
  refine ⟨?_, ?_, ?_⟩
  · rintro rfl
    exact h _ hx d.quoteMark_mem_marks
  · rintro rfl
    exact h _ hx (by decide)
  · rintro rfl
    exact h _ hx (by decide)

lemma unmarked_repr (d : Dialect) (n : Nat) : Unmarked d n.repr := by
  apply unmarked_of_markFree
  apply List.all_eq_true.mpr
  intro x hx
  rw [Nat.toList_repr] at hx
  have hdigit : x.isDigit = true := Nat.isDigit_of_mem_toDigits (by decide) (by decide) hx
  have hnot : x ∉ marks := by
    intro hmark
    simp only [marks, List.mem_cons, List.not_mem_nil, or_false] at hmark
    rcases hmark with rfl | rfl | rfl | rfl <;> simp at hdigit
  simpa using hnot

lemma admits_unmarked (d : Dialect) : Admits (Unmarked d) where
  literal s hs := by
    have hliterals : literals.all markFree = true := by decide +kernel
    have h : Unmarked d s := unmarked_of_markFree (List.all_eq_true.mp hliterals s hs)
    exact ⟨h, h.trimmed⟩
  limit n := .append (unmarked_of_markFree (by decide)) (unmarked_repr d n)
  offset start hstart n := by
    have hstarts : (offsetStarts.all fun s => markFree (s ++ "OFFSET ")) = true := by decide +kernel
    have hfree : markFree (start ++ "OFFSET ") = true := List.all_eq_true.mp hstarts start hstart
    exact .append (unmarked_of_markFree hfree) (unmarked_repr d n)

/-- A call of a function has no marks if the function's name has none. -/
lemma unmarked_call {d : Dialect} {f : String} (h : Unmarked d f) :
    Unmarked d ("SELECT " ++ Text.upper f ++ "(") := by
  have hupper : Unmarked d (Text.upper f) := by
    intro x hx
    have hmem : x ∈ marks → x ∈ f.toList := mem_of_mem_upper hx
    refine ⟨?_, ?_, ?_⟩
    · rintro rfl
      exact (h _ (hmem d.quoteMark_mem_marks)).1 rfl
    · rintro rfl
      exact (h _ (hmem (by decide))).2.1 rfl
    · rintro rfl
      exact (h _ (hmem (by decide))).2.2 rfl
  have hselect : Unmarked d "SELECT " := unmarked_of_markFree (by decide)
  have hparen : Unmarked d "(" := unmarked_of_markFree (by decide)
  exact .append (.append hselect hupper) hparen

end BoundSql
