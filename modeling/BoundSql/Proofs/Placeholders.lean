import BoundSql.Proofs.Bindings
import BoundSql.Proofs.Marks

/-!
# Placeholders and parameters

A placeholder counts where it stands outside quotes, and a name may contain any characters,
quotes and placeholders among them. Read so, the text of a compiled statement has exactly one
placeholder for each parameter, in order.
-/

namespace BoundSql

/-! ### Reading placeholders off a text -/

namespace Text

/-- The characters of a text that an even number of quote marks precede, where `odd` says whether
an odd number of marks has come before the text. -/
def outsideFrom (q : Char) : Bool → List Char → List Char
  | _, [] => []
  | false, c :: cs => c :: outsideFrom q (c == q) cs
  | true, c :: cs => outsideFrom q (c != q) cs

/-- The characters of a text outside its quotes. -/
def outside (q : Char) (cs : List Char) : List Char := outsideFrom q false cs

/-- The placeholders in a text: question marks, and dollar signs with the digits after them. -/
def placeholders : List Char → List String
  | [] => []
  | c :: cs =>
    if c = '?' then "?" :: placeholders cs
    else if c = '$' then String.ofList ('$' :: cs.takeWhile Char.isDigit) :: placeholders cs
    else placeholders cs

lemma outsideFrom_append_of_notMem {q : Char} {cs : List Char} (h : q ∉ cs) (rest : List Char) :
    outsideFrom q false (cs ++ rest) = cs ++ outsideFrom q false rest := by
  induction cs with
  | nil => rfl
  | cons c cs ih =>
    simp only [List.mem_cons, not_or] at h
    have hc : (c == q) = false := by simpa using Ne.symm h.1
    rw [List.cons_append, outsideFrom, hc, ih h.2, List.cons_append]

/-- Inside a quoted name, only the second marks of the doubled ones have an even number of marks
before them. -/
lemma outsideFrom_double (q : Char) (cs rest : List Char) :
    ∃ k, outsideFrom q true (double q cs ++ q :: rest)
      = List.replicate k q ++ outsideFrom q false rest := by
  induction cs with
  | nil => exact ⟨0, by simp [outsideFrom]⟩
  | cons c cs ih =>
    obtain ⟨k, hk⟩ := ih
    by_cases hc : c = q
    · refine ⟨k + 1, ?_⟩
      simp [hc, outsideFrom, hk, List.replicate_succ]
    · have hne : (c != q) = true := by simpa using hc
      refine ⟨k, ?_⟩
      rw [double_cons_of_ne hc, List.cons_append, outsideFrom, hne]
      exact hk

lemma outsideFrom_quote (d : Dialect) (s : String) (rest : List Char) :
    ∃ k, outsideFrom d.quoteMark false ((d.quote s).toList ++ rest)
      = List.replicate k d.quoteMark ++ outsideFrom d.quoteMark false rest := by
  obtain ⟨k, hk⟩ := outsideFrom_double d.quoteMark s.toList rest
  refine ⟨k + 1, ?_⟩
  simp [d.toList_quote, outsideFrom, hk, List.replicate_succ]

lemma placeholders_append_of_notMem {cs : List Char} (h : '?' ∉ cs) (h' : '$' ∉ cs)
    (rest : List Char) : placeholders (cs ++ rest) = placeholders rest := by
  induction cs with
  | nil => rfl
  | cons c cs ih =>
    simp only [List.mem_cons, not_or] at h h'
    rw [List.cons_append, placeholders, if_neg (Ne.symm h.1), if_neg (Ne.symm h'.1), ih h.2 h'.2]

/-- Digits and other characters that begin no placeholder end the one before them. -/
lemma placeholders_dollar {digits rest : List Char} (hdigits : ∀ c ∈ digits, c.isDigit = true)
    (hrest : ∀ c ∈ rest.head?, c.isDigit = false) :
    placeholders ('$' :: digits ++ rest) = String.ofList ('$' :: digits) :: placeholders rest := by
  have hrun : (digits ++ rest).takeWhile Char.isDigit = digits := by
    rw [List.takeWhile_append_of_pos hdigits]
    cases rest with
    | nil => simp
    | cons c cs => simp [hrest c rfl]
  have hmark : ∀ x : Char, x.isDigit = false → x ∉ digits := by
    intro x hx hmem
    simp [hdigits x hmem] at hx
  rw [List.cons_append, placeholders, if_neg (by decide), if_pos rfl, hrun,
    placeholders_append_of_notMem (hmark _ (by decide)) (hmark _ (by decide))]

end Text

open Template Text

/-- A placeholder in front of something that starts with no digit is read as it is. -/
lemma placeholders_placeholder (d : Dialect) (n : Nat) {rest : List Char}
    (hrest : ∀ c ∈ rest.head?, c.isDigit = false) :
    placeholders ((d.placeholder n).toList ++ rest) = d.placeholder n :: placeholders rest := by
  cases d with
  | postgres =>
    have htext : (Dialect.postgres.placeholder n).toList = '$' :: Nat.toDigits 10 n := by
      rw [Dialect.placeholder, String.toList_append, Nat.toList_repr]
      rfl
    have hdigits : ∀ c ∈ Nat.toDigits 10 n, c.isDigit = true := fun c hc =>
      Nat.isDigit_of_mem_toDigits (by decide) (by decide) hc
    rw [htext, placeholders_dollar hdigits hrest, ← htext, String.ofList_toList]
  | generic | mysql | sqlite => simp [Dialect.placeholder, placeholders]

/-! ### Reading templates -/

/-- What follows a placeholder starts with a break, which is no digit. -/
lemma isDigit_head_outside {d : Dialect} {v : SqlValue} {t : Template} (n : Nat)
    (h : Composed (Unmarked d) (.slot v :: t)) :
    ∀ c ∈ (outside d.quoteMark (chars d n t)).head?, c.isDigit = false := by
  cases t with
  | nil => simp [chars, outside, outsideFrom]
  | cons p t =>
    have hstarts : p.startsApart = true := by
      have hapart : Piece.Apart (.slot v) p := (List.isChain_cons_cons.mp h.apart).1
      simpa [Piece.Apart, Piece.endsApart] using hapart
    cases p with
    | name s => simp [Piece.startsApart] at hstarts
    | slot w => simp [Piece.startsApart] at hstarts
    | text s =>
      have hs : Unmarked d s := h.texts s (by simp)
      rw [chars, outside, outsideFrom_append_of_notMem hs.notMem.1]
      cases hcs : s.toList with
      | nil => simp [Piece.startsApart, hcs] at hstarts
      | cons c cs =>
        have hc : isBreak c = true := by simpa [Piece.startsApart, hcs] using hstarts
        simpa using isDigit_of_isBreak hc

/-- The placeholders of a template number its slots, whatever its names contain. -/
lemma placeholders_chars {d : Dialect} {t : Template} (h : Composed (Unmarked d) t) (n : Nat) :
    placeholders (outside d.quoteMark (chars d n t))
      = (List.range (params t).length).map fun i => d.placeholder (n + i + 1) := by
  induction t generalizing n with
  | nil => rfl
  | cons p t ih =>
    have ht : Composed (Unmarked d) t := h.tail
    cases p with
    | text s =>
      obtain ⟨hquote, hmark, hdollar⟩ := Unmarked.notMem (h.texts s List.mem_cons_self)
      rw [chars, outside, outsideFrom_append_of_notMem hquote,
        placeholders_append_of_notMem hmark hdollar]
      exact ih ht n
    | name s =>
      obtain ⟨k, hk⟩ := outsideFrom_quote d s (chars d n t)
      have hquotes : ∀ x, x ≠ d.quoteMark → x ∉ List.replicate k d.quoteMark :=
        fun x hx hmem => hx (List.eq_of_mem_replicate hmem)
      rw [chars, outside, hk, placeholders_append_of_notMem
        (hquotes '?' (by cases d <;> decide)) (hquotes '$' (by cases d <;> decide))]
      exact ih ht n
    | slot v =>
      have hrest := isDigit_head_outside (n + 1) h
      rw [chars, outside, outsideFrom_append_of_notMem (quoteMark_notMem_placeholder d _)]
      rw [← outside, placeholders_placeholder d _ hrest, ih ht (n + 1), params, List.length_cons,
        List.range_succ_eq_map, List.map_cons, List.map_map]
      have hshift : ∀ i, n + 1 + i + 1 = n + (i + 1) + 1 := fun i => by omega
      simp only [hshift, Nat.add_zero, Function.comp_def, Nat.succ_eq_add_one]

namespace Command

/-- If no raw text and no function's name contains a quote or begins a placeholder, then outside
its quotes a statement has one placeholder for each parameter, numbered from one on postgres, and
the parameters are the bound values of the command in order. -/
theorem placeholders_of_compile {c : Config} {r : Command} {s : Statement}
    (hraw : ∀ u ∈ r.rawTexts ++ r.function?.toList,
      ∀ x ∈ u.toList, x ≠ c.dialect.quoteMark ∧ x ≠ '?' ∧ x ≠ '$')
    (h : r.compile c = .ok s) :
    s.params = r.bound ∧
      placeholders (outside c.dialect.quoteMark s.sql.toList)
        = (List.range s.params.length).map fun i =>
            if c.dialect = .postgres then "$" ++ (i + 1).repr else "?" := by
  obtain ⟨t, ht, rfl⟩ := compile_eq_ok.mp h
  have hcomposed : Composed (Unmarked c.dialect) t := by
    apply composed_template (admits_unmarked c.dialect) _ _ ht
    · intro u hu
      have hu : Unmarked c.dialect u := hraw u (List.mem_append_left _ hu)
      exact ⟨hu, hu.trimmed⟩
    · intro f hf
      exact unmarked_call (hraw f (List.mem_append_right _ (Option.mem_toList.mpr hf)))
  refine ⟨params_template ht, ?_⟩
  rw [statement, render, String.toList_ofList, placeholders_chars hcomposed 0]
  apply List.map_congr_left
  intro i _
  cases c.dialect with
  | postgres => simp [Dialect.placeholder]
  | generic | mysql | sqlite => rfl

/-- An update of a table and columns whose names contain quotes and placeholders. -/
def hostileUpdate : Command :=
  .update
    { table := .name "a\"?.$1"
      clauses := [
        { predicate := .notBetween (.name "\"c$2") (.param (.int 3)) (.param (.text "?")) },
        { connector := .or, predicate := .isIn (.name "d.*") [.expr ⟨"now()"⟩, .param .null] }] }
    (Row.ofList [("x?", .param (.bool true)), ("y\"", .expr ⟨"y + 1"⟩)])

/-- Four values are bound, and of all the marks in the text four are placeholders. -/
theorem placeholders_of_hostileUpdate :
    (∀ u ∈ hostileUpdate.rawTexts ++ hostileUpdate.function?.toList,
      ∀ x ∈ u.toList, x ≠ '"' ∧ x ≠ '?' ∧ x ≠ '$') ∧
    ∃ s, hostileUpdate.compile { dialect := .postgres } = .ok s ∧
      s.params = [.bool true, .int 3, .text "?", .null] ∧
      placeholders (outside '"' s.sql.toList) = ["$1", "$2", "$3", "$4"] := by
  have hcompile : hostileUpdate.compile { dialect := .postgres } = .ok
      { sql := "UPDATE \"a\"\"?\".\"$1\" SET \"x?\" = $1, \"y\"\"\" = y + 1 "
          ++ "WHERE 1 = 1 AND \"\"\"c$2\" NOT BETWEEN $2 AND $3 OR \"d\".* IN (now(), $4)"
        params := [.bool true, .int 3, .text "?", .null] } := by cbv
  have hfree : (hostileUpdate.rawTexts ++ hostileUpdate.function?.toList).all markFree = true := by
    cbv
  have hraw : ∀ u ∈ hostileUpdate.rawTexts ++ hostileUpdate.function?.toList,
      ∀ x ∈ u.toList, x ≠ '"' ∧ x ≠ '?' ∧ x ≠ '$' :=
    fun u hu => unmarked_of_markFree (d := .postgres) (List.all_eq_true.mp hfree u hu)
  obtain ⟨hparams, hplaceholders⟩ := placeholders_of_compile hraw hcompile
  exact ⟨hraw, _, hcompile, hparams.trans rfl, hplaceholders.trans (by decide)⟩

end Command

end BoundSql
