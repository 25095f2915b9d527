import BoundSql.Proofs.Token

/-!
# Vocabulary

A command without raw texts is written in a fixed vocabulary: outside its quoted names there are
only keywords, operators, numbers, placeholders and punctuation. The one exception is the name of
an aggregate function, which is neither quoted nor checked; the statement is within the vocabulary
if and only if that name is.
-/

namespace BoundSql

open Template Text

/-! ### The vocabulary -/

/-- The keywords and operators, and the star that stands for all columns. -/
def vocabulary : List String :=
  ["SELECT", "DISTINCT", "FROM", "INNER", "LEFT", "RIGHT", "FULL", "CROSS", "JOIN", "ON", "WHERE",
    "AND", "OR", "NOT", "IS", "NULL", "IN", "BETWEEN", "GROUP", "BY", "ORDER", "ASC", "DESC",
    "LIMIT", "OFFSET", "INSERT", "INTO", "VALUES", "AS", "UNION", "ALL", "UPDATE", "SET", "DELETE",
    "=", "!=", "<>", "<", "<=", ">", ">=", "LIKE", "*"]

/-- Whether a word is a decimal number. -/
def isNumeral (w : String) : Bool :=
  match w.toList with
  | '-' :: cs => isDigits cs
  | cs => isDigits cs

/-- Whether a word is a placeholder of a dialect. -/
def Dialect.isPlaceholder (d : Dialect) (w : String) : Bool :=
  match d with
  | .postgres =>
    match w.toList with
    | '$' :: cs => isDigits cs
    | _ => false
  | .generic | .mysql | .sqlite => w == "?"

/-- Whether a token belongs to the vocabulary. A name does, whatever it contains. -/
def Token.isFixed (d : Dialect) : Token → Bool
  | .name _ | .mark _ => true
  | .word w => vocabulary.contains w || isNumeral w || d.isPlaceholder w
  | .unclosed _ | .value _ => false

/-- Whether a name of a function consists of letters, digits and underscores. -/
def isPlainName (f : String) : Bool := f.toList.all fun c => c.isAlphanum || c == '_'

/-- Tokens of the vocabulary, in front of which a plain function may be selected. -/
def InVocabulary (d : Dialect) (ts : List Token) : Prop :=
  (∀ t ∈ ts, t.isFixed d = true) ∨
    ∃ f rest, ts = .word "SELECT" :: .word f :: .mark '(' :: rest ∧ isPlainName f = true ∧
      ∀ t ∈ rest, t.isFixed d = true

/-- The name of a function that stays in the vocabulary: tokens of the vocabulary, in front of
which a plain word may stand, alone or before a parenthesis. -/
def HarmlessName (d : Dialect) (f : String) : Prop :=
  (∀ t ∈ lex d.quoteMark f.toList, t.isFixed d = true) ∨
    ∃ w rest, lex d.quoteMark f.toList = .word w :: rest ∧ isPlainName w = true ∧
      (∀ t ∈ rest.head?, t = .mark '(') ∧ ∀ t ∈ rest, t.isFixed d = true

/-- A text without quotes whose tokens belong to the vocabulary. -/
def FixedText (d : Dialect) (s : String) : Prop :=
  d.quoteMark ∉ s.toList ∧ ∀ t ∈ lex d.quoteMark s.toList, t.isFixed d = true

/-- Whether a text has no marks and its tokens belong to the vocabulary of every dialect. -/
def isFixedText (s : String) : Bool :=
  markFree s && (lex '"' s.toList).all fun t =>
    match t with
    | .word w => vocabulary.contains w || isNumeral w
    | .mark _ => true
    | .name _ | .unclosed _ | .value _ => false

lemma fixedText_of_isFixedText {s : String} (h : isFixedText s = true) (d : Dialect) :
    FixedText d s := by
  rw [isFixedText, Bool.and_eq_true] at h
  have hquote : d.quoteMark ∉ s.toList := (unmarked_of_markFree h.1).notMem.1
  have hmark : Dialect.generic.quoteMark ∉ s.toList := (unmarked_of_markFree h.1).notMem.1
  refine ⟨hquote, ?_⟩
  intro t ht
  rw [lex_congr hquote hmark] at ht
  have hfixed := List.all_eq_true.mp h.2 t ht
  cases t with
  | word w => exact (Bool.or_eq_true _ _).mpr (Or.inl hfixed)
  | mark c => rfl
  | name s | unclosed s | value v => simp at hfixed

lemma isNumeral_repr (n : Nat) : isNumeral n.repr = true := by
  have hdigits : isDigits n.repr.toList = true := by
    rw [Nat.toList_repr]
    exact isDigits_toDigits n
  rw [isNumeral]
  split
  · next h => simp [h, isDigits] at hdigits
  · exact hdigits

lemma FixedText.append_repr {d : Dialect} {s : String} (hs : FixedText d s)
    (h : s.toList.getLast?.any isBreak = true) (n : Nat) : FixedText d (s ++ n.repr) := by
  refine ⟨?_, ?_⟩
  · rw [String.toList_append, List.mem_append, not_or]
    exact ⟨hs.1, (unmarked_repr d n).notMem.1⟩
  · rw [String.toList_append, lex_append_repr hs.1 h]
    intro t ht
    rcases List.mem_append.mp ht with ht | ht
    · exact hs.2 t ht
    · rw [List.mem_singleton] at ht
      subst ht
      simp [Token.isFixed, isNumeral_repr]

lemma isPlaceholder_placeholder (d : Dialect) (n : Nat) :
    d.isPlaceholder (d.placeholder n) = true := by
  cases d with
  | postgres =>
    have htext : (Dialect.postgres.placeholder n).toList = '$' :: Nat.toDigits 10 n := by
      rw [Dialect.placeholder, String.toList_append, Nat.toList_repr]
      rfl
    simp only [Dialect.isPlaceholder, htext, isDigits_toDigits]
  | generic | mysql | sqlite => rfl

/-! ### The compiler's own texts -/

lemma admits_fixedText (d : Dialect) : Admits (FixedText d) where
  literal s hs := by
    have hliterals : (literals.all fun s => isFixedText s && isFixedText (trimmed s)) = true := by
      decide +kernel
    have h := List.all_eq_true.mp hliterals s hs
    rw [Bool.and_eq_true] at h
    exact ⟨fixedText_of_isFixedText h.1 d, fixedText_of_isFixedText h.2 d⟩
  limit n := by
    have hstart : FixedText d "LIMIT " := fixedText_of_isFixedText (by decide) d
    exact hstart.append_repr rfl n
  offset start hstart n := by
    have hstarts : (offsetStarts.all fun s => isFixedText (s ++ "OFFSET ") &&
        (s ++ "OFFSET ").toList.getLast?.any isBreak) = true := by decide +kernel
    have h := List.all_eq_true.mp hstarts start hstart
    rw [Bool.and_eq_true] at h
    exact (fixedText_of_isFixedText h.1 d).append_repr h.2 n

lemma isFixed_place {d : Dialect} {t : Template} (h : ∀ s, .text s ∈ t → FixedText d s) (n : Nat) :
    ∀ u ∈ place d n (tokens d t), u.isFixed d = true := by
  induction t generalizing n with
  | nil => simp [place]
  | cons p t ih =>
    have ht := ih fun s hs => h s (List.mem_cons_of_mem _ hs)
    rw [tokens_cons]
    cases p with
    | text s =>
      rw [Piece.tokens, place_append fun u hu => (readOff_lex _ _ u hu).1]
      intro u hu
      exact (List.mem_append.mp hu).elim ((h s List.mem_cons_self).2 u) (ht n u)
    | name s =>
      intro u hu
      rcases List.mem_cons.mp hu with rfl | hu
      · rfl
      · exact ht n u hu
    | slot v =>
      intro u hu
      rcases List.mem_cons.mp hu with rfl | hu
      · simp [Token.isFixed, isPlaceholder_placeholder]
      · exact ht (n + 1) u hu

/-- What is composed of texts of the vocabulary is in the vocabulary, whatever its names and values
are. -/
lemma isFixed_lex_chars {d : Dialect} {t : Template} (h : Composed (FixedText d) t) (n : Nat) :
    ∀ u ∈ lex d.quoteMark (chars d n t), u.isFixed d = true := by
  rw [lex_chars (h.mono fun s hs => hs.1)]
  exact isFixed_place h.texts n

/-! ### Names of functions -/

/-- The text in front of the column of an aggregate. -/
def call (f : String) : String := "SELECT " ++ Text.upper f ++ "("

/-- The name of the function of an aggregate is found in the first piece and nowhere else. -/
lemma Query.selectTemplate_of_aggregate {d : Dialect} {q : Query} {a : Aggregate} {t : Template}
    (ha : q.aggregate? = some a) (h : q.selectTemplate d = .ok t) :
    ∃ rest, t = .text (call a.function) :: rest ∧
      ∀ f, { q with aggregate? := some { a with function := f } }.selectTemplate d
        = .ok (.text (call f) :: rest) := by
  obtain ⟨parts, hparts, rfl⟩ := selectTemplate_eq_ok.mp h
  rw [Component.all] at hparts
  obtain ⟨p, ps, hp, hps, rfl⟩ := List.forall₂_cons_left_iff.mp hparts
  simp only [Query.component, ha, Outcome.toExcept_ofExcept, Query.aggregateTemplate, bind_eq_ok,
    pure_eq_ok] at hp
  obtain ⟨c, hc, rfl⟩ := hp
  obtain ⟨rest, hrest⟩ : ∃ rest, ∀ f, join " " (((.text (call f) :: c ++ [.text ")"]) :: ps).filter
      fun u => !u.isEmpty) = .text (call f) :: rest := by
    let others := ps.filter fun u => !u.isEmpty
    refine ⟨c ++ .text ")" :: if others = [] then [] else .text " " :: join " " others, ?_⟩
    intro f
    rw [List.filter_cons_of_pos (by simp), join_cons]
    simp [others]
  refine ⟨rest, hrest a.function, fun f => selectTemplate_eq_ok.mpr ⟨_, ?_, hrest f⟩⟩
  refine List.Forall₂.cons ?_ ?_
  · simp only [Query.component, Outcome.toExcept_ofExcept, Query.aggregateTemplate, hc]
    rfl
  · simpa only [Query.component, ha, Option.isSome_some, List.forall₂_cons_left_iff,
      List.forall₂_nil_left_iff] using hps

/-- A command that calls a function is composed of the call and of texts of the vocabulary. -/
lemma Command.exists_call_of_function {c : Config} {r : Command} {f : String} {t : Template}
    (hraw : r.rawTexts = []) (hf : r.function? = some f) (h : r.template c = .ok t) :
    ∃ rest, t = .text (call f) :: rest ∧ Composed (FixedText c.dialect) rest := by
  cases r with
  | insert q rows | update q row | delete q => simp [function?] at hf
  | select q =>
    obtain ⟨a, ha, rfl⟩ := Option.map_eq_some_iff.mp hf
    obtain ⟨rest, rfl, hrest⟩ := Query.selectTemplate_of_aggregate ha h
    let q' : Query := { q with aggregate? := some { a with function := "" } }
    have hq' : (Command.select q').rawTexts = [] := by
      simpa [rawTexts, Query.rawTexts, Query.identifiers, q', ha] using hraw
    have hcall : FixedText c.dialect (call "") := fixedText_of_isFixedText (by decide) _
    have hcomposed : Composed (FixedText c.dialect) (.text (call "") :: rest) := by
      refine composed_template (r := .select q') (admits_fixedText c.dialect) (by simp [hq'])
        (fun f hf => ?_) (hrest "")
      obtain rfl : "" = f := by simpa [function?, q'] using hf
      exact hcall
    exact ⟨rest, rfl, hcomposed.tail⟩

lemma count_quote (d : Dialect) (s : String) :
    (d.quote s).toList.count d.quoteMark = 2 + 2 * s.toList.count d.quoteMark := by
  have hdouble : ∀ cs : List Char,
      (Text.double d.quoteMark cs).count d.quoteMark = 2 * cs.count d.quoteMark := by
    intro cs
    induction cs with
    | nil => rfl
    | cons c cs ih =>
      by_cases hc : c = d.quoteMark
      · simp [hc, ih]
        omega
      · simp [Text.double_cons_of_ne hc, hc, ih]
  simp [d.toList_quote, hdouble]
  omega

lemma isOpen_scan (q : Char) (m : Mode) (cs : List Char) :
    (scan q m cs).2.isOpen = (m.isOpen ^^ decide (cs.count q % 2 = 1)) := by
  induction cs generalizing m with
  | nil => simp [scan]
  | cons c cs ih =>
    rw [scan, ih, isOpen_next]
    by_cases hc : c = q
    · have hcount : decide ((cs.count q + 1) % 2 = 1) = !decide (cs.count q % 2 = 1) := by
        rw [← decide_not]
        exact decide_eq_decide.mpr (by omega)
      simp [hc, hcount]
    · simp [hc]

/-- A composed template closes as many quotes as it opens. -/
lemma isOpen_scan_chars {d : Dialect} {t : Template} (h : ∀ s, .text s ∈ t → d.quoteMark ∉ s.toList)
    (m : Mode) (n : Nat) : (scan d.quoteMark m (chars d n t)).2.isOpen = m.isOpen := by
  induction t generalizing m n with
  | nil => rfl
  | cons p t ih =>
    have ht := ih fun s hs => h s (List.mem_cons_of_mem _ hs)
    cases p with
    | text s => rw [chars, scan_append, ht, isOpen_scan_of_notMem (h s List.mem_cons_self)]
    | name s =>
      rw [chars, scan_append, ht, isOpen_scan, count_quote]
      simp
    | slot v =>
      rw [chars, scan_append, ht, isOpen_scan_of_notMem (quoteMark_notMem_placeholder d _)]

lemma toList_call (f : String) :
    (call f).toList = "SELECT ".toList ++ ((Text.upper f).toList ++ ['(']) := by
  rw [call, String.toList_append, String.toList_append, List.append_assoc]
  rfl

lemma quoteMark_notMem_select (d : Dialect) : d.quoteMark ∉ "SELECT ".toList :=
  (unmarked_of_markFree (by decide)).notMem.1

lemma lex_select (d : Dialect) : lex d.quoteMark "SELECT ".toList = [.word "SELECT"] := by
  cases d <;> decide

/-- A quote that the name of a function leaves open is still open behind the call. -/
lemma isOpen_scan_call (d : Dialect) (f : String) :
    (scan d.quoteMark .between (call f).toList).2.isOpen
      = (scan d.quoteMark .between (Text.upper f).toList).2.isOpen := by
  have hparen : d.quoteMark ∉ ['('] := by cases d <;> decide
  rw [toList_call, scan_append, scan_append, isOpen_scan_of_notMem hparen, isOpen_scan,
    isOpen_scan_of_notMem (quoteMark_notMem_select d), isOpen_scan]

/-- If the name of a function closes its quotes, it is read apart from what surrounds it. -/
lemma lex_call_append {d : Dialect} {f : String}
    (hclosed : (scan d.quoteMark .between (Text.upper f).toList).2.isOpen = false)
    (cs : List Char) :
    lex d.quoteMark ((call f).toList ++ cs)
      = .word "SELECT" :: lex d.quoteMark (Text.upper f).toList
        ++ .mark '(' :: lex d.quoteMark cs := by
  have hparen : lex d.quoteMark ('(' :: cs) = .mark '(' :: lex d.quoteMark cs := by
    rw [lex, lexFrom_cons, next_of_isBreak rfl rfl (isBreak_ne_quoteMark rfl d)]
    rfl
  rw [toList_call, List.append_assoc, List.append_assoc,
    lex_append_of_getLast (quoteMark_notMem_select d) rfl, lex_select]
  rw [lex, lexFrom_append, List.singleton_append, lexFrom_eq_finish_append hclosed,
    List.singleton_append, hparen]
  · simp [lex, lexFrom]
  · simpa using ⟨rfl, isBreak_ne_quoteMark rfl d⟩

lemma exists_unclosed_mem {q : Char} {cs : List Char} (h : (scan q .between cs).2.isOpen = true) :
    ∃ s, .unclosed s ∈ lex q cs := by
  cases hmode : (scan q .between cs).2 with
  | quoted ds => exact ⟨String.ofList ds, by simp [lex, lexFrom, hmode, Mode.finish]⟩
  | between | word ds | closing ds => simp [hmode, Mode.isOpen] at h

lemma InVocabulary.unclosed_notMem {d : Dialect} {ts : List Token} (h : InVocabulary d ts)
    (s : String) : .unclosed s ∉ ts := by
  intro hs
  rcases h with h | ⟨f, rest, rfl, -, hrest⟩
  · exact absurd (h _ hs) (by simp [Token.isFixed])
  · simp only [List.mem_cons, reduceCtorEq, false_or] at hs
    exact absurd (hrest _ hs) (by simp [Token.isFixed])

lemma HarmlessName.unclosed_notMem {d : Dialect} {f : String} (h : HarmlessName d f)
    (s : String) : .unclosed s ∉ lex d.quoteMark f.toList := by
  intro hs
  rcases h with h | ⟨w, rest, hlex, -, -, hrest⟩
  · exact absurd (h _ hs) (by simp [Token.isFixed])
  · simp only [hlex, List.mem_cons, reduceCtorEq, false_or] at hs
    exact absurd (hrest _ hs) (by simp [Token.isFixed])

/-- A call in front of tokens of the vocabulary leaves the vocabulary only through its name. -/
lemma inVocabulary_call_iff {d : Dialect} {f : String} {ts : List Token}
    (hts : ∀ t ∈ ts, t.isFixed d = true) :
    InVocabulary d (.word "SELECT" :: lex d.quoteMark f.toList ++ .mark '(' :: ts)
      ↔ HarmlessName d f := by
  rw [HarmlessName]
  generalize lex d.quoteMark f.toList = us
  have hselect : Token.isFixed d (.word "SELECT") = true := rfl
  constructor
  · rintro (h | ⟨w, rest, heq, hw, hrest⟩)
    · exact Or.inl fun t ht => h t (by simp [ht])
    · cases us with
      | nil => simp at heq
      | cons u us =>
        simp only [List.cons_append, List.cons.injEq, true_and] at heq
        obtain ⟨rfl, heq⟩ := heq
        refine Or.inr ⟨w, us, rfl, hw, ?_⟩
        cases us with
        | nil => simp
        | cons u us =>
          simp only [List.cons_append, List.cons.injEq] at heq
          obtain ⟨rfl, rfl⟩ := heq
          refine ⟨by simp, ?_⟩
          intro t ht
          rcases List.mem_cons.mp ht with rfl | ht
          · rfl
          · exact hrest t (List.mem_append_left _ ht)
  · rintro (h | ⟨w, rest, rfl, hw, hhead, hrest⟩)
    · apply Or.inl
      intro t ht
      simp only [List.cons_append, List.mem_cons, List.mem_append] at ht
      rcases ht with rfl | ht | rfl | ht
      · exact hselect
      · exact h t ht
      · rfl
      · exact hts t ht
    · refine Or.inr ?_
      cases rest with
      | nil => exact ⟨w, ts, rfl, hw, hts⟩
      | cons u us =>
        obtain rfl : u = .mark '(' := hhead u rfl
        refine ⟨w, us ++ .mark '(' :: ts, by simp, hw, ?_⟩
        intro t ht
        simp only [List.mem_append, List.mem_cons] at ht
        rcases ht with ht | rfl | ht
        · exact hrest t (List.mem_cons_of_mem _ ht)
        · rfl
        · exact hts t ht

lemma toNat_lt_of_isPlain {c : Char} (h : (c.isAlphanum || c == '_') = true) : c.toNat < 0x80 := by
  rcases (Bool.or_eq_true _ _).mp h with h | h
  · simp only [Char.isAlphanum, Char.isAlpha, Char.isUpper, Char.isLower, Char.isDigit,
      Bool.or_eq_true, Bool.and_eq_true, decide_eq_true_eq, UInt32.le_iff_toNat_le, ge_iff_le] at h
    have hc : c.toNat = c.val.toNat := rfl
    have hZ : 'Z'.val.toNat = 90 := rfl
    have hz : 'z'.val.toNat = 122 := rfl
    have h9 : '9'.val.toNat = 57 := rfl
    omega
  · rw [beq_iff_eq] at h
    exact h ▸ by decide

/-- A property of plain characters is decided by those of ASCII. -/
lemma forall_isPlain {p : Char → Bool}
    (h : ∀ n < 0x80, ((Char.ofNat n).isAlphanum || Char.ofNat n == '_') = true →
      p (Char.ofNat n) = true) (c : Char) (hc : (c.isAlphanum || c == '_') = true) :
    p c = true := by
  have hn := h c.toNat (toNat_lt_of_isPlain hc)
  rw [Char.ofNat_toNat] at hn
  exact hn hc

lemma isPlainName_upper {f : String} (h : isPlainName f = true) :
    isPlainName (Text.upper f) = true := by
  rw [isPlainName, List.all_eq_true] at h ⊢
  intro x hx
  simp only [Text.upper, String.toList_ofList, List.mem_flatMap] at hx
  obtain ⟨c, hc, hx⟩ := hx
  rw [upperChar_of_lt (toNat_lt_of_isPlain (h c hc)), List.mem_singleton] at hx
  subst hx
  exact forall_isPlain (p := fun c => c.toUpper.isAlphanum || c.toUpper == '_')
    (by decide +kernel) c (h c hc)

lemma markFree_of_isPlainName {f : String} (h : isPlainName f = true) : markFree f = true :=
  List.all_eq_true.mpr fun c hc =>
    forall_isPlain (p := fun c => !marks.contains c) (by decide +kernel) c
      (List.all_eq_true.mp h c hc)

lemma notBreak_of_isPlainName {f : String} (h : isPlainName f = true) (d : Dialect) :
    ∀ c ∈ f.toList, isBreak c = false ∧ c ≠ d.quoteMark := by
  intro c hc
  have hbreak : (!isBreak c) = true :=
    forall_isPlain (p := fun c => !isBreak c) (by decide +kernel) c
      (List.all_eq_true.mp h c hc)
  have hunmarked : Unmarked d f := unmarked_of_markFree (markFree_of_isPlainName h)
  exact ⟨by simpa using hbreak, (hunmarked c hc).1⟩

/-- A plain name is one word. -/
lemma lex_of_isPlainName (d : Dialect) {f : String} (h : isPlainName f = true) (hf : f ≠ "") :
    lex d.quoteMark f.toList = [.word f] := by
  have hne : f.toList ≠ [] := by simpa using hf
  rw [lex_word hne (notBreak_of_isPlainName h d), String.ofList_toList]

lemma harmlessName_of_isPlainName (d : Dialect) {f : String} (h : isPlainName f = true) :
    HarmlessName d f := by
  by_cases hf : f = ""
  · exact Or.inl (by simp [hf, lex, lexFrom, scan, Mode.finish])
  · exact Or.inr ⟨f, [], lex_of_isPlainName d h hf, h, by simp, by simp⟩

namespace Command

/-- The statement of a command without raw texts is written in the vocabulary if and only if the
name of the function that it calls is, if it calls one. A name of letters, digits and underscores
always is. -/
theorem inVocabulary_iff_of_compile {c : Config} {r : Command} {s : Statement}
    (hraw : r.rawTexts = []) (h : r.compile c = .ok s) :
    (InVocabulary c.dialect (lex c.dialect.quoteMark s.sql.toList) ↔
      ∀ f ∈ r.function?, HarmlessName c.dialect (Text.upper f)) ∧
    ((∀ f ∈ r.function?, isPlainName f = true) →
      InVocabulary c.dialect (lex c.dialect.quoteMark s.sql.toList)) := by
  have hiff : InVocabulary c.dialect (lex c.dialect.quoteMark s.sql.toList) ↔
      ∀ f ∈ r.function?, HarmlessName c.dialect (Text.upper f) := by
    obtain ⟨t, ht, rfl⟩ := compile_eq_ok.mp h
    rw [statement, render, String.toList_ofList]
    cases hfunction : r.function? with
    | none =>
      have hcomposed : Composed (FixedText c.dialect) t :=
        composed_template (admits_fixedText c.dialect) (by simp [hraw]) (by simp [hfunction]) ht
      exact iff_of_true (Or.inl (isFixed_lex_chars hcomposed 0)) (by simp)
    | some f =>
      obtain ⟨rest, rfl, hrest⟩ := exists_call_of_function hraw hfunction ht
      rw [chars]
      by_cases hclosed : (scan c.dialect.quoteMark .between (Text.upper f).toList).2.isOpen = false
      · rw [lex_call_append hclosed, inVocabulary_call_iff (isFixed_lex_chars hrest 0)]
        simp
      · have hopen : (scan c.dialect.quoteMark .between ((call f).toList ++ chars c.dialect 0 rest)
            ).2.isOpen = true := by
          rw [scan_append, isOpen_scan_chars fun s hs => (hrest.texts s hs).1, isOpen_scan_call]
          simpa using hclosed
        obtain ⟨u, hu⟩ := exists_unclosed_mem hopen
        obtain ⟨v, hv⟩ := exists_unclosed_mem (by simpa using hclosed)
        exact iff_of_false (fun hin => hin.unclosed_notMem u hu)
          fun hname => (hname f rfl).unclosed_notMem v hv
  exact ⟨hiff, fun hplain => hiff.mpr fun f hf =>
    harmlessName_of_isPlainName _ (isPlainName_upper (hplain f hf))⟩

/-- A query whose aggregate function is named by a statement of its own. -/
def smuggledFunction : Command :=
  .select
    { table := .name "t"
      aggregate? := some ⟨"count(*) from users; drop table t; --", .name "*"⟩ }

/-- A query without raw texts that leaves the vocabulary. -/
theorem not_inVocabulary_smuggledFunction :
    smuggledFunction.rawTexts = [] ∧
    ∃ s, smuggledFunction.compile {} = .ok s ∧
      s.sql = "SELECT COUNT(*) FROM USERS; DROP TABLE T; --(*) FROM \"t\"" ∧
      ¬ InVocabulary .generic (lex '"' s.sql.toList) := by
  have hcompile : smuggledFunction.compile {} = .ok
      { sql := "SELECT COUNT(*) FROM USERS; DROP TABLE T; --(*) FROM \"t\"", params := [] } := by
    cbv
  have hname : ¬ HarmlessName .generic "COUNT(*) FROM USERS; DROP TABLE T; --" := by
    have hlex : lex '"' "COUNT(*) FROM USERS; DROP TABLE T; --".toList
        = [.word "COUNT", .mark '(', .word "*", .mark ')', .word "FROM", .word "USERS;",
          .word "DROP", .word "TABLE", .word "T;", .word "--"] := by decide
    rw [HarmlessName, show Dialect.generic.quoteMark = '"' from rfl, hlex]
    rintro (h | ⟨w, rest, heq, -, -, hrest⟩)
    · exact absurd (h (.word "COUNT") (by simp)) (by decide)
    · simp only [List.cons.injEq] at heq
      obtain ⟨-, rfl⟩ := heq
      exact absurd (hrest (.word "USERS;") (by simp)) (by decide)
  have hupper : Text.upper "count(*) from users; drop table t; --"
      = "COUNT(*) FROM USERS; DROP TABLE T; --" := by cbv
  obtain ⟨hiff, -⟩ := inVocabulary_iff_of_compile rfl hcompile
  refine ⟨rfl, _, hcompile, rfl, fun hin => hname ?_⟩
  rw [← hupper]
  exact hiff.mp hin _ rfl

end Command

end BoundSql
