import BoundSql.Proofs.Marks

/-!
# Tokens

How the text of a statement is read. A quoted name is a unit, whatever it contains; outside quotes,
blanks and punctuation part the words. A template is read piece by piece, since there is a break
between any two pieces.
-/

namespace BoundSql

/-- A token of a statement. -/
inductive Token where
  /-- a quoted name, without its quotes -/
  | name (s : String)
  /-- what follows a quote that is never closed -/
  | unclosed (s : String)
  | word (s : String)
  | mark (c : Char)
  /-- a value that is bound to a placeholder -/
  | value (v : SqlValue)
deriving DecidableEq

/-- Where a reader stands, with what it has read of the current token. -/
inductive Mode where
  | between
  | word (cs : List Char)
  | quoted (cs : List Char)
  /-- behind a quote mark, which closes the name unless another one follows -/
  | closing (cs : List Char)

namespace Mode

/-- The token that ends here. -/
def finish : Mode → List Token
  | .between => []
  | .word cs => [.word (String.ofList cs)]
  | .quoted cs => [.unclosed (String.ofList cs)]
  | .closing cs => [.name (String.ofList cs)]

/-- Whether a quote is still to be closed. -/
def isOpen : Mode → Bool
  | .quoted _ => true
  | .between | .word _ | .closing _ => false

end Mode

/-- A break as a token; blanks are none. -/
def breakTokens (c : Char) : List Token := if c = ' ' then [] else [.mark c]

/-- One more character where no token is being read. -/
def start (q : Char) (c : Char) : List Token × Mode :=
  if c = q then ([], .quoted [])
  else if isBreak c then (breakTokens c, .between)
  else ([], .word [c])

/-- One more character: the tokens that it ends, and where the reader stands then. -/
def next (q : Char) (m : Mode) (c : Char) : List Token × Mode :=
  match m with
  | .between => start q c
  | .word cs =>
    if c = q ∨ isBreak c then (m.finish ++ (start q c).1, (start q c).2)
    else ([], .word (cs ++ [c]))
  | .quoted cs => if c = q then ([], .closing cs) else ([], .quoted (cs ++ [c]))
  | .closing cs =>
    if c = q then ([], .quoted (cs ++ [q])) else (m.finish ++ (start q c).1, (start q c).2)

/-- The tokens that end within a text, and where the reader stands behind it. -/
def scan (q : Char) : Mode → List Char → List Token × Mode
  | m, [] => ([], m)
  | m, c :: cs => ((next q m c).1 ++ (scan q (next q m c).2 cs).1, (scan q (next q m c).2 cs).2)

/-- The tokens of a text, read from where the reader stands. -/
def lexFrom (q : Char) (m : Mode) (cs : List Char) : List Token :=
  (scan q m cs).1 ++ (scan q m cs).2.finish

/-- The tokens of a text. -/
def lex (q : Char) (cs : List Char) : List Token := lexFrom q .between cs

/-! ### Reading texts -/

section

variable {q : Char} {m : Mode}

lemma scan_append (q : Char) (m : Mode) (cs ds : List Char) :
    scan q m (cs ++ ds)
      = ((scan q m cs).1 ++ (scan q (scan q m cs).2 ds).1, (scan q (scan q m cs).2 ds).2) := by
  induction cs generalizing m with
  | nil => simp [scan]
  | cons c cs ih => simp [scan, ih]

lemma lexFrom_append (q : Char) (m : Mode) (cs ds : List Char) :
    lexFrom q m (cs ++ ds) = (scan q m cs).1 ++ lexFrom q (scan q m cs).2 ds := by
  simp [lexFrom, scan_append]

lemma lexFrom_cons (q : Char) (m : Mode) (c : Char) (cs : List Char) :
    lexFrom q m (c :: cs) = (next q m c).1 ++ lexFrom q (next q m c).2 cs := by
  simp [lexFrom, scan]

/-- A break ends the current token. -/
lemma next_of_isBreak (hm : m.isOpen = false) {c : Char} (hc : isBreak c = true) (hq : c ≠ q) :
    next q m c = (m.finish ++ breakTokens c, .between) := by
  cases m with
  | between => simp [next, start, Mode.finish, hc, hq]
  | word cs => simp [next, start, hc, hq]
  | quoted cs => simp [Mode.isOpen] at hm
  | closing cs => simp [next, start, hc, hq]

/-- Only a quote mark opens a quote or closes one. -/
lemma isOpen_next (q : Char) (m : Mode) (c : Char) :
    (next q m c).2.isOpen = (m.isOpen ^^ decide (c = q)) := by
  by_cases hc : c = q
  · cases m <;> simp [next, start, Mode.isOpen, hc]
  · cases m with
    | quoted cs => simp [next, Mode.isOpen, hc]
    | between | word cs | closing cs =>
      simp only [next, start, hc, false_or, if_false]
      split_ifs <;> rfl

lemma isOpen_scan_of_notMem {cs : List Char} (h : q ∉ cs) : (scan q m cs).2.isOpen = m.isOpen := by
  induction cs generalizing m with
  | nil => rfl
  | cons c cs ih =>
    simp only [List.mem_cons, not_or] at h
    rw [scan, ih h.2, isOpen_next, decide_eq_false (Ne.symm h.1), Bool.xor_false]

/-- Nothing of the text before a break runs into what follows. -/
lemma lexFrom_eq_finish_append (hm : m.isOpen = false) {cs : List Char}
    (h : ∀ c ∈ cs.head?, isBreak c = true ∧ c ≠ q) :
    lexFrom q m cs = m.finish ++ lex q cs := by
  cases cs with
  | nil => simp [lex, lexFrom, scan, Mode.finish]
  | cons c cs =>
    obtain ⟨hc, hq⟩ := h c rfl
    rw [lex, lexFrom_cons, lexFrom_cons, next_of_isBreak hm hc hq, next_of_isBreak rfl hc hq]
    simp [Mode.finish]

lemma lex_append_of_head {cs ds : List Char} (hcs : q ∉ cs)
    (h : ∀ c ∈ ds.head?, isBreak c = true ∧ c ≠ q) : lex q (cs ++ ds) = lex q cs ++ lex q ds := by
  have hmode : (scan q .between cs).2.isOpen = false := isOpen_scan_of_notMem hcs
  rw [lex, lexFrom_append, lexFrom_eq_finish_append hmode h, ← List.append_assoc]
  rfl

lemma lex_append_of_getLast {cs ds : List Char} (hcs : q ∉ cs)
    (h : cs.getLast?.any isBreak = true) : lex q (cs ++ ds) = lex q cs ++ lex q ds := by
  rcases List.eq_nil_or_concat cs with rfl | ⟨cs, c, rfl⟩
  · simp at h
  · rw [List.concat_eq_append] at hcs h ⊢
    simp only [List.getLast?_append, List.getLast?_singleton, Option.some_or, Option.any_some] at h
    simp only [List.mem_append, List.mem_singleton, not_or] at hcs
    have hmode : (scan q .between (cs ++ [c])).2 = .between := by
      have hopen : (scan q .between cs).2.isOpen = false := isOpen_scan_of_notMem hcs.1
      rw [scan_append]
      simp only [scan, next_of_isBreak hopen h (Ne.symm hcs.2)]
    rw [lex, lexFrom_append, hmode]
    simp [lex, lexFrom, hmode, Mode.finish]

lemma scan_congr {q' : Char} {cs : List Char} (h : q ∉ cs) (h' : q' ∉ cs) (m : Mode) :
    scan q m cs = scan q' m cs := by
  induction cs generalizing m with
  | nil => rfl
  | cons c cs ih =>
    simp only [List.mem_cons, not_or] at h h'
    have hnext : next q m c = next q' m c := by
      cases m <;> simp [next, start, Ne.symm h.1, Ne.symm h'.1]
    rw [scan, scan, hnext, ih h.2 h'.2]

/-- A text without quotes is read the same in all dialects. -/
lemma lex_congr {q' : Char} {cs : List Char} (h : q ∉ cs) (h' : q' ∉ cs) :
    lex q cs = lex q' cs := by
  rw [lex, lex, lexFrom, lexFrom, scan_congr h h']

lemma scan_word {cs ds : List Char} (h : ∀ c ∈ ds, isBreak c = false ∧ c ≠ q) :
    scan q (.word cs) ds = ([], .word (cs ++ ds)) := by
  induction ds generalizing cs with
  | nil => simp [scan]
  | cons d ds ih =>
    obtain ⟨hd, hq⟩ := h d List.mem_cons_self
    have hnext : next q (.word cs) d = ([], .word (cs ++ [d])) := by simp [next, hd, hq]
    simp [scan, hnext, ih fun c hc => h c (List.mem_cons_of_mem _ hc)]

/-- Characters without breaks and quotes are one word. -/
lemma lex_word {cs : List Char} (hcs : cs ≠ []) (h : ∀ c ∈ cs, isBreak c = false ∧ c ≠ q) :
    lex q cs = [.word (String.ofList cs)] := by
  cases cs with
  | nil => exact absurd rfl hcs
  | cons c cs =>
    obtain ⟨hc, hq⟩ := h c List.mem_cons_self
    have hstart : next q .between c = ([], .word [c]) := by simp [next, start, hc, hq]
    rw [lex, lexFrom_cons, hstart, lexFrom, scan_word fun c hc => h c (List.mem_cons_of_mem _ hc)]
    rfl

/-- Inside quotes a doubled mark is read as one. -/
lemma scan_double (q : Char) (cs ds : List Char) :
    scan q (.quoted cs) (Text.double q ds ++ [q]) = ([], .closing (cs ++ ds)) := by
  induction ds generalizing cs with
  | nil => simp [scan, next]
  | cons d ds ih =>
    by_cases hd : d = q
    · simp [hd, scan, next, ih]
    · rw [Text.double_cons_of_ne hd]
      simp [scan, next, hd, ih]

/-- A quoted name is one token, whatever it contains. -/
lemma lex_quote (d : Dialect) (s : String) {cs : List Char}
    (h : ∀ c ∈ cs.head?, isBreak c = true ∧ c ≠ d.quoteMark) :
    lex d.quoteMark ((d.quote s).toList ++ cs) = .name s :: lex d.quoteMark cs := by
  have hstart : next d.quoteMark .between d.quoteMark = ([], .quoted []) := by simp [next, start]
  rw [d.toList_quote, List.cons_append, lex, lexFrom_cons, hstart, lexFrom_append, scan_double,
    lexFrom_eq_finish_append rfl h]
  simp [Mode.finish]

end

/-! ### Reading templates -/

open Template Text

/-- What is read of a piece: the tokens of a text, a name, or a bound value. -/
def Piece.tokens (d : Dialect) : Piece → List Token
  | .text s => lex d.quoteMark s.toList
  | .name s => [.name s]
  | .slot v => [.value v]

@[simp] lemma Piece.tokens_name (d : Dialect) (s : String) : Piece.tokens d (.name s) = [.name s] :=
  rfl

@[simp] lemma Piece.tokens_slot (d : Dialect) (v : SqlValue) :
    Piece.tokens d (.slot v) = [.value v] := rfl

/-- What is read of a template. -/
def Template.tokens (d : Dialect) (t : Template) : List Token := t.flatMap (Piece.tokens d)

@[simp] lemma Template.tokens_nil (d : Dialect) : tokens d [] = [] := rfl

@[simp] lemma Template.tokens_cons (d : Dialect) (p : Piece) (t : Template) :
    tokens d (p :: t) = p.tokens d ++ tokens d t := rfl

@[simp] lemma Template.tokens_append (d : Dialect) (s t : Template) :
    tokens d (s ++ t) = tokens d s ++ tokens d t := List.flatMap_append

/-- Tokens as they are written, with placeholders for the values, when `n` values are bound
before them. -/
def place (d : Dialect) : Nat → List Token → List Token
  | _, [] => []
  | n, .value _ :: ts => .word (d.placeholder (n + 1)) :: place d (n + 1) ts
  | n, t :: ts => t :: place d n ts

/-- The values among tokens. -/
def Token.value? : Token → Option SqlValue
  | .value v => some v
  | _ => none

lemma place_append {d : Dialect} {n : Nat} {ts : List Token} (h : ∀ t ∈ ts, t.value? = none)
    (us : List Token) : place d n (ts ++ us) = ts ++ place d n us := by
  induction ts with
  | nil => rfl
  | cons t ts ih =>
    have ht : t.value? = none := h t List.mem_cons_self
    have hts := ih fun u hu => h u (List.mem_cons_of_mem _ hu)
    cases t with
    | value v => simp [Token.value?] at ht
    | name s | unclosed s | word s | mark c => simp [place, hts]

/-- The word that is being read. -/
def Mode.pending : Mode → List Char
  | .word cs => cs
  | .between | .quoted _ | .closing _ => []

/-- A token that is read off given characters: no bound value, and if a word, then one of these
characters. -/
def Token.ReadOff (cs : List Char) (t : Token) : Prop :=
  t.value? = none ∧ ∀ s, t = .word s → s.toList ⊆ cs

lemma readOff_finish (m : Mode) : ∀ t ∈ m.finish, t.ReadOff m.pending := by
  intro t ht
  cases m with
  | between => simp [Mode.finish] at ht
  | word cs | quoted cs | closing cs =>
    simp only [Mode.finish, List.mem_singleton] at ht
    subst ht
    simp [Token.ReadOff, Token.value?, Mode.pending]

lemma readOff_start (q c : Char) (cs : List Char) : ∀ t ∈ (start q c).1, t.ReadOff cs := by
  intro t ht
  simp only [start, breakTokens] at ht
  split_ifs at ht <;> simp at ht
  subst ht
  simp [Token.ReadOff, Token.value?]

lemma pending_start (q c : Char) : (start q c).2.pending ⊆ [c] := by
  simp only [start]
  split_ifs <;> simp [Mode.pending]

lemma Token.ReadOff.mono {cs ds : List Char} {t : Token} (h : cs ⊆ ds) (ht : t.ReadOff cs) :
    t.ReadOff ds :=
  ⟨ht.1, fun s hs => List.Subset.trans (ht.2 s hs) h⟩

lemma readOff_next (q : Char) (m : Mode) (c : Char) :
    (∀ t ∈ (next q m c).1, t.ReadOff m.pending) ∧ (next q m c).2.pending ⊆ m.pending ++ [c] := by
  have hend : ∀ t ∈ m.finish ++ (start q c).1, t.ReadOff m.pending := fun t ht =>
    (List.mem_append.mp ht).elim (readOff_finish m t) (readOff_start q c _ t)
  have hbegin : (start q c).2.pending ⊆ m.pending ++ [c] :=
    List.Subset.trans (pending_start q c) (List.subset_append_right _ _)
  cases m with
  | between => exact ⟨readOff_start q c _, hbegin⟩
  | word cs =>
    simp only [next]
    split_ifs
    · exact ⟨hend, hbegin⟩
    · exact ⟨by simp, by simp [Mode.pending]⟩
  | quoted cs =>
    simp only [next]
    split_ifs <;> simp [Mode.pending]
  | closing cs =>
    simp only [next]
    split_ifs
    · simp [Mode.pending]
    · exact ⟨hend, hbegin⟩

lemma readOff_lexFrom (q : Char) (m : Mode) (cs : List Char) :
    ∀ t ∈ lexFrom q m cs, t.ReadOff (m.pending ++ cs) := by
  induction cs generalizing m with
  | nil => simpa [lexFrom, scan] using readOff_finish m
  | cons c cs ih =>
    obtain ⟨hended, hpending⟩ := readOff_next q m c
    intro t ht
    rw [lexFrom_cons, List.mem_append] at ht
    rcases ht with ht | ht
    · exact (hended t ht).mono (List.subset_append_left _ _)
    · refine (ih _ t ht).mono (List.append_subset.mpr ⟨fun x hx => ?_, fun x hx => by simp [hx]⟩)
      have hx : x ∈ m.pending ++ [c] := hpending hx
      rw [List.mem_append, List.mem_singleton] at hx
      simpa [or_assoc] using Or.inl hx

/-- The tokens of a text are read off its characters. -/
lemma readOff_lex (q : Char) (cs : List Char) : ∀ t ∈ lex q cs, t.ReadOff cs :=
  readOff_lexFrom q .between cs

lemma lex_placeholder (d : Dialect) (n : Nat) :
    lex d.quoteMark (d.placeholder n).toList = [.word (d.placeholder n)] := by
  have hchars : ∀ c ∈ (d.placeholder n).toList, isBreak c = false := by
    cases d with
    | postgres =>
      simp only [Dialect.placeholder, String.toList_append, Nat.toList_repr, List.mem_append]
      rintro c (hc | hc)
      · rw [show "$".toList = ['$'] from rfl, List.mem_singleton] at hc
        exact hc ▸ rfl
      · have hdigit : c.isDigit = true := Nat.isDigit_of_mem_toDigits (by decide) (by decide) hc
        by_contra hbreak
        rw [Bool.not_eq_false] at hbreak
        rw [isDigit_of_isBreak hbreak] at hdigit
        exact absurd hdigit (by decide)
    | generic | mysql | sqlite =>
      intro c hc
      rw [Dialect.placeholder, show "?".toList = ['?'] from rfl, List.mem_singleton] at hc
      · exact hc ▸ rfl
      · simp
  have hne : (d.placeholder n).toList ≠ [] := by
    cases d <;> simp [Dialect.placeholder]
  rw [lex_word hne fun c hc => ⟨hchars c hc, ?_⟩, String.ofList_toList]
  rintro rfl
  exact quoteMark_notMem_placeholder d n hc

/-- A number behind a break is a token of its own. -/
lemma lex_append_repr {d : Dialect} {cs : List Char} (hq : d.quoteMark ∉ cs)
    (h : cs.getLast?.any isBreak = true) (n : Nat) :
    lex d.quoteMark (cs ++ n.repr.toList) = lex d.quoteMark cs ++ [.word n.repr] := by
  have hne : n.repr.toList ≠ [] := by
    rw [Nat.toList_repr]
    exact Nat.toDigits_ne_nil
  have hchars : ∀ c ∈ n.repr.toList, isBreak c = false ∧ c ≠ d.quoteMark := by
    intro c hc
    rw [Nat.toList_repr] at hc
    have hc : c.isDigit = true := Nat.isDigit_of_mem_toDigits (by decide) (by decide) hc
    refine ⟨?_, ?_⟩
    · by_contra hbreak
      rw [Bool.not_eq_false] at hbreak
      simp [isDigit_of_isBreak hbreak] at hc
    · rintro rfl
      exact absurd hc (by cases d <;> decide)
  rw [lex_append_of_getLast hq h, lex_word hne hchars, String.ofList_toList]

lemma isBreak_ne_quoteMark {c : Char} (h : isBreak c = true) (d : Dialect) : c ≠ d.quoteMark := by
  rintro rfl
  cases d <;> exact absurd h (by decide)

/-- What follows a name or a slot starts with a break. -/
lemma isBreak_head_chars {d : Dialect} {p : Piece} {t : Template} (n : Nat)
    (hp : p.endsApart = false) (h : (p :: t).IsChain Piece.Apart) :
    ∀ c ∈ (chars d n t).head?, isBreak c = true ∧ c ≠ d.quoteMark := by
  cases t with
  | nil => simp [chars]
  | cons p' t =>
    have hstarts : p'.startsApart = true := by
      simpa [Piece.Apart, hp] using (List.isChain_cons_cons.mp h).1
    cases p' with
    | name s => simp [Piece.startsApart] at hstarts
    | slot v => simp [Piece.startsApart] at hstarts
    | text s =>
      cases hcs : s.toList with
      | nil => simp [Piece.startsApart, hcs] at hstarts
      | cons c cs =>
        have hc : isBreak c = true := by simpa [Piece.startsApart, hcs] using hstarts
        simpa [chars, hcs] using ⟨hc, isBreak_ne_quoteMark hc d⟩

/-- The text of a template is read as the tokens of the template, with placeholders for the
values. -/
lemma lex_chars {d : Dialect} {t : Template} (h : Composed (fun s => d.quoteMark ∉ s.toList) t)
    (n : Nat) : lex d.quoteMark (chars d n t) = place d n (tokens d t) := by
  induction t generalizing n with
  | nil => rfl
  | cons p t ih =>
    have ht := ih h.tail
    cases p with
    | text s =>
      have hquote : d.quoteMark ∉ s.toList := h.texts s List.mem_cons_self
      have hlex : lex d.quoteMark (s.toList ++ chars d n t)
          = lex d.quoteMark s.toList ++ lex d.quoteMark (chars d n t) := by
        by_cases hends : (Piece.text s).endsApart = true
        · exact lex_append_of_getLast hquote hends
        · exact lex_append_of_head hquote
            (isBreak_head_chars n (Bool.eq_false_iff.mpr hends) h.apart)
      rw [chars, hlex, ht n, tokens_cons, Piece.tokens,
        place_append fun t ht => (readOff_lex _ _ t ht).1]
    | name s =>
      rw [chars, lex_quote d s (isBreak_head_chars n rfl h.apart), ht n]
      rfl
    | slot v =>
      rw [chars, lex_append_of_head (quoteMark_notMem_placeholder d _)
        (isBreak_head_chars (n + 1) rfl h.apart), lex_placeholder, ht (n + 1)]
      rfl

/-! ### Numbers -/

/-- Whether there are digits and nothing else. -/
def isDigits (cs : List Char) : Bool := !cs.isEmpty && cs.all Char.isDigit

lemma isDigits_toDigits (n : Nat) : isDigits (Nat.toDigits 10 n) = true := by
  have hdigits : (Nat.toDigits 10 n).all Char.isDigit = true :=
    List.all_eq_true.mpr fun c hc => Nat.isDigit_of_mem_toDigits (by decide) (by decide) hc
  simp [isDigits, hdigits, Nat.toDigits_ne_nil]

/-- The number that a word is. -/
def numeral? (w : String) : Option Nat :=
  if isDigits w.toList then some (Nat.ofDigitChars 10 w.toList 0) else none

lemma numeral?_repr (n : Nat) : numeral? n.repr = some n := by
  rw [numeral?, Nat.toList_repr, if_pos (isDigits_toDigits n), Nat.ofDigitChars_ten_toDigits]

lemma repr_injective : Function.Injective Nat.repr := by
  intro m n h
  have hnumeral : numeral? m.repr = numeral? n.repr := by rw [h]
  simpa only [numeral?_repr, Option.some.injEq] using hnumeral

/-! ### Supplying values -/

/-- The position of the value that a word stands for, as the placeholder behind `n` others. -/
def Dialect.position? (d : Dialect) (n : Nat) (w : String) : Option Nat :=
  match d with
  | .postgres =>
    match w.toList with
    | '$' :: ds =>
      if isDigits ds then
        match Nat.ofDigitChars 10 ds 0 with
        | 0 => none
        | k + 1 => some k
      else none
    | _ => none
  | .generic | .mysql | .sqlite => if w = "?" then some n else none

/-- Tokens with bound values for their placeholders, read behind `n` placeholders. -/
def supply (d : Dialect) (values : List SqlValue) : Nat → List Token → List Token
  | _, [] => []
  | n, .word w :: ts =>
    match (d.position? n w).bind (values[·]?) with
    | some v => .value v :: supply d values (n + 1) ts
    | none => .word w :: supply d values n ts
  | n, t :: ts => t :: supply d values n ts

/-- The tokens of a text, with bound values for its placeholders, of which the first stands behind
`n` others. -/
def readTokens (d : Dialect) (values : List SqlValue) (n : Nat) (s : String) : List Token :=
  supply d values n (lex d.quoteMark s.toList)

lemma position?_placeholder (d : Dialect) (n : Nat) :
    d.position? n (d.placeholder (n + 1)) = some n := by
  cases d with
  | postgres =>
    have htext : (Dialect.postgres.placeholder (n + 1)).toList
        = '$' :: Nat.toDigits 10 (n + 1) := by
      rw [Dialect.placeholder, String.toList_append, Nat.toList_repr]
      rfl
    simp only [Dialect.position?, htext, isDigits_toDigits, if_true, Nat.ofDigitChars_ten_toDigits]
  | generic | mysql | sqlite => rfl

lemma position?_of_notMem (d : Dialect) (n : Nat) {w : String} (h : '?' ∉ w.toList)
    (h' : '$' ∉ w.toList) : d.position? n w = none := by
  cases d with
  | postgres =>
    simp only [Dialect.position?]
    split
    · next hw => simp [hw] at h'
    · rfl
  | generic | mysql | sqlite =>
    have hne : w ≠ "?" := by
      rintro rfl
      exact h (by decide)
    exact if_neg hne

/-- Whether a token is no placeholder. -/
def Token.Settled (t : Token) : Prop := ∀ w, t = .word w → '?' ∉ w.toList ∧ '$' ∉ w.toList

/-- The values behind the placeholders are the values that the placeholders were written for. -/
lemma supply_place {d : Dialect} {ts : List Token} (h : ∀ t ∈ ts, t.Settled)
    (before after : List SqlValue) :
    supply d (before ++ ts.filterMap Token.value? ++ after) before.length
      (place d before.length ts) = ts := by
  induction ts generalizing before with
  | nil => rfl
  | cons t ts ih =>
    have hts := ih fun u hu => h u (List.mem_cons_of_mem _ hu)
    cases t with
    | value v =>
      have hv := hts (before ++ [v])
      simp [place, supply, position?_placeholder, Token.value?] at hv ⊢
      exact hv
    | word w =>
      obtain ⟨hmark, hdollar⟩ := h (.word w) List.mem_cons_self w rfl
      have hw := hts before
      simp [place, supply, position?_of_notMem d _ hmark hdollar, Token.value?] at hw ⊢
      exact hw
    | name s | unclosed s | mark c =>
      have hw := hts before
      simp [place, supply, Token.value?] at hw ⊢
      exact hw

lemma settled_tokens {d : Dialect} {t : Template} (h : ∀ s, .text s ∈ t → Unmarked d s) :
    ∀ u ∈ tokens d t, u.Settled := by
  intro u hu w hw
  obtain ⟨p, hp, hup⟩ := List.mem_flatMap.mp hu
  cases p with
  | name s => simp [Piece.tokens, hw] at hup
  | slot v => simp [Piece.tokens, hw] at hup
  | text s =>
    have hsub : w.toList ⊆ s.toList := (readOff_lex _ _ u hup).2 w hw
    obtain ⟨-, hmark, hdollar⟩ := (h s hp).notMem
    exact ⟨fun hmem => hmark (hsub hmem), fun hmem => hdollar (hsub hmem)⟩

lemma filterMap_value_tokens (d : Dialect) (t : Template) :
    (tokens d t).filterMap Token.value? = params t := by
  induction t with
  | nil => rfl
  | cons p t ih =>
    rw [tokens_cons, List.filterMap_append, ih]
    cases p with
    | name s => rfl
    | slot v => rfl
    | text s =>
      have hnone : (lex d.quoteMark s.toList).filterMap Token.value? = [] :=
        List.filterMap_eq_nil_iff.mpr fun u hu => (readOff_lex _ _ u hu).1
      rw [Piece.tokens, hnone]
      rfl

/-- Reading what has been rendered, with its values, gives the tokens of the template. -/
theorem readTokens_render {d : Dialect} {t : Template} (h : Composed (Unmarked d) t)
    (b : Bindings) :
    readTokens d (b.append t.params).values b.size (t.render d b.size) = tokens d t := by
  have hquote : Composed (fun s => d.quoteMark ∉ s.toList) t := h.mono fun s hs => hs.notMem.1
  have hsupply := supply_place (d := d) (settled_tokens h.texts) b.values []
  rw [List.append_nil, filterMap_value_tokens] at hsupply
  rw [readTokens, render, String.toList_ofList, lex_chars hquote]
  exact hsupply

end BoundSql
