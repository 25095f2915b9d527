import BoundSql.Proofs.Condition.Syntax

/-!
# Reading conditions

A predicate without raw texts is read as a test, and a chain of clauses as the tests of its
predicates, joined as the clauses are.
-/

namespace BoundSql

open Template Text

/-! ### References -/

/-- A text of the compiler is read the same in all dialects. -/
lemma Piece.tokens_text (d : Dialect) {s : String} {l : List Token}
    (hs : markFree s = true) (h : lex '"' s.toList = l) :
    Piece.tokens d (.text s) = l := by
  have hquote : d.quoteMark ∉ s.toList := (unmarked_of_markFree hs).notMem.1
  have hmark : Dialect.generic.quoteMark ∉ s.toList := (unmarked_of_markFree hs).notMem.1
  rw [Piece.tokens, lex_congr hquote hmark]
  exact h

lemma mem_join {l : String} {ts : List Template} {p : Piece} (h : p ∈ join l ts) :
    p = .text l ∨ ∃ t ∈ ts, p ∈ t := by
  induction ts with
  | nil => simp at h
  | cons t ts ih =>
    cases ts with
    | nil =>
      rw [join_singleton] at h
      exact Or.inr ⟨t, List.mem_cons_self, h⟩
    | cons u us =>
      rw [join_cons_cons, List.mem_append, List.mem_cons] at h
      rcases h with h | h | h
      · exact Or.inr ⟨t, List.mem_cons_self, h⟩
      · exact Or.inl h
      · exact (ih h).imp_right fun ⟨v, hv, hp⟩ => ⟨v, List.mem_cons_of_mem _ hv, hp⟩

lemma mem_path {cs : List Char} {p : Piece} (h : p ∈ path cs) :
    p = .text "." ∨ p = .text "*" ∨ ∃ s, p = .name s := by
  refine (mem_join h).imp_right fun ⟨t, ht, hp⟩ => ?_
  obtain ⟨s, -, rfl⟩ := List.mem_map.mp ht
  rw [List.mem_singleton, segment] at hp
  split_ifs at hp
  · exact Or.inl hp
  · exact Or.inr ⟨_, hp⟩

lemma path_ne_nil (cs : List Char) : path cs ≠ [] := by
  rw [path]
  obtain ⟨s, ss, hs⟩ := List.exists_cons_of_ne_nil (List.splitOn_ne_nil '.' cs)
  rw [hs, List.map_cons]
  cases ss with
  | nil => simp
  | cons u us => simp

/-- The pieces of a name. -/
lemma mem_nameReference {s : String} {t : Template} (h : nameReference s = .ok t) {p : Piece}
    (hp : p ∈ t) : p ∈ [Piece.text ".", .text "*", .text " AS "] ∨ ∃ n, p = .name n := by
  have hpath : ∀ cs, p ∈ path cs →
      p ∈ [Piece.text ".", .text "*", .text " AS "] ∨ ∃ n, p = .name n := by
    intro cs hcs
    rcases mem_path hcs with rfl | rfl | hn
    · simp
    · simp
    · exact Or.inr hn
  simp only [nameReference] at h
  split at h
  · split at h
    · simp only [Except.ok.injEq] at h
      subst h
      rcases List.mem_append.mp hp with hp | hp
      · exact hpath _ hp
      · rcases List.mem_cons.mp hp with rfl | hp
        · simp
        · exact hpath _ hp
    · simp at h
  · simp only [Except.ok.injEq] at h
    subst h
    exact hpath _ hp

lemma nameReference_ne_nil {s : String} {t : Template} (h : nameReference s = .ok t) : t ≠ [] := by
  simp only [nameReference] at h
  split at h
  · split at h
    · simp only [Except.ok.injEq] at h
      simp [← h]
    · simp at h
  · simp only [Except.ok.injEq] at h
    exact h ▸ path_ne_nil _

/-- Every piece of a name is one token, which is part of a reference. -/
lemma exists_token_of_mem {s : String} {t : Template} (h : nameReference s = .ok t) (d : Dialect)
    {p : Piece} (hp : p ∈ t) : ∃ u, p.tokens d = [u] ∧ u.isReference = true := by
  rcases mem_nameReference h hp with hp | ⟨n, rfl⟩
  · simp only [List.mem_cons, List.not_mem_nil, or_false] at hp
    rcases hp with rfl | rfl | rfl
    · exact ⟨.mark '.', Piece.tokens_text d (by decide) (by decide), rfl⟩
    · exact ⟨.word "*", Piece.tokens_text d (by decide) (by decide), rfl⟩
    · exact ⟨.word "AS", Piece.tokens_text d (by decide) (by decide), rfl⟩
  · exact ⟨.name n, rfl, rfl⟩

/-- The reference that an identifier without raw texts is read as. -/
def Identifier.ReadsAs (d : Dialect) (i : Identifier) (r : Reference) : Prop :=
  ∃ s t, i = .name s ∧ nameReference s = .ok t ∧ r.tokens = t.tokens d

lemma Identifier.exists_readsAs {d : Dialect} {i : Identifier} {t : Template}
    (hraw : i.rawTexts = []) (h : i.template = .ok t) :
    ∃ r : Reference, i.ReadsAs d r ∧ r.tokens = t.tokens d := by
  cases i with
  | expr e => simp [rawTexts] at hraw
  | name s =>
    have htokens : ∀ u ∈ t.tokens d, u.isReference = true := by
      intro u hu
      obtain ⟨p, hp, hup⟩ := List.mem_flatMap.mp hu
      obtain ⟨v, hv, href⟩ := exists_token_of_mem h d hp
      rw [hv, List.mem_singleton] at hup
      exact hup ▸ href
    have hne : t.tokens d ≠ [] := by
      obtain ⟨p, ps, rfl⟩ := List.exists_cons_of_ne_nil (nameReference_ne_nil h)
      obtain ⟨v, hv, -⟩ := exists_token_of_mem h d List.mem_cons_self
      simp [hv]
    exact ⟨⟨t.tokens d, hne, htokens⟩, ⟨s, t, rfl, h, rfl⟩, rfl⟩

/-- What is written around an identifier. -/
lemma Identifier.exists_readsAs_bind {d : Dialect} {i : Identifier} {f : Template → Template}
    {t : Template} (hraw : i.rawTexts = [])
    (h : (do let c ← i.template; pure (f c)) = Except.ok t) :
    ∃ r c, i.ReadsAs d r ∧ r.tokens = c.tokens d ∧ t = f c := by
  obtain ⟨c, hc, h⟩ := bind_eq_ok.mp h
  obtain ⟨r, hreads, hr⟩ := i.exists_readsAs (d := d) hraw hc
  exact ⟨r, c, hreads, hr, (pure_eq_ok.mp h).symm⟩

/-! ### Predicates -/

/-- Values that are bound. -/
def boundValues (vs : List SqlValue) : List Value := vs.map .param

/-- What a predicate without raw texts is read as. -/
inductive Predicate.ReadsAs (d : Dialect) : Predicate → Test → Prop where
  | compare {i r op v} : i.ReadsAs d r →
      ReadsAs d (.compare i op (.param v)) (.compare (.column r) op (.value v))
  | isInEmpty {i} : ReadsAs d (.isIn i []) (.equal 0 1)
  | notInEmpty {i} : ReadsAs d (.notIn i []) (.equal 1 1)
  | isIn {i r v vs ys} : i.ReadsAs d r → ys = vs.map .value →
      ReadsAs d (.isIn i (boundValues (v :: vs))) (.isIn false (.column r) (.value v) ys)
  | notIn {i r v vs ys} : i.ReadsAs d r → ys = vs.map .value →
      ReadsAs d (.notIn i (boundValues (v :: vs))) (.isIn true (.column r) (.value v) ys)
  | isNull {i r} : i.ReadsAs d r → ReadsAs d (.isNull i) (.isNull false (.column r))
  | notNull {i r} : i.ReadsAs d r → ReadsAs d (.notNull i) (.isNull true (.column r))
  | between {i r low high} : i.ReadsAs d r →
      ReadsAs d (.between i (.param low) (.param high))
        (.between false (.column r) (.value low) (.value high))
  | notBetween {i r low high} : i.ReadsAs d r →
      ReadsAs d (.notBetween i (.param low) (.param high))
        (.between true (.column r) (.value low) (.value high))
  | compareColumns {i r op j s} : i.ReadsAs d r → j.ReadsAs d s →
      ReadsAs d (.compareColumns i op j) (.compare (.column r) op (.column s))

lemma Operator.tokens_text (op : Operator) (d : Dialect) :
    Piece.tokens d (.text (" " ++ op.text ++ " ")) = op.tokens :=
  Piece.tokens_text d (by cases op <;> decide) (by cases op <;> decide)

lemma tokens_join (d : Dialect) (l : String) (ts : List Template) :
    (join l ts).tokens d = (Piece.tokens d (.text l)).intercalate (ts.map (Template.tokens d)) := by
  induction ts with
  | nil => rfl
  | cons t ts ih =>
    cases ts with
    | nil => simp
    | cons u us => simp [ih, List.intercalate_cons_cons]

/-- Bound values are read as a list of values. -/
lemma tokens_valueList (d : Dialect) (vs : List SqlValue) :
    (valueList (boundValues vs)).tokens d
      = commas ((vs.map Operand.value).map Operand.tokens) := by
  have hcomma : Piece.tokens d (.text ", ") = [.mark ','] :=
    Piece.tokens_text d (by decide) (by decide)
  rw [valueList, tokens_join, hcomma, boundValues]
  simp only [List.map_map, Function.comp_def]
  rfl

lemma exists_boundValues {vs : List Value} (h : vs.flatMap Value.rawTexts = []) :
    ∃ us, vs = boundValues us := by
  induction vs with
  | nil => exact ⟨[], rfl⟩
  | cons v vs ih =>
    rw [List.flatMap_cons, List.append_eq_nil_iff] at h
    obtain ⟨us, rfl⟩ := ih h.2
    cases v with
    | expr e => simp [Value.rawTexts] at h
    | param u => exact ⟨u :: us, rfl⟩

lemma exists_boundPair {v w : Value} (h : [v, w].flatMap Value.rawTexts = []) :
    ∃ x y, v = .param x ∧ w = .param y := by
  obtain ⟨us, hus⟩ := exists_boundValues h
  match us with
  | [x, y] => exact ⟨x, y, by simpa [boundValues] using hus⟩

/-- A list of values is read behind its keyword. -/
lemma exists_readsAs_listMembership {d : Dialect} (negated : Bool) {i : Identifier} {v : SqlValue}
    {vs : List SqlValue} {t : Template} (hraw : i.rawTexts = [])
    (h : listMembership i (if negated then " NOT IN (" else " IN (") (boundValues (v :: vs))
      = .ok t) :
    ∃ r, i.ReadsAs d r ∧
      (Test.isIn negated (.column r) (.value v) (vs.map .value)).tokens = t.tokens d := by
  obtain ⟨r, c, hreads, hr, rfl⟩ := Identifier.exists_readsAs_bind (d := d) hraw h
  have hkeyword : Piece.tokens d (.text (if negated then " NOT IN (" else " IN ("))
      = negation negated ++ [.word "IN", .mark '('] := by
    cases negated <;> exact Piece.tokens_text d (by decide) (by decide)
  have hclose : Piece.tokens d (.text ")") = [.mark ')'] :=
    Piece.tokens_text d (by decide) (by decide)
  refine ⟨r, hreads, ?_⟩
  have hvalues := tokens_valueList d (v :: vs)
  simp only [List.map_cons] at hvalues
  simp [Test.tokens, Operand.tokens, hr, hkeyword, hclose, hvalues]

/-- A range is read behind its keyword. -/
lemma exists_readsAs_rangeComparison {d : Dialect} (negated : Bool) {i : Identifier}
    {low high : SqlValue} {t : Template} (hraw : i.rawTexts = [])
    (h : rangeComparison i (if negated then " NOT BETWEEN " else " BETWEEN ") (.param low)
      (.param high) = .ok t) :
    ∃ r, i.ReadsAs d r ∧
      (Test.between negated (.column r) (.value low) (.value high)).tokens = t.tokens d := by
  obtain ⟨r, c, hreads, hr, rfl⟩ := Identifier.exists_readsAs_bind (d := d) hraw h
  have hkeyword : Piece.tokens d (.text (if negated then " NOT BETWEEN " else " BETWEEN "))
      = negation negated ++ [.word "BETWEEN"] := by
    cases negated <;> exact Piece.tokens_text d (by decide) (by decide)
  have hand : Piece.tokens d (.text " AND ") = [.word "AND"] :=
    Piece.tokens_text d (by decide) (by decide)
  refine ⟨r, hreads, ?_⟩
  simp [Test.tokens, Operand.tokens, Value.template, hr, hkeyword, hand]

/-- The tokens of a predicate without raw texts are those of a test. -/
lemma Predicate.exists_readsAs {d : Dialect} {p : Predicate} {t : Template}
    (hraw : p.rawTexts = []) (h : p.template = .ok t) :
    ∃ u : Test, p.ReadsAs d u ∧ u.tokens = t.tokens d := by
  simp only [rawTexts, List.append_eq_nil_iff] at hraw
  obtain ⟨⟨hcolumns, hvalues⟩, hown⟩ := hraw
  have hcolumn : ∀ i ∈ p.identifiers, i.rawTexts = [] := List.flatMap_eq_nil_iff.mp hcolumns
  cases p with
  | compare i op v =>
    obtain ⟨r, c, hreads, hr, rfl⟩ :=
      Identifier.exists_readsAs_bind (d := d) (hcolumn i (by simp [identifiers])) h
    cases v with
    | expr e => simp [values, Value.rawTexts] at hvalues
    | param v =>
      refine ⟨_, .compare hreads, ?_⟩
      simp [Test.tokens, Operand.tokens, Value.template, hr, ← op.tokens_text d]
  | isIn i vs =>
    obtain ⟨us, rfl⟩ := exists_boundValues hvalues
    cases us with
    | nil =>
      obtain rfl := Except.ok.inj h
      have hempty : Piece.tokens d (.text "0 = 1") = [.word "0", .word "=", .word "1"] :=
        Piece.tokens_text d (by decide) (by decide)
      refine ⟨_, .isInEmpty, ?_⟩
      rw [tokens_cons, hempty]
      rfl
    | cons v vs =>
      obtain ⟨r, hreads, htokens⟩ :=
        exists_readsAs_listMembership false (hcolumn i (by simp [identifiers])) h
      exact ⟨_, .isIn hreads rfl, htokens⟩
  | notIn i vs =>
    obtain ⟨us, rfl⟩ := exists_boundValues hvalues
    cases us with
    | nil =>
      obtain rfl := Except.ok.inj h
      have hempty : Piece.tokens d (.text "1 = 1") = [.word "1", .word "=", .word "1"] :=
        Piece.tokens_text d (by decide) (by decide)
      refine ⟨_, .notInEmpty, ?_⟩
      rw [tokens_cons, hempty]
      rfl
    | cons v vs =>
      obtain ⟨r, hreads, htokens⟩ :=
        exists_readsAs_listMembership true (hcolumn i (by simp [identifiers])) h
      exact ⟨_, .notIn hreads rfl, htokens⟩
  | isNull i =>
    obtain ⟨r, c, hreads, hr, rfl⟩ :=
      Identifier.exists_readsAs_bind (d := d) (hcolumn i (by simp [identifiers])) h
    have hnull : Piece.tokens d (.text " IS NULL") = [.word "IS", .word "NULL"] :=
      Piece.tokens_text d (by decide) (by decide)
    refine ⟨_, .isNull hreads, ?_⟩
    simp [Test.tokens, Operand.tokens, negation, hr, hnull]
  | notNull i =>
    obtain ⟨r, c, hreads, hr, rfl⟩ :=
      Identifier.exists_readsAs_bind (d := d) (hcolumn i (by simp [identifiers])) h
    have hnull : Piece.tokens d (.text " IS NOT NULL") = [.word "IS", .word "NOT", .word "NULL"] :=
      Piece.tokens_text d (by decide) (by decide)
    refine ⟨_, .notNull hreads, ?_⟩
    simp [Test.tokens, Operand.tokens, negation, hr, hnull]
  | between i low high =>
    obtain ⟨low, high, rfl, rfl⟩ := exists_boundPair hvalues
    obtain ⟨r, hreads, htokens⟩ :=
      exists_readsAs_rangeComparison false (hcolumn i (by simp [identifiers])) h
    exact ⟨_, .between hreads, htokens⟩
  | notBetween i low high =>
    obtain ⟨low, high, rfl, rfl⟩ := exists_boundPair hvalues
    obtain ⟨r, hreads, htokens⟩ :=
      exists_readsAs_rangeComparison true (hcolumn i (by simp [identifiers])) h
    exact ⟨_, .notBetween hreads, htokens⟩
  | compareColumns i op j =>
    simp only [Predicate.template, columnComparison, bind_eq_ok, pure_eq_ok] at h
    obtain ⟨a, ha, b, hb, rfl⟩ := h
    obtain ⟨r, hfirst, hr⟩ := i.exists_readsAs (d := d) (hcolumn i (by simp [identifiers])) ha
    obtain ⟨s, hsecond, hs⟩ := j.exists_readsAs (d := d) (hcolumn j (by simp [identifiers])) hb
    refine ⟨_, .compareColumns hfirst hsecond, ?_⟩
    simp [Test.tokens, Operand.tokens, hr, hs, ← op.tokens_text d]
  | raw sql => simp at hown

/-! ### Clauses -/

/-- A clause is read as a test behind its connective. -/
def Clause.ReadsAs (d : Dialect) (c : Clause) (p : Connector × Test) : Prop :=
  c.connector = p.1 ∧ c.predicate.ReadsAs d p.2

/-- The tokens of clauses without raw texts are those of tests behind their connectives. -/
lemma exists_readsAs_clauseChain {d : Dialect} {cs : List Clause} {t : Template}
    (hraw : ∀ c ∈ cs, c.predicate.rawTexts = []) (h : (clauseChain cs).toExcept = .ok t) :
    ∃ ps, List.Forall₂ (Clause.ReadsAs d) cs ps ∧
      t.tokens d = ps.flatMap fun p => .word p.1.keyword :: p.2.tokens := by
  obtain ⟨ts, hts, rfl⟩ := clauseChain_eq_ok.mp h
  clear h
  induction hts with
  | nil => exact ⟨[], .nil, rfl⟩
  | @cons c u cs ts hcu _ ih =>
    obtain ⟨ps, hps, htokens⟩ := ih fun c hc => hraw c (List.mem_cons_of_mem _ hc)
    obtain ⟨v, hv, hvtokens⟩ := c.predicate.exists_readsAs (d := d) (hraw c List.mem_cons_self) hcu
    have hconnector : Piece.tokens d (.text (" " ++ c.connector.keyword ++ " "))
        = [.word c.connector.keyword] := by
      cases c.connector <;> exact Piece.tokens_text d (by decide) (by decide)
    refine ⟨(c.connector, v) :: ps, .cons ⟨rfl, hv⟩ hps, ?_⟩
    rw [List.zipWith_cons_cons, List.flatten_cons, tokens_append, tokens_cons, hconnector, htokens,
      ← hvtokens]
    rfl

end BoundSql
