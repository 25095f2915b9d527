import BoundSql.Proofs.Bindings
import BoundSql.Proofs.Condition.Connective
import BoundSql.Proofs.Condition.Reading

/-!
# The truth of conditions

The meaning of a `WHERE` clause. Columns and bound values denote values of some kind, operators
denote functions into the three truth values. Under each such interpretation the text of the
clause, read by the rules of SQL, is as true as the clauses that it was compiled from.
-/

namespace BoundSql

open Template Text

/-! ### Truth values -/

inductive Truth where
  | false | unknown | true
deriving DecidableEq

namespace Truth

def not : Truth → Truth
  | .false => .true
  | .unknown => .unknown
  | .true => .false

def and : Truth → Truth → Truth
  | .false, _ | _, .false => .false
  | .true, .true => .true
  | _, _ => .unknown

def or : Truth → Truth → Truth
  | .true, _ | _, .true => .true
  | .false, .false => .false
  | _, _ => .unknown

def ofBool (b : Bool) : Truth := if b then .true else .false

/-- Whether all hold. -/
def all (vs : List Truth) : Truth := vs.foldr and .true

/-- Whether one holds. -/
def any (vs : List Truth) : Truth := vs.foldr or .false

/-- A truth value followed by others, each behind its connective, where `AND` binds tighter. -/
def chain : Truth → List (Connector × Truth) → Truth
  | v, [] => v
  | v, (.and, w) :: r => chain (v.and w) r
  | v, (.or, w) :: r => v.or (chain w r)

lemma and_assoc (u v w : Truth) : (u.and v).and w = u.and (v.and w) := by
  cases u <;> cases v <;> cases w <;> rfl

@[simp] lemma and_true (v : Truth) : v.and .true = v := by cases v <;> rfl

@[simp] lemma true_and (v : Truth) : Truth.and .true v = v := by cases v <;> rfl

@[simp] lemma or_false (v : Truth) : v.or .false = v := by cases v <;> rfl

@[simp] lemma true_or (v : Truth) : Truth.or .true v = .true := by cases v <;> rfl

/-- What holds with the first of a chain, holds with its first alternative. -/
lemma any_modifyHead_alternatives (u v : Truth) (r : List (Connector × Truth)) :
    any (((alternatives v r).modifyHead (u :: ·)).map all)
      = any ((alternatives (u.and v) r).map all) := by
  cases r with
  | nil => simp [alternatives, any, all]
  | cons p r =>
    obtain ⟨c, w⟩ := p
    cases c with
    | or => simp [alternatives, any, all]
    | and =>
      cases h : alternatives w r with
      | nil => simp [alternatives, h]
      | cons g gs => simp [alternatives, h, any, all, and_assoc]

/-- One of the alternatives of a chain holds if and only if the chain does. -/
lemma any_alternatives (v : Truth) (r : List (Connector × Truth)) :
    any ((alternatives v r).map all) = chain v r := by
  induction r generalizing v with
  | nil => simp [alternatives, chain, any, all]
  | cons p r ih =>
    obtain ⟨c, w⟩ := p
    cases c with
    | and => rw [alternatives, any_modifyHead_alternatives, ih, chain]
    | or =>
      rw [chain, ← ih w, alternatives, List.map_cons]
      simp [any, all]

end Truth

lemma map_alternatives {α β : Type} (f : α → β) (x : α) (r : List (Connector × α)) :
    (alternatives x r).map (List.map f) = alternatives (f x) (r.map (Prod.map id f)) := by
  induction r generalizing x with
  | nil => rfl
  | cons p r ih =>
    obtain ⟨c, y⟩ := p
    cases c with
    | or => simp [alternatives, ih]
    | and =>
      have hmap : alternatives (f x) (((Connector.and, y) :: r).map (Prod.map id f))
          = (alternatives (f y) (r.map (Prod.map id f))).modifyHead (f x :: ·) := rfl
      rw [hmap, ← ih y, alternatives]
      cases alternatives y r <;> rfl

/-! ### Interpretations -/

/-- What columns, bound values and operators denote. A column is known by the text that it is
written as. -/
structure Interpretation (V : Type) where
  column : String → V
  value : SqlValue → V
  isNull : V → Truth
  compare : Operator → V → V → Truth

section

variable {V : Type} (I : Interpretation V) (d : Dialect)

/-- The text that an identifier is written as. -/
def Identifier.written (i : Identifier) : String :=
  match i.template with
  | .ok t => t.render d 0
  | .error _ => ""

/-- What a value denotes; an expression denotes what its text does. -/
def Value.denotes : Value → V
  | .expr e => I.column e.raw
  | .param v => I.value v

def Identifier.denotes (i : Identifier) : V := I.column (i.written d)

/-- How true a predicate is. Nothing is known of a condition that is written as it is. -/
def Predicate.truth : Predicate → Truth
  | .compare i op v => I.compare op (i.denotes I d) (v.denotes I)
  | .isIn i vs => .any (vs.map fun v => I.compare .eq (i.denotes I d) (v.denotes I))
  | .notIn i vs => (Truth.any (vs.map fun v => I.compare .eq (i.denotes I d) (v.denotes I))).not
  | .isNull i => I.isNull (i.denotes I d)
  | .notNull i => (I.isNull (i.denotes I d)).not
  | .between i low high =>
    (I.compare .ge (i.denotes I d) (low.denotes I)).and
      (I.compare .le (i.denotes I d) (high.denotes I))
  | .notBetween i low high =>
    ((I.compare .ge (i.denotes I d) (low.denotes I)).and
      (I.compare .le (i.denotes I d) (high.denotes I))).not
  | .compareColumns i op j => I.compare op (i.denotes I d) (j.denotes I d)
  | .raw _ => .unknown

/-- A truth value followed by clauses. -/
def clauseTruth (v : Truth) (cs : List Clause) : Truth :=
  .chain v (cs.map fun c => (c.connector, c.predicate.truth I d))

/-! ### The truth of what is read -/

/-- The characters that a token is written with. -/
def Token.written : Token → List Char
  | .name s => (d.quote s).toList
  | .word w => w.toList
  | .mark c => [c]
  | .unclosed _ | .value _ => []

/-- What an operand denotes. -/
def Operand.denotes : Operand → V
  | .column r => I.column (String.ofList (r.tokens.flatMap (Token.written d)))
  | .value v => I.value v

/-- How true a test is. Numbers are equal if they are the same number. -/
def Test.truth : Test → Truth
  | .equal m n => .ofBool (m = n)
  | .compare x op y => I.compare op (x.denotes I d) (y.denotes I d)
  | .isNull negated x =>
    if negated then (I.isNull (x.denotes I d)).not else I.isNull (x.denotes I d)
  | .isIn negated x y ys =>
    let v := Truth.any ((y :: ys).map fun z => I.compare .eq (x.denotes I d) (z.denotes I d))
    if negated then v.not else v
  | .between negated x low high =>
    let v := (I.compare .ge (x.denotes I d) (low.denotes I d)).and
      (I.compare .le (x.denotes I d) (high.denotes I d))
    if negated then v.not else v

/-- How true the condition of a `WHERE` clause is, read from its text. The first placeholder in it
stands behind `n` others. -/
def readWhere? (values : List SqlValue) (n : Nat) (sql : String) : Option Truth :=
  match readTokens d values n sql with
  | .word "WHERE" :: ts =>
    (readCondition? ts).map fun groups => .any (groups.map fun g => .all (g.map (Test.truth I d)))
  | _ => none

end

/-! ### Clauses and what is read of them -/

section

variable {V : Type} {d : Dialect}

/-- A name without an alias is written as its tokens are. -/
lemma flatMap_written_path (d : Dialect) (cs : List Char) :
    ((path cs).tokens d).flatMap (Token.written d) = chars d 0 (path cs) := by
  have hpieces : ∀ t : Template, (∀ p ∈ t, p = .text "." ∨ p = .text "*" ∨ ∃ s, p = .name s) →
      (t.tokens d).flatMap (Token.written d) = chars d 0 t := by
    intro t ht
    induction t with
    | nil => rfl
    | cons p t ih =>
      have hrest := ih fun p hp => ht p (List.mem_cons_of_mem _ hp)
      rw [tokens_cons, List.flatMap_append, hrest]
      rcases ht p List.mem_cons_self with rfl | rfl | ⟨s, rfl⟩
      · rw [Piece.tokens_text d (l := [.mark '.']) (by decide) (by decide)]
        rfl
      · rw [Piece.tokens_text d (l := [.word "*"]) (by decide) (by decide)]
        rfl
      · simp [Token.written, chars]
  exact hpieces _ fun p hp => mem_path hp

/-- An identifier that is no expression and has no alias. -/
def Identifier.IsPlain (i : Identifier) : Prop := ∃ s, i = .name s ∧ mentionsAlias s = false

lemma Identifier.IsPlain.template {i : Identifier} (h : i.IsPlain) :
    ∃ cs, i.template = .ok (path cs) := by
  obtain ⟨s, rfl, hs⟩ := h
  exact ⟨s.toList, by simp [Identifier.template, nameReference, hs]⟩

lemma Identifier.ReadsAs.denotes_eq {i : Identifier} {r : Reference} (hi : i.IsPlain)
    (h : i.ReadsAs d r) (I : Interpretation V) :
    (Operand.column r).denotes I d = i.denotes I d := by
  obtain ⟨cs, hcs⟩ := hi.template
  obtain ⟨s, t, rfl, ht, hr⟩ := h
  obtain rfl : path cs = t := by simpa [Identifier.template, ht] using hcs.symm
  rw [Operand.denotes, hr, flatMap_written_path, Identifier.denotes, Identifier.written, hcs]
  rfl

/-- A test is as true as the predicate that is read as it. -/
lemma Predicate.ReadsAs.truth_eq {p : Predicate} {t : Test} (hp : ∀ i ∈ p.identifiers, i.IsPlain)
    (h : p.ReadsAs d t) (I : Interpretation V) : t.truth I d = p.truth I d := by
  have hvalues : ∀ (x : V) (vs : List SqlValue),
      ((vs.map Operand.value).map fun z => I.compare .eq x (z.denotes I d))
        = (boundValues vs).map fun v => I.compare .eq x (v.denotes I) := by
    intro x vs
    simp only [boundValues, List.map_map]
    rfl
  cases h with
  | isInEmpty | notInEmpty => rfl
  | compare hi =>
    rw [Test.truth, hi.denotes_eq (hp _ (by simp [identifiers]))]
    rfl
  | @isIn i r v vs ys hi hys | @notIn i r v vs ys hi hys =>
    rw [Test.truth, hi.denotes_eq (hp _ (by simp [identifiers])), hys, ← List.map_cons, hvalues]
    rfl
  | isNull hi | notNull hi | between hi | notBetween hi =>
    rw [Test.truth, hi.denotes_eq (hp _ (by simp [identifiers]))]
    rfl
  | compareColumns hi hj =>
    rw [Test.truth, hi.denotes_eq (hp _ (by simp [identifiers])),
      hj.denotes_eq (hp _ (by simp [identifiers]))]
    rfl

/-- A predicate without aliases compiles. -/
lemma Predicate.exists_template {p : Predicate} (hp : ∀ i ∈ p.identifiers, i.IsPlain) :
    ∃ t, p.template = .ok t := by
  have htemplate : ∀ i ∈ p.identifiers, ∃ cs, i.template = .ok (path cs) :=
    fun i hi => (hp i hi).template
  cases p with
  | raw sql => exact ⟨_, rfl⟩
  | isIn i vs | notIn i vs =>
    obtain ⟨cs, hcs⟩ := htemplate i (by simp [identifiers])
    cases vs with
    | nil => exact ⟨_, rfl⟩
    | cons v vs => simp [Predicate.template, listMembership, hcs]
  | compare i op v | isNull i | notNull i | between i low high | notBetween i low high =>
    obtain ⟨cs, hcs⟩ := htemplate i (by simp [identifiers])
    simp [Predicate.template, rangeComparison, hcs]
  | compareColumns i op j =>
    obtain ⟨cs, hcs⟩ := htemplate i (by simp [identifiers])
    obtain ⟨cs', hcs'⟩ := htemplate j (by simp [identifiers])
    simp [Predicate.template, columnComparison, bind_eq_ok, hcs, hcs']

lemma exists_clauseChain {cs : List Clause}
    (hplain : ∀ c ∈ cs, ∀ i ∈ c.predicate.identifiers, i.IsPlain) :
    ∃ t, (clauseChain cs).toExcept = .ok t := by
  induction cs with
  | nil => exact ⟨[], rfl⟩
  | cons c cs ih =>
    obtain ⟨t, ht⟩ := ih fun c hc => hplain c (List.mem_cons_of_mem _ hc)
    obtain ⟨u, hu⟩ := c.predicate.exists_template (hplain c List.mem_cons_self)
    obtain ⟨ts, hts, -⟩ := clauseChain_eq_ok.mp ht
    exact ⟨_, clauseChain_eq_ok.mpr ⟨u :: ts, .cons hu hts, rfl⟩⟩

/-- Tests behind their connectives are as true as their clauses. -/
lemma map_truth_eq {cs : List Clause} {ps : List (Connector × Test)}
    (h : List.Forall₂ (Clause.ReadsAs d) cs ps)
    (hplain : ∀ c ∈ cs, ∀ i ∈ c.predicate.identifiers, i.IsPlain) (I : Interpretation V) :
    ps.map (Prod.map id (Test.truth I d))
      = cs.map fun c => (c.connector, c.predicate.truth I d) := by
  induction h with
  | nil => rfl
  | @cons c p cs ps hcp _ ih =>
    obtain ⟨hconnector, hp⟩ := hcp
    rw [List.map_cons, List.map_cons, ih fun c hc => hplain c (List.mem_cons_of_mem _ hc),
      Prod.map, hp.truth_eq (hplain c List.mem_cons_self) I, ← hconnector]
    rfl

/-- A clause that starts with a condition that always holds, read as it was compiled. -/
lemma readWhere?_render {cs : List Clause} {t : Template}
    (hraw : ∀ c ∈ cs, c.predicate.rawTexts = [])
    (hplain : ∀ c ∈ cs, ∀ i ∈ c.predicate.identifiers, i.IsPlain)
    (ht : (clauseChain cs).toExcept = .ok t)
    (hcomposed : Composed (Unmarked d) (.text "WHERE 1 = 1" :: t)) (I : Interpretation V)
    (b : Bindings) :
    readWhere? I d (b.append (params (.text "WHERE 1 = 1" :: t))).values b.size
        (render d b.size (.text "WHERE 1 = 1" :: t))
      = some (clauseTruth I d .true cs) := by
  obtain ⟨ps, hps, htokens⟩ := exists_readsAs_clauseChain (d := d) hraw ht
  have hseed : Piece.tokens d (.text "WHERE 1 = 1")
      = .word "WHERE" :: (Test.equal 1 1).tokens :=
    Piece.tokens_text d (by decide) (by decide)
  have hjoined : tokens d (.text "WHERE 1 = 1" :: t)
      = .word "WHERE" :: joinedTokens (.equal 1 1) ps := by
    rw [tokens_cons, hseed, htokens, joinedTokens]
    rfl
  have htruth : ∀ groups : List (List Test),
      groups.map (fun g => Truth.all (g.map (Test.truth I d)))
      = (groups.map (List.map (Test.truth I d))).map Truth.all := by
    intro groups
    rw [List.map_map]
    rfl
  rw [readWhere?, readTokens_render hcomposed, hjoined]
  simp only [readCondition?_joinedTokens, Option.map_some]
  rw [htruth, map_alternatives, Truth.any_alternatives, clauseTruth, map_truth_eq hps hplain I]
  rfl

/-- Under every interpretation, the text of a `WHERE` clause is as true as its clauses behind a
condition that always holds. That condition changes nothing if the first clause is joined with
`AND`, and makes the whole true if it is joined with `OR`. -/
theorem readWhere?_whereClause (I : Interpretation V) (d : Dialect) (b : Bindings)
    {cs : List Clause} (hne : cs ≠ []) (hraw : ∀ c ∈ cs, c.predicate.rawTexts = [])
    (hplain : ∀ c ∈ cs, ∀ i ∈ c.predicate.identifiers, i.IsPlain) :
    (∃ sql, (whereClause cs).write d b
        = (.ok sql, b.append (cs.flatMap fun c => c.predicate.bound)) ∧
      readWhere? I d (b.append (cs.flatMap fun c => c.predicate.bound)).values b.size sql
        = some (clauseTruth I d .true cs)) ∧
    ∀ c rest, cs = c :: rest →
      clauseTruth I d .true cs = match c.connector with
        | .and => clauseTruth I d (c.predicate.truth I d) rest
        | .or => .true := by
  refine ⟨?_, ?_⟩
  · obtain ⟨t, ht⟩ := exists_clauseChain hplain
    have hwhere : (whereClause cs).toExcept = .ok (.text "WHERE 1 = 1" :: t) :=
      whereClause_eq_ok.mpr (Or.inr ⟨hne, t, ht, rfl⟩)
    have hcomposed : Composed (Unmarked d) (.text "WHERE 1 = 1" :: t) :=
      composed_whereClause (fun s hs => ((admits_unmarked d).literal s hs).1)
        (fun c hc s hs => by simp [hraw c hc] at hs) hwhere
    have hread := readWhere?_render hraw hplain ht hcomposed I b
    rw [params_whereClause hwhere] at hread
    obtain ⟨herror, htemplate⟩ := Outcome.toExcept_eq_ok.mp hwhere
    refine ⟨_, ?_, hread⟩
    rw [Outcome.write, herror, htemplate, params_whereClause hwhere]
  · rintro c rest rfl
    cases hc : c.connector <;> simp [clauseTruth, Truth.chain, hc]

/-- Integers are compared with integers, and of everything else nothing is known. -/
def integersOnly : Interpretation SqlValue where
  column s := if s = "\"t\".\"a\"" then .int 9 else .int 7
  value v := v
  isNull v := .ofBool (v = .null)
  compare op v w :=
    match op, v, w with
    | .eq, .int m, .int n => .ofBool (m = n)
    | .le, .int m, .int n => .ofBool (m ≤ n)
    | .ge, .int m, .int n => .ofBool (n ≤ m)
    | _, _, _ => .unknown

/-- A range, and behind `OR` a list of which one value is unknown. -/
def rangeOrList : List Clause :=
  [{ predicate := .between (.name "t.a") (.param (.int 1)) (.param (.int 5)) },
    { connector := .or, predicate := .notIn (.name "b\" AND ?") [.param .null, .param (.int 2)] },
    { predicate := .notNull (.name "c") }]

/-- Behind one bound value, the clauses are written and read back as neither true nor false. -/
theorem readWhere?_rangeOrList :
    (∀ c ∈ rangeOrList, c.predicate.rawTexts = []) ∧
    (∀ c ∈ rangeOrList, ∀ i ∈ c.predicate.identifiers, i.IsPlain) ∧
    ∃ sql bound, (whereClause rangeOrList).write .postgres ⟨[.bool true]⟩ = (.ok sql, bound) ∧
      sql = "WHERE 1 = 1 AND \"t\".\"a\" BETWEEN $2 AND $3 OR \"b\"\" AND ?\" NOT IN ($4, $5) "
        ++ "AND \"c\" IS NOT NULL" ∧
      bound.values = [.bool true, .int 1, .int 5, .null, .int 2] ∧
      readWhere? integersOnly .postgres bound.values 1 sql = some .unknown := by
  have hraw : ∀ c ∈ rangeOrList, c.predicate.rawTexts = [] := by decide
  have hplain : ∀ c ∈ rangeOrList, ∀ i ∈ c.predicate.identifiers, i.IsPlain := by
    intro c hc i hi
    simp only [rangeOrList, List.mem_cons, List.not_mem_nil, or_false] at hc
    rcases hc with rfl | rfl | rfl <;>
    · simp only [Predicate.identifiers, List.mem_cons, List.not_mem_nil, or_false] at hi
      exact ⟨_, hi, by cbv⟩
  obtain ⟨⟨sql, hwrite, hread⟩, -⟩ :=
    readWhere?_whereClause integersOnly .postgres ⟨[.bool true]⟩ (by decide) hraw hplain
  have hsql : (whereClause rangeOrList).write .postgres ⟨[.bool true]⟩
      = (.ok ("WHERE 1 = 1 AND \"t\".\"a\" BETWEEN $2 AND $3 OR \"b\"\" AND ?\" NOT IN ($4, $5) "
        ++ "AND \"c\" IS NOT NULL"), ⟨[.bool true, .int 1, .int 5, .null, .int 2]⟩) := by cbv
  refine ⟨hraw, hplain, sql, _, hwrite, ?_, rfl, hread.trans ?_⟩
  · rw [hwrite] at hsql
    exact Except.ok.inj (Prod.mk.inj hsql).1
  · cbv

end

end BoundSql
