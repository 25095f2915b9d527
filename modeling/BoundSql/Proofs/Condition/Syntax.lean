import BoundSql.Proofs.Token

/-!
# The syntax of conditions

How the tokens of a condition are read. A test compares operands; tests are joined by `AND` and
`OR`, except that the `AND` behind the first bound of a `BETWEEN` belongs to that `BETWEEN`. What
is read of the tokens of a test is the test.
-/

namespace BoundSql

/-! ### Tests -/

/-- Whether a token can be a part of a reference. -/
def Token.isReference : Token → Bool
  | .name _ => true
  | .mark c => c == '.'
  | .word w => w == "*" || w == "AS"
  | .unclosed _ | .value _ => false

/-- The tokens of a reference to a column. -/
structure Reference where
  tokens : List Token
  ne_nil : tokens ≠ []
  isReference : ∀ t ∈ tokens, t.isReference = true
deriving DecidableEq

/-- What is compared. -/
inductive Operand where
  | column (r : Reference)
  | value (v : SqlValue)
deriving DecidableEq

def Operand.tokens : Operand → List Token
  | .column r => r.tokens
  | .value v => [.value v]

/-- The words of an operator. -/
def Operator.tokens : Operator → List Token
  | .notLike => [.word "NOT", .word "LIKE"]
  | op => [.word op.text]

/-- A condition without connectives. -/
inductive Test where
  /-- whether two numbers are equal -/
  | equal (m n : Nat)
  | compare (x : Operand) (op : Operator) (y : Operand)
  | isNull (negated : Bool) (x : Operand)
  | isIn (negated : Bool) (x y : Operand) (ys : List Operand)
  | between (negated : Bool) (x low high : Operand)
deriving DecidableEq

/-- Lists of tokens with commas between them. -/
def commas (tss : List (List Token)) : List Token := [Token.mark ','].intercalate tss

def negation (negated : Bool) : List Token := if negated then [.word "NOT"] else []

/-- The tokens that a test is written with. -/
def Test.tokens : Test → List Token
  | .equal m n => [.word m.repr, .word "=", .word n.repr]
  | .compare x op y => x.tokens ++ op.tokens ++ y.tokens
  | .isNull negated x => x.tokens ++ .word "IS" :: negation negated ++ [.word "NULL"]
  | .isIn negated x y ys =>
    x.tokens ++ negation negated ++ .word "IN" :: .mark '('
      :: commas ((y :: ys).map Operand.tokens) ++ [.mark ')']
  | .between negated x low high =>
    x.tokens ++ negation negated ++ .word "BETWEEN" :: low.tokens ++ .word "AND" :: high.tokens

/-! ### Reading tests -/

def Reference.ofTokens? (ts : List Token) : Option Reference :=
  if h : ts ≠ [] ∧ ∀ t ∈ ts, t.isReference = true then some ⟨ts, h.1, h.2⟩ else none

/-- The operand in front of tokens, and what follows it. -/
def Operand.read? : List Token → Option (Operand × List Token)
  | .value v :: ts => some (.value v, ts)
  | ts => (Reference.ofTokens? (ts.takeWhile Token.isReference)).map fun r =>
      (.column r, ts.dropWhile Token.isReference)

/-- The operand that tokens are. -/
def Operand.ofTokens? (ts : List Token) : Option Operand :=
  match Operand.read? ts with
  | some (x, []) => some x
  | _ => none

/-- The operands of a list in parentheses. -/
def readList? : List Token → Option (List Operand)
  | .mark '(' :: ts =>
    if ts.getLast? = some (.mark ')') then
      (ts.dropLast.splitOn (.mark ',')).mapM Operand.ofTokens?
    else none
  | _ => none

/-- Two operands with `AND` between them. -/
def readRange? (ts : List Token) : Option (Operand × Operand) :=
  match Operand.read? ts with
  | some (low, .word "AND" :: rest) => (Operand.ofTokens? rest).map (low, ·)
  | _ => none

/-- What follows the operand `x` in a test whose keyword may be negated. -/
def Test.readPredicate? (negated : Bool) (x : Operand) : List Token → Option Test
  | .word "IN" :: ts =>
    match readList? ts with
    | some (y :: ys) => some (.isIn negated x y ys)
    | _ => none
  | .word "BETWEEN" :: ts => (readRange? ts).map fun r => .between negated x r.1 r.2
  | .word "LIKE" :: ts =>
    (Operand.ofTokens? ts).map (.compare x (if negated then .notLike else .like))
  | _ => none

/-- The operator that a word is; `LIKE` can be negated and is read apart. -/
def Operator.ofWord? (w : String) : Option Operator :=
  Operator.all.find? fun op => op.text == w && op != .like

/-- What follows the operand `x` in a test. -/
def Test.readTail? (x : Operand) : List Token → Option Test
  | [.word "IS", .word "NULL"] => some (.isNull false x)
  | [.word "IS", .word "NOT", .word "NULL"] => some (.isNull true x)
  | .word "NOT" :: ts => Test.readPredicate? true x ts
  | .word w :: ts =>
    match Operator.ofWord? w with
    | some op => (Operand.ofTokens? ts).map (.compare x op)
    | none => Test.readPredicate? false x (.word w :: ts)
  | _ => none

/-- The numbers that tokens say to be equal. -/
def readNumbers? : List Token → Option (Nat × Nat)
  | [.word a, .word "=", .word b] =>
    match numeral? a, numeral? b with
    | some m, some n => some (m, n)
    | _, _ => none
  | _ => none

/-- The test that tokens are. -/
def Test.read? (ts : List Token) : Option Test :=
  match readNumbers? ts with
  | some (m, n) => some (.equal m n)
  | none =>
    match Operand.read? ts with
    | some (x, rest) => Test.readTail? x rest
    | none => none

lemma mem_commas {tss : List (List Token)} {t : Token} (h : t ∈ commas tss) :
    t = .mark ',' ∨ ∃ ts ∈ tss, t ∈ ts := by
  induction tss with
  | nil => simp [commas] at h
  | cons ts tss ih =>
    cases tss with
    | nil =>
      rw [commas, List.intercalate_singleton] at h
      exact Or.inr ⟨ts, List.mem_cons_self, h⟩
    | cons us tss =>
      rw [commas, List.intercalate_cons_cons, List.mem_append, List.mem_append,
        List.mem_singleton] at h
      rcases h with (h | h) | h
      · exact Or.inr ⟨ts, List.mem_cons_self, h⟩
      · exact Or.inl h
      · exact (ih h).imp_right fun ⟨vs, hvs, hmem⟩ => ⟨vs, List.mem_cons_of_mem _ hvs, hmem⟩

@[simp] lemma Reference.ofTokens?_tokens (r : Reference) :
    Reference.ofTokens? r.tokens = some r := by
  rw [ofTokens?, dif_pos ⟨r.ne_nil, r.isReference⟩]

/-- An operand ends where no part of a reference follows. -/
lemma Operand.read?_append (x : Operand) (rest : List Token)
    (h : ∀ t ∈ rest.head?, t.isReference = false) :
    Operand.read? (x.tokens ++ rest) = some (x, rest) := by
  cases x with
  | value v => rfl
  | column r =>
    have htake : (r.tokens ++ rest).takeWhile Token.isReference = r.tokens := by
      rw [List.takeWhile_append_of_pos r.isReference]
      cases rest with
      | nil => simp
      | cons t ts => simp [h t rfl]
    have hdrop : (r.tokens ++ rest).dropWhile Token.isReference = rest := by
      rw [List.dropWhile_append_of_pos r.isReference]
      cases rest with
      | nil => rfl
      | cons t ts => simp [h t rfl]
    obtain ⟨t, ts, hts⟩ := List.exists_cons_of_ne_nil r.ne_nil
    have ht : t.isReference = true := r.isReference t (by simp [hts])
    rw [tokens]
    cases t with
    | value v => simp [Token.isReference] at ht
    | name s | word s | mark c | unclosed s =>
      simp only [hts, List.cons_append] at htake hdrop ⊢
      simp only [Operand.read?, htake, hdrop, ← hts, Reference.ofTokens?_tokens, Option.map_some]

@[simp] lemma Operand.ofTokens?_tokens (x : Operand) : Operand.ofTokens? x.tokens = some x := by
  have hread := x.read?_append [] (by simp)
  rw [List.append_nil] at hread
  rw [ofTokens?, hread]

/-- The first token of an operand. -/
lemma Operand.exists_cons (x : Operand) :
    ∃ t ts, x.tokens = t :: ts ∧ (t.isReference = true ∨ ∃ v, t = .value v) := by
  cases x with
  | value v => exact ⟨_, _, rfl, Or.inr ⟨v, rfl⟩⟩
  | column r =>
    obtain ⟨t, ts, hts⟩ := List.exists_cons_of_ne_nil r.ne_nil
    exact ⟨t, ts, hts, Or.inl (r.isReference t (by simp [hts]))⟩

lemma Operand.mem_tokens {x : Operand} {t : Token} (h : t ∈ x.tokens) :
    t.isReference = true ∨ ∃ v, t = .value v := by
  cases x with
  | value v => exact Or.inr ⟨v, List.mem_singleton.mp h⟩
  | column r => exact Or.inl (r.isReference t h)

/-- No operand is a number. -/
lemma readNumbers?_append (x : Operand) (rest : List Token) :
    readNumbers? (x.tokens ++ rest) = none := by
  obtain ⟨t, ts, hts, ht⟩ := x.exists_cons
  rw [hts, List.cons_append]
  rcases ht with ht | ⟨v, rfl⟩
  · cases t with
    | word w =>
      have hw : numeral? w = none := by
        simp only [Token.isReference, Bool.or_eq_true, beq_iff_eq] at ht
        rcases ht with rfl | rfl <;> rfl
      rw [readNumbers?.eq_def]
      split
      · next heq =>
        obtain ⟨rfl, -⟩ : _ = _ ∧ _ := by simpa using heq
        simp [hw]
      · rfl
    | name s | mark c | unclosed s | value v => rfl
  · rfl

lemma readList?_tokens (y : Operand) (ys : List Operand) :
    readList? (.mark '(' :: commas ((y :: ys).map Operand.tokens) ++ [.mark ')'])
      = some (y :: ys) := by
  have hcomma : ∀ ts ∈ (y :: ys).map Operand.tokens, Token.mark ',' ∉ ts := by
    intro ts hts hmem
    obtain ⟨x, -, rfl⟩ := List.mem_map.mp hts
    rcases Operand.mem_tokens hmem with h | ⟨v, h⟩
    · exact absurd h (by decide)
    · simp at h
  have hread : ∀ xs : List Operand, (xs.map Operand.tokens).mapM Operand.ofTokens? = some xs := by
    intro xs
    induction xs with
    | nil => rfl
    | cons x xs ih => simp [List.mapM_cons, ih]
  rw [List.cons_append, readList?, if_pos (by simp), List.dropLast_concat, commas,
    List.splitOn_intercalate _ hcomma (by simp), hread]

lemma readRange?_tokens (low high : Operand) :
    readRange? (low.tokens ++ .word "AND" :: high.tokens) = some (low, high) := by
  have hread := low.read?_append (.word "AND" :: high.tokens) (by simp [Token.isReference])
  rw [readRange?, hread]
  simp

lemma Test.read?_append {x : Operand} {rest : List Token}
    (h : ∀ t ∈ rest.head?, t.isReference = false) :
    Test.read? (x.tokens ++ rest) = Test.readTail? x rest := by
  rw [read?, readNumbers?_append, x.read?_append rest h]

lemma Test.readTail?_operator (x : Operand) (op : Operator) (y : Operand) :
    Test.readTail? x (op.tokens ++ y.tokens) = some (.compare x op y) := by
  have htail : Test.readTail? x (op.tokens ++ y.tokens)
      = (Operand.ofTokens? y.tokens).map (.compare x op) := by cases op <;> rfl
  rw [htail, Operand.ofTokens?_tokens, Option.map_some]

/-- A keyword that can be negated is read behind its negation as it is without. -/
lemma Test.readTail?_negation (negated : Bool) (x : Operand) {w : String}
    (hw : w ∈ ["IN", "BETWEEN"]) (ts : List Token) :
    Test.readTail? x (negation negated ++ .word w :: ts)
      = Test.readPredicate? negated x (.word w :: ts) := by
  simp only [List.mem_cons, List.not_mem_nil, or_false] at hw
  cases negated <;> rcases hw with rfl | rfl <;> rfl

lemma isReference_head_negation (negated : Bool) {w : String} (hw : w ∈ ["IN", "BETWEEN"])
    (ts : List Token) :
    ∀ t ∈ (negation negated ++ .word w :: ts).head?, t.isReference = false := by
  simp only [List.mem_cons, List.not_mem_nil, or_false] at hw
  intro t ht
  cases negated <;> rcases hw with rfl | rfl <;>
  · obtain rfl := Option.some.inj ht
    rfl

/-- What is read of the tokens of a test is the test. -/
theorem Test.read?_tokens (t : Test) : Test.read? t.tokens = some t := by
  cases t with
  | equal m n => simp [Test.read?, Test.tokens, readNumbers?, numeral?_repr]
  | compare x op y =>
    rw [Test.tokens, List.append_assoc, Test.read?_append, Test.readTail?_operator]
    intro t ht
    cases op <;>
    · obtain rfl := Option.some.inj ht
      rfl
  | isNull negated x =>
    rw [Test.tokens, List.append_assoc, Test.read?_append]
    · cases negated <;> rfl
    · simp [Token.isReference]
  | isIn negated x y ys =>
    have hlist := readList?_tokens y ys
    simp only [Test.tokens, List.append_assoc, List.cons_append] at hlist ⊢
    rw [Test.read?_append (isReference_head_negation negated (by simp) _),
      Test.readTail?_negation negated x (by simp), readPredicate?, hlist]
  | between negated x low high =>
    have hrange := readRange?_tokens low high
    simp only [Test.tokens, List.append_assoc, List.cons_append] at hrange ⊢
    rw [Test.read?_append (isReference_head_negation negated (by simp) _),
      Test.readTail?_negation negated x (by simp), readPredicate?, hrange, Option.map_some]

end BoundSql
