import BoundSql.Proofs.Condition.Syntax

/-!
# Connectives

How a condition is taken apart at its connectives. An `AND` is a connective unless it stands
between the bounds of a `BETWEEN`, and it binds tighter than `OR`: a condition is a list of
alternatives, each a list of tests that hold together.
-/

namespace BoundSql

/-- A part of a condition. -/
inductive Part where
  | token (t : Token)
  | connective (c : Connector)
deriving DecidableEq

def Part.token? : Part → Option Token
  | .token t => some t
  | .connective _ => none

/-- Tokens with the connectives told apart, where `between` says whether the first bound of a
`BETWEEN` is being read. -/
def connect : Bool → List Token → List Part
  | _, [] => []
  | between, .word w :: ts =>
    if w = "AND" then
      if between then .token (.word w) :: connect false ts else .connective .and :: connect false ts
    else if w = "OR" then .connective .or :: connect between ts
    else .token (.word w) :: connect (between || w == "BETWEEN") ts
  | between, t :: ts => .token t :: connect between ts

/-- The test between two connectives. -/
def readTest? (ps : List Part) : Option Test :=
  Test.read? (ps.filterMap Part.token?)

/-- The alternatives of a condition, each with its tests. -/
def readCondition? (ts : List Token) : Option (List (List Test)) :=
  ((connect false ts).splitOn (.connective .or)).mapM fun ps =>
    (ps.splitOn (.connective .and)).mapM readTest?

/-- What follows `x` behind its connectives, as alternatives of what holds together. -/
def alternatives {α : Type} : α → List (Connector × α) → List (List α)
  | x, [] => [[x]]
  | x, (.and, y) :: r => (alternatives y r).modifyHead (x :: ·)
  | x, (.or, y) :: r => [x] :: alternatives y r

/-! ### Telling connectives apart -/

/-- Whether a token has to do with connectives. -/
def Token.connects : Token → Bool
  | .word w => w == "AND" || w == "OR" || w == "BETWEEN"
  | .name _ | .unclosed _ | .mark _ | .value _ => false

lemma connect_append {ts : List Token} (h : ∀ t ∈ ts, t.connects = false) (between : Bool)
    (us : List Token) : connect between (ts ++ us) = ts.map .token ++ connect between us := by
  induction ts with
  | nil => rfl
  | cons t ts ih =>
    have ht : t.connects = false := h t List.mem_cons_self
    have hts := ih fun u hu => h u (List.mem_cons_of_mem _ hu)
    cases t with
    | word w =>
      simp only [Token.connects, Bool.or_eq_false_iff, beq_eq_false_iff_ne] at ht
      obtain ⟨⟨hand, hor⟩, hbetween⟩ := ht
      rw [List.cons_append, connect, if_neg hand, if_neg hor, beq_false_of_ne hbetween,
        Bool.or_false, hts, List.map_cons, List.cons_append]
    | name s | unclosed s | mark c | value v => simp [connect, hts]

lemma Operand.connects_tokens (x : Operand) : ∀ t ∈ x.tokens, t.connects = false := by
  intro t ht
  rcases Operand.mem_tokens ht with h | ⟨v, rfl⟩
  · cases t with
    | word w =>
      simp only [Token.isReference, Bool.or_eq_true, beq_iff_eq] at h
      rcases h with rfl | rfl <;> rfl
    | name s | unclosed s | mark c | value v => rfl
  · rfl

lemma connects_negation (negated : Bool) : ∀ t ∈ negation negated, t.connects = false := by
  cases negated <;> simp [negation, Token.connects]

lemma connects_repr (n : Nat) : Token.connects (.word n.repr) = false := by
  have hne : ∀ w : String, numeral? w = none → n.repr ≠ w := by
    rintro w hw rfl
    simp [numeral?_repr] at hw
  simp [Token.connects, hne "AND" rfl, hne "OR" rfl, hne "BETWEEN" rfl]

/-- A test has no connectives: the only `AND` in it belongs to its `BETWEEN`. -/
lemma Test.connect_tokens_append (t : Test) (us : List Token) :
    connect false (t.tokens ++ us) = t.tokens.map .token ++ connect false us := by
  cases t with
  | equal m n =>
    refine connect_append ?_ false us
    intro u hu
    simp only [tokens, List.mem_cons, List.not_mem_nil, or_false] at hu
    rcases hu with rfl | rfl | rfl
    · exact connects_repr m
    · rfl
    · exact connects_repr n
  | compare x op y =>
    refine connect_append ?_ false us
    intro u hu
    simp only [tokens, List.mem_append] at hu
    rcases hu with (hu | hu) | hu
    · exact x.connects_tokens u hu
    · have hop : ∀ v ∈ op.tokens, v.connects = false := by cases op <;> decide
      exact hop u hu
    · exact y.connects_tokens u hu
  | isNull negated x =>
    refine connect_append ?_ false us
    intro u hu
    simp only [tokens, List.mem_append, List.mem_cons, List.not_mem_nil, or_false] at hu
    rcases hu with (hu | rfl | hu) | rfl
    · exact x.connects_tokens u hu
    · rfl
    · exact connects_negation negated u hu
    · rfl
  | isIn negated x y ys =>
    refine connect_append ?_ false us
    intro u hu
    simp only [tokens, List.mem_append, List.mem_cons, List.append_assoc, List.cons_append,
      List.not_mem_nil, or_false] at hu
    rcases hu with hu | hu | rfl | rfl | hu | rfl
    · exact x.connects_tokens u hu
    · exact connects_negation negated u hu
    · rfl
    · rfl
    · rcases mem_commas hu with rfl | ⟨ts, hts, hu⟩
      · rfl
      · obtain ⟨z, -, rfl⟩ := List.mem_map.mp hts
        exact z.connects_tokens u hu
    · rfl
  | between negated x low high =>
    have hfirst : ∀ u ∈ x.tokens ++ negation negated, u.connects = false := fun u hu =>
      (List.mem_append.mp hu).elim (x.connects_tokens u) (connects_negation negated u)
    rw [tokens, List.append_assoc, List.append_assoc, connect_append hfirst]
    rw [List.cons_append, List.cons_append, connect, if_neg (by decide), if_neg (by decide)]
    rw [show (false || "BETWEEN" == "BETWEEN") = true from rfl, List.append_assoc,
      connect_append low.connects_tokens]
    rw [List.cons_append, connect, if_pos rfl, if_pos rfl, connect_append high.connects_tokens]
    simp

/-! ### Taking conditions apart -/

/-- Tests joined by connectives, as tokens. -/
def joinedTokens (x : Test) (r : List (Connector × Test)) : List Token :=
  x.tokens ++ r.flatMap fun p => .word p.1.keyword :: p.2.tokens

/-- Tests joined by connectives that are told apart. -/
def joined (x : Test) (r : List (Connector × Test)) : List Part :=
  x.tokens.map .token ++ r.flatMap fun p => .connective p.1 :: p.2.tokens.map .token

lemma joined_cons (x : Test) (p : Connector × Test) (r : List (Connector × Test)) :
    joined x (p :: r) = x.tokens.map .token ++ .connective p.1 :: joined p.2 r := by
  simp [joined]

lemma connect_joinedTokens (x : Test) (r : List (Connector × Test)) :
    connect false (joinedTokens x r) = joined x r := by
  induction r generalizing x with
  | nil =>
    have htest := x.connect_tokens_append []
    simpa [joinedTokens, joined, connect] using htest
  | cons p r ih =>
    obtain ⟨c, y⟩ := p
    have htokens : joinedTokens x ((c, y) :: r)
        = x.tokens ++ .word c.keyword :: joinedTokens y r := by simp [joinedTokens]
    have hconnective : connect false (.word c.keyword :: joinedTokens y r)
        = .connective c :: connect false (joinedTokens y r) := by cases c <;> rfl
    rw [htokens, x.connect_tokens_append, hconnective, ih, joined_cons]

lemma splitOn_append_of_notMem {α : Type} [DecidableEq α] {a : α} {xs : List α} (h : a ∉ xs)
    (ys : List α) : (xs ++ ys).splitOn a = (ys.splitOn a).modifyHead (xs ++ ·) := by
  induction xs with
  | nil =>
    obtain ⟨z, zs, hz⟩ := List.exists_cons_of_ne_nil (List.splitOn_ne_nil a ys)
    simp [hz]
  | cons x xs ih =>
    simp only [List.mem_cons, not_or] at h
    have hx : (x == a) = false := beq_false_of_ne (Ne.symm h.1)
    obtain ⟨z, zs, hz⟩ := List.exists_cons_of_ne_nil (List.splitOn_ne_nil a ys)
    rw [List.cons_append, List.splitOn_cons_eq_if_modifyHead, hx, ih h.2, hz]
    simp

lemma readTest?_tokens (t : Test) : readTest? (t.tokens.map .token) = some t := by
  have hleft : (t.tokens.map Part.token).filterMap Part.token? = t.tokens := by
    rw [List.filterMap_map]
    exact List.filterMap_some
  rw [readTest?, hleft, t.read?_tokens]

lemma connective_notMem_map (c : Connector) (ts : List Token) :
    Part.connective c ∉ ts.map Part.token := by
  simp

/-- Tests joined by connectives are read as the alternatives that they are. -/
theorem readCondition?_joinedTokens (x : Test) (r : List (Connector × Test)) :
    readCondition? (joinedTokens x r) = some (alternatives x r) := by
  rw [readCondition?, connect_joinedTokens]
  induction r generalizing x with
  | nil =>
    simp only [joined, List.flatMap_nil, List.append_nil]
    rw [List.splitOn_eq_singleton (connective_notMem_map _ _), List.mapM_cons,
      List.splitOn_eq_singleton (connective_notMem_map _ _), List.mapM_cons, readTest?_tokens]
    rfl
  | cons p r ih =>
    obtain ⟨c, y⟩ := p
    have hrest := ih y
    rw [joined_cons]
    cases c with
    | or =>
      rw [List.splitOn_append_cons_self_of_not_mem (connective_notMem_map _ _), List.mapM_cons,
        hrest,
        List.splitOn_eq_singleton (connective_notMem_map _ _), List.mapM_cons, readTest?_tokens]
      rfl
    | and =>
      have hor : Part.connective .or ∉ x.tokens.map Part.token ++ [Part.connective .and] := by simp
      obtain ⟨z, zs, hz⟩ := List.exists_cons_of_ne_nil
        (List.splitOn_ne_nil (Part.connective .or) (joined y r))
      rw [List.append_cons, splitOn_append_of_notMem hor, hz, List.modifyHead_cons,
        List.append_assoc, List.singleton_append, List.mapM_cons,
        List.splitOn_append_cons_self_of_not_mem (connective_notMem_map _ _), List.mapM_cons,
        readTest?_tokens]
      rw [hz, List.mapM_cons] at hrest
      cases hfirst : (z.splitOn (Part.connective .and)).mapM readTest? with
      | none => simp [hfirst] at hrest
      | some g =>
        cases hothers : zs.mapM fun ps => (ps.splitOn (Part.connective .and)).mapM readTest? with
        | none => simp [hfirst, hothers] at hrest
        | some gs =>
          simp only [hfirst, hothers, Option.bind_eq_bind, Option.bind_some, Option.pure_def,
            Option.some.injEq] at hrest ⊢
          rw [alternatives, ← hrest, List.modifyHead_cons]

end BoundSql

