import BoundSql.Proofs.Condition.Connective

/-!
# The syntax of selections

What a `SELECT` statement is read as. The statement falls into sections, each of which starts with
a keyword that is found nowhere else in a section, so its tokens belong to one selection only.
-/

namespace BoundSql

/-! ### Selections -/

/-- What is selected: a function of a column, or columns. -/
inductive Head where
  | call (f : String) (r : Reference)
  | columns (distinct : Bool) (r : Reference) (rs : List Reference)

/-- A join as it is read. -/
structure JoinSyntax where
  kind : JoinKind
  table : Reference
  on? : Option (Reference × Operator × Reference)

/-- A `SELECT` statement as it is read. No limit is a number, and one that lets everything pass may
be none. -/
structure Selection where
  head : Head
  table : Reference
  joins : List JoinSyntax
  tests : List (Connector × Test)
  groups : List Reference
  keys : List (Reference × Direction)
  limit? : Option (Option Nat)
  offset? : Option Nat

def Head.tokens : Head → List Token
  | .call f r => .word "SELECT" :: .word f :: .mark '(' :: r.tokens ++ [.mark ')']
  | .columns distinct r rs =>
    .word "SELECT" :: (if distinct then [.word "DISTINCT"] else [])
      ++ commas ((r :: rs).map Reference.tokens)

namespace JoinSyntax

/-- The condition of a join. -/
def onTokens : Option (Reference × Operator × Reference) → List Token
  | none => []
  | some (r, op, s) => .word "ON" :: r.tokens ++ op.tokens ++ s.tokens

def tokens (j : JoinSyntax) : List Token :=
  .word j.kind.keyword :: .word "JOIN" :: j.table.tokens ++ onTokens j.on?

end JoinSyntax

/-- The word of a limit. -/
def limitWord : Option Nat → String
  | none => "-1"
  | some n => n.repr

namespace Selection

def keyTokens (k : Reference × Direction) : List Token := k.1.tokens ++ [.word k.2.keyword]

/-- A section that is there if a list has elements. -/
def sectionIf {α : Type} (as : List α) (ts : List Token) : List (List Token) :=
  if as.isEmpty then [] else [ts]

/-- The sections behind the head. -/
def sections (s : Selection) : List (List Token) :=
  (.word "FROM" :: s.table.tokens) :: (s.joins.map JoinSyntax.tokens
    ++ sectionIf s.tests (.word "WHERE" :: joinedTokens (.equal 1 1) s.tests)
    ++ sectionIf s.groups (.word "GROUP" :: .word "BY" :: commas (s.groups.map Reference.tokens))
    ++ sectionIf s.keys (.word "ORDER" :: .word "BY" :: commas (s.keys.map keyTokens))
    ++ s.limit?.toList.map (fun l => [.word "LIMIT", .word (limitWord l)])
    ++ s.offset?.toList.map fun n => [.word "OFFSET", .word n.repr])

/-- The tokens that a selection is written with. -/
def tokens (s : Selection) : List Token := s.head.tokens ++ s.sections.flatten

end Selection

/-! ### Taking lists apart -/

section

variable {α : Type} {p : α → Bool} {as bs cs ds : List α}

/-- Where a list stops having a property, it is cut in one way only. -/
lemma append_inj_of_head (ha : ∀ a ∈ as, p a = true) (hb : ∀ b ∈ bs, p b = true)
    (hc : ∀ c ∈ cs.head?, p c = false) (hd : ∀ d ∈ ds.head?, p d = false)
    (h : as ++ cs = bs ++ ds) : as = bs ∧ cs = ds := by
  have htake : ∀ xs ys : List α, (∀ x ∈ xs, p x = true) → (∀ y ∈ ys.head?, p y = false) →
      (xs ++ ys).takeWhile p = xs := by
    intro xs ys hx hy
    rw [List.takeWhile_append_of_pos hx]
    cases ys with
    | nil => simp
    | cons y ys => simp [hy y rfl]
  have hab : as = bs := by rw [← htake as cs ha hc, ← htake bs ds hb hd, h]
  subst hab
  exact ⟨rfl, List.append_cancel_left h⟩

lemma flatten_head_stops {q : α → Bool} {xss : List (List α)}
    (h : ∀ xs ∈ xss, ∃ y ys, xs = y :: ys ∧ q y = true) : ∀ y ∈ xss.flatten.head?, q y = true := by
  intro y hy
  cases xss with
  | nil => simp at hy
  | cons xs xss =>
    obtain ⟨z, zs, rfl, hz⟩ := h xs List.mem_cons_self
    obtain rfl : z = y := by simpa using hy
    exact hz

/-- Lists that each start with a stop and have no other are told apart in their concatenation. -/
lemma flatten_inj_of_stops {q : α → Bool} {xss yss : List (List α)}
    (hx : ∀ xs ∈ xss, ∃ z zs, xs = z :: zs ∧ q z = true ∧ ∀ a ∈ zs, q a = false)
    (hy : ∀ ys ∈ yss, ∃ z zs, ys = z :: zs ∧ q z = true ∧ ∀ a ∈ zs, q a = false)
    (h : xss.flatten = yss.flatten) : xss = yss := by
  induction xss generalizing yss with
  | nil =>
    cases yss with
    | nil => rfl
    | cons ys yss =>
      obtain ⟨z, zs, rfl, -, -⟩ := hy ys List.mem_cons_self
      simp at h
  | cons xs xss ih =>
    obtain ⟨z, zs, rfl, -, hzs⟩ := hx xs List.mem_cons_self
    have hxss := fun xs hxs => hx xs (List.mem_cons_of_mem _ hxs)
    cases yss with
    | nil => simp at h
    | cons ys yss =>
      obtain ⟨w, ws, rfl, -, hws⟩ := hy ys List.mem_cons_self
      have hyss := fun ys hys => hy ys (List.mem_cons_of_mem _ hys)
      simp only [List.flatten_cons, List.cons_append, List.cons.injEq] at h
      obtain ⟨rfl, h⟩ := h
      have hstop : ∀ {tss : List (List α)}, (∀ ts ∈ tss, ∃ z zs, ts = z :: zs ∧ q z = true ∧
          ∀ a ∈ zs, q a = false) → ∀ a ∈ tss.flatten.head?, (!q a) = false := by
        intro tss htss a ha
        have hq := flatten_head_stops (fun ts hts => (htss ts hts).imp fun z hz =>
          hz.imp fun zs hzs => ⟨hzs.1, hzs.2.1⟩) a ha
        simp [hq]
      obtain ⟨rfl, hrest⟩ := append_inj_of_head (p := fun a => !q a) (by simpa using hzs)
        (by simpa using hws) (hstop hxss) (hstop hyss) h
      rw [ih hxss hyss hrest]

end

/-! ### Sections -/

/-- Whether a token starts a section. -/
def Token.opens : Token → Bool
  | .word w => ["FROM", "INNER", "LEFT", "RIGHT", "FULL", "CROSS", "WHERE", "GROUP", "ORDER",
      "LIMIT", "OFFSET"].contains w
  | .name _ | .unclosed _ | .mark _ | .value _ => false

lemma opens_of_isReference {t : Token} (h : t.isReference = true) : t.opens = false := by
  cases t with
  | word w =>
    simp only [Token.isReference, Bool.or_eq_true, beq_iff_eq] at h
    rcases h with rfl | rfl <;> decide
  | name s | unclosed s | mark c | value v => rfl

lemma Operand.opens_tokens (x : Operand) : ∀ t ∈ x.tokens, t.opens = false := by
  intro t ht
  rcases Operand.mem_tokens ht with h | ⟨v, rfl⟩
  · exact opens_of_isReference h
  · rfl

lemma opens_repr (n : Nat) : Token.opens (.word n.repr) = false := by
  have hwords : (["FROM", "INNER", "LEFT", "RIGHT", "FULL", "CROSS", "WHERE", "GROUP", "ORDER",
      "LIMIT", "OFFSET"].all fun w => numeral? w == none) = true := by decide
  by_contra h
  rw [Bool.not_eq_false, Token.opens, List.contains_iff_mem] at h
  have hnone := List.all_eq_true.mp hwords _ h
  simp [numeral?_repr] at hnone

lemma Operator.opens_tokens (op : Operator) : ∀ t ∈ op.tokens, t.opens = false := by
  cases op <;> decide

lemma opens_commas {tss : List (List Token)} (h : ∀ ts ∈ tss, ∀ t ∈ ts, t.opens = false) :
    ∀ t ∈ commas tss, t.opens = false := by
  intro t ht
  rcases mem_commas ht with rfl | ⟨ts, hts, hmem⟩
  · rfl
  · exact h ts hts t hmem

lemma opens_negation (negated : Bool) : ∀ t ∈ negation negated, t.opens = false := by
  cases negated <;> decide

lemma Test.opens_tokens (t : Test) : ∀ u ∈ t.tokens, u.opens = false := by
  intro u hu
  cases t with
  | equal m n =>
    simp only [tokens, List.mem_cons, List.not_mem_nil, or_false] at hu
    rcases hu with rfl | rfl | rfl
    · exact opens_repr m
    · decide
    · exact opens_repr n
  | compare x op y =>
    simp only [tokens, List.mem_append] at hu
    rcases hu with (hu | hu) | hu
    · exact x.opens_tokens u hu
    · exact op.opens_tokens u hu
    · exact y.opens_tokens u hu
  | isNull negated x =>
    simp only [tokens, List.mem_append, List.mem_cons, List.not_mem_nil, or_false] at hu
    rcases hu with (hu | rfl | hu) | rfl
    · exact x.opens_tokens u hu
    · decide
    · exact opens_negation negated u hu
    · decide
  | isIn negated x y ys =>
    simp only [tokens, List.mem_append, List.mem_cons, List.append_assoc, List.cons_append,
      List.not_mem_nil, or_false] at hu
    rcases hu with hu | hu | rfl | rfl | hu | rfl
    · exact x.opens_tokens u hu
    · exact opens_negation negated u hu
    · decide
    · decide
    · refine opens_commas ?_ u hu
      intro ts hts
      obtain ⟨z, -, rfl⟩ := List.mem_map.mp hts
      exact z.opens_tokens
    · decide
  | between negated x low high =>
    simp only [tokens, List.mem_append, List.mem_cons, List.append_assoc, List.cons_append] at hu
    rcases hu with hu | hu | rfl | hu | rfl | hu
    · exact x.opens_tokens u hu
    · exact opens_negation negated u hu
    · decide
    · exact low.opens_tokens u hu
    · decide
    · exact high.opens_tokens u hu

/-- A keyword, and behind it nothing that starts a section. -/
def IsSection (ts : List Token) : Prop :=
  ∃ t us, ts = t :: us ∧ t.opens = true ∧ ∀ u ∈ us, u.opens = false

lemma Reference.opens_tokens (r : Reference) : ∀ t ∈ r.tokens, t.opens = false :=
  fun t ht => opens_of_isReference (r.isReference t ht)

lemma JoinSyntax.isSection_tokens (j : JoinSyntax) : IsSection j.tokens := by
  obtain ⟨kind, table, on?⟩ := j
  refine ⟨.word kind.keyword, _, rfl, by cases kind <;> decide, ?_⟩
  intro u hu
  rcases List.mem_cons.mp hu with rfl | hu
  · decide
  · rcases List.mem_append.mp hu with hu | hu
    · exact table.opens_tokens u hu
    · cases on? with
      | none => simp [onTokens] at hu
      | some on =>
        obtain ⟨r, op, s⟩ := on
        simp only [onTokens, List.mem_append, List.mem_cons, List.cons_append] at hu
        rcases hu with rfl | (hu | hu) | hu
        · decide
        · exact r.opens_tokens u hu
        · exact op.opens_tokens u hu
        · exact s.opens_tokens u hu

lemma opens_joinedTokens (x : Test) (r : List (Connector × Test)) :
    ∀ u ∈ joinedTokens x r, u.opens = false := by
  intro u hu
  rcases List.mem_append.mp hu with hu | hu
  · exact x.opens_tokens u hu
  · obtain ⟨p, -, hu⟩ := List.mem_flatMap.mp hu
    rcases List.mem_cons.mp hu with rfl | hu
    · cases p.1 <;> decide
    · exact p.2.opens_tokens u hu

lemma opens_limitWord (l : Option Nat) : Token.opens (.word (limitWord l)) = false := by
  cases l with
  | none => decide
  | some n => exact opens_repr n

namespace Selection

lemma opens_keyTokens (k : Reference × Direction) : ∀ u ∈ keyTokens k, u.opens = false := by
  intro u hu
  rcases List.mem_append.mp hu with hu | hu
  · exact k.1.opens_tokens u hu
  · rw [List.mem_singleton] at hu
    subst hu
    cases k.2 <;> decide

lemma mem_sectionIf {α : Type} {as : List α} {ts us : List Token} (h : us ∈ sectionIf as ts) :
    us = ts := by
  rw [sectionIf] at h
  split_ifs at h
  · simp at h
  · exact List.mem_singleton.mp h

/-- The sections of a selection are sections. -/
lemma isSection_sections (s : Selection) : ∀ ts ∈ s.sections, IsSection ts := by
  intro ts hts
  simp only [sections, List.mem_cons, List.mem_append, List.mem_map, Option.mem_toList] at hts
  rcases hts with rfl | ((((⟨j, -, rfl⟩ | hts) | hts) | hts) | ⟨l, -, rfl⟩) | ⟨n, -, rfl⟩
  · exact ⟨_, _, rfl, by decide, s.table.opens_tokens⟩
  · exact j.isSection_tokens
  · exact ⟨_, _, mem_sectionIf hts, by decide, opens_joinedTokens _ _⟩
  · refine ⟨_, _, mem_sectionIf hts, by decide, ?_⟩
    intro u hu
    rcases List.mem_cons.mp hu with rfl | hu
    · decide
    · refine opens_commas ?_ u hu
      intro us hus
      obtain ⟨r, -, rfl⟩ := List.mem_map.mp hus
      exact r.opens_tokens
  · refine ⟨_, _, mem_sectionIf hts, by decide, ?_⟩
    intro u hu
    rcases List.mem_cons.mp hu with rfl | hu
    · decide
    · refine opens_commas ?_ u hu
      intro us hus
      obtain ⟨k, -, rfl⟩ := List.mem_map.mp hus
      exact opens_keyTokens k
  · exact ⟨_, _, rfl, by decide, by simpa using opens_limitWord l⟩
  · exact ⟨_, _, rfl, by decide, by simpa using opens_repr n⟩

end Selection

end BoundSql
