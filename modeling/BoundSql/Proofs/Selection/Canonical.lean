import BoundSql.Proofs.Condition.Reading
import BoundSql.Proofs.Selection.Syntax

/-!
# Canonical queries

Queries that differ in ways that no statement shows: how an alias is spelled, the case of an
aggregate function, what an aggregate makes superfluous, the column of an empty list, and on mysql
a limit that lets everything pass. The canonical form of a query is one of its kind, and what the
query is read as determines it.
-/

namespace BoundSql

open Template Text

/-! ### Canonical forms -/

/-- A name with its alias behind ` AS `. -/
def canonicalName (s : String) : String :=
  if mentionsAlias s then
    match aliasParts? s with
    | some (expr, label) => String.ofList (expr ++ " AS ".toList ++ label)
    | none => s
  else s

def Identifier.canonical : Identifier → Identifier
  | .expr e => .expr e
  | .name s => .name (canonicalName s)

/-- A list without values is compared with no column in particular. -/
def Predicate.canonical : Predicate → Predicate
  | .compare i op v => .compare i.canonical op v
  | .isIn _ [] => .isIn (.name "") []
  | .isIn i vs => .isIn i.canonical vs
  | .notIn _ [] => .notIn (.name "") []
  | .notIn i vs => .notIn i.canonical vs
  | .isNull i => .isNull i.canonical
  | .notNull i => .notNull i.canonical
  | .between i low high => .between i.canonical low high
  | .notBetween i low high => .notBetween i.canonical low high
  | .compareColumns i op j => .compareColumns i.canonical op j.canonical
  | .raw sql => .raw sql

def Clause.canonical (c : Clause) : Clause := { c with predicate := c.predicate.canonical }

def JoinCondition.canonical (on : JoinCondition) : JoinCondition :=
  { on with first := on.first.canonical, second := on.second.canonical }

def Join.canonical (j : Join) : Join :=
  { j with table := j.table.canonical, on? := j.on?.map JoinCondition.canonical }

def SortKey.canonical (k : SortKey) : SortKey := { k with column := k.column.canonical }

def Aggregate.canonical (a : Aggregate) : Aggregate :=
  { function := Text.upper a.function, column := a.column.canonical }

/-- The limit of a query. On mysql an offset has a limit in front of it. -/
def Dialect.canonicalLimit? : Dialect → Option UInt64 → Option UInt64 → Option UInt64
  | .mysql, none, some _ => some 18446744073709551615
  | _, limit?, _ => limit?

def Query.canonical (d : Dialect) (q : Query) : Query where
  table := q.table.canonical
  columns := if q.aggregate?.isSome then [] else q.selected.map Identifier.canonical
  distinct := q.aggregate?.isNone && q.distinct
  aggregate? := q.aggregate?.map Aggregate.canonical
  joins := q.joins.map Join.canonical
  clauses := q.clauses.map Clause.canonical
  groups := q.groups.map Identifier.canonical
  sortKeys := q.sortKeys.map SortKey.canonical
  limit? := d.canonicalLimit? q.limit? q.offset?
  offset? := q.offset?

/-! ### What a reference spells -/

/-- The characters of a name that a token stands for. -/
def Token.spelling : Token → List Char
  | .name s => s.toList
  | .mark c => [c]
  | .word w => if w = "AS" then " AS ".toList else w.toList
  | .unclosed _ | .value _ => []

/-- The canonical name that is read as a reference. -/
def Reference.spelling (r : Reference) : String :=
  String.ofList (r.tokens.flatMap Token.spelling)

lemma flatMap_spelling_path (d : Dialect) (cs : List Char) :
    ((path cs).tokens d).flatMap Token.spelling = cs := by
  have hsegment : ∀ s : List Char, (Piece.tokens d (segment s)).flatMap Token.spelling = s := by
    intro s
    rw [segment]
    split_ifs with hs
    · rw [Piece.tokens_text d (l := [.word "*"]) (by decide) (by decide), hs]
      rfl
    · simp [Token.spelling]
  have hdot : Piece.tokens d (.text ".") = [.mark '.'] :=
    Piece.tokens_text d (by decide) (by decide)
  have hsegments : ∀ ss : List (List Char),
      ((join "." (ss.map fun s => [segment s])).tokens d).flatMap Token.spelling
        = ['.'].intercalate ss := by
    intro ss
    induction ss with
    | nil => rfl
    | cons s ss ih =>
      cases ss with
      | nil => simp [hsegment]
      | cons u us =>
        simp only [List.map_cons] at ih ⊢
        simp only [join_cons_cons, tokens_append, tokens_cons, tokens_nil, hdot,
          List.flatMap_append, ih, List.intercalate_cons_cons, hsegment, List.append_nil]
        simp [Token.spelling]
  rw [path, hsegments, List.intercalate_splitOn]

lemma Identifier.ReadsAs.canonical_eq {d : Dialect} {i : Identifier} {r : Reference}
    (h : i.ReadsAs d r) : i.canonical = .name r.spelling := by
  obtain ⟨s, t, rfl, ht, hr⟩ := h
  have has : Piece.tokens d (.text " AS ") = [.word "AS"] :=
    Piece.tokens_text d (by decide) (by decide)
  rw [canonical, Reference.spelling, hr, canonicalName]
  by_cases hmentions : mentionsAlias s = true
  · rw [if_pos hmentions]
    rw [nameReference, if_pos hmentions] at ht
    cases hparts : aliasParts? s with
    | none => simp [hparts] at ht
    | some parts =>
      obtain ⟨expr, label⟩ := parts
      simp only [hparts, Except.ok.injEq] at ht
      subst ht
      rw [tokens_append, tokens_cons, has, List.flatMap_append, List.flatMap_append,
        flatMap_spelling_path, flatMap_spelling_path]
      simp [Token.spelling]
  · rw [nameReference, if_neg hmentions] at ht
    obtain rfl := Except.ok.inj ht
    rw [if_neg hmentions, flatMap_spelling_path, String.ofList_toList]

/-! ### What queries are read as -/

inductive Join.ReadsAs (d : Dialect) : Join → JoinSyntax → Prop where
  | cross {i r} : i.ReadsAs d r → ReadsAs d ⟨.cross, i, none⟩ ⟨.cross, r, none⟩
  | on {kind i r a ra op b rb} : i.ReadsAs d r → a.ReadsAs d ra → b.ReadsAs d rb →
      ReadsAs d ⟨kind, i, some ⟨a, op, b⟩⟩ ⟨kind, r, some (ra, op, rb)⟩

/-- A sort key is read as a column in front of its direction. -/
def SortKey.ReadsAs (d : Dialect) (k : SortKey) (p : Reference × Direction) : Prop :=
  k.column.ReadsAs d p.1 ∧ k.direction = p.2

inductive Query.HeadReadsAs (d : Dialect) (q : Query) : Head → Prop where
  | call {a r} : q.aggregate? = some a → a.column.ReadsAs d r →
      HeadReadsAs d q (.call (Text.upper a.function) r)
  | columns {r rs} : q.aggregate? = none →
      List.Forall₂ (Identifier.ReadsAs d) q.selected (r :: rs) →
      HeadReadsAs d q (.columns q.distinct r rs)

/-- The limit that is read. On sqlite an offset has a limit in front of it that is none. -/
def Query.limitRead? (d : Dialect) (q : Query) : Option (Option Nat) :=
  match (q.canonical d).limit? with
  | some n => some (some n.toNat)
  | none => if d = .sqlite ∧ q.offset?.isSome then some none else none

/-- What a query without raw texts is read as. -/
structure Query.ReadsAs (d : Dialect) (q : Query) (s : Selection) : Prop where
  head : q.HeadReadsAs d s.head
  table : q.table.ReadsAs d s.table
  joins : List.Forall₂ (Join.ReadsAs d) q.joins s.joins
  tests : List.Forall₂ (Clause.ReadsAs d) q.clauses s.tests
  groups : List.Forall₂ (Identifier.ReadsAs d) q.groups s.groups
  keys : List.Forall₂ (SortKey.ReadsAs d) q.sortKeys s.keys
  limit : s.limit? = q.limitRead? d
  offset : s.offset? = q.offset?.map UInt64.toNat

section

variable {d : Dialect}

lemma Identifier.ReadsAs.canonical_eq_canonical {i j : Identifier} {r : Reference}
    (hi : i.ReadsAs d r) (hj : j.ReadsAs d r) : i.canonical = j.canonical := by
  rw [hi.canonical_eq, hj.canonical_eq]

/-- What is read as the same has the same canonical form. -/
lemma map_eq_of_forall₂ {α β γ : Type} {R : α → β → Prop} {f : α → γ} {as bs : List α}
    {cs : List β} (hR : ∀ a b c, R a c → R b c → f a = f b) (ha : List.Forall₂ R as cs)
    (hb : List.Forall₂ R bs cs) : as.map f = bs.map f := by
  induction ha generalizing bs with
  | nil =>
    cases hb
    rfl
  | @cons a c as cs hac _ ih =>
    obtain ⟨b, bs, hbc, hbs, rfl⟩ := List.forall₂_cons_right_iff.mp hb
    rw [List.map_cons, List.map_cons, hR a b c hac hbc, ih hbs]

lemma map_canonical_eq {is js : List Identifier} {rs : List Reference}
    (hi : List.Forall₂ (Identifier.ReadsAs d) is rs)
    (hj : List.Forall₂ (Identifier.ReadsAs d) js rs) :
    is.map Identifier.canonical = js.map Identifier.canonical :=
  map_eq_of_forall₂ (fun _ _ _ hi hj => hi.canonical_eq_canonical hj) hi hj

lemma boundValues_inj {us vs : List SqlValue} (h : us.map Operand.value = vs.map .value) :
    us = vs :=
  List.map_injective_iff.mpr (fun _ _ => Operand.value.inj) h

lemma Predicate.ReadsAs.canonical_eq {p q : Predicate} {t : Test} (hp : p.ReadsAs d t)
    (hq : q.ReadsAs d t) : p.canonical = q.canonical := by
  cases hp with
  | isInEmpty | notInEmpty =>
    cases hq
    rfl
  | compare hi | isNull hi | notNull hi | between hi | notBetween hi =>
    cases hq
    next hj => simp only [canonical, hi.canonical_eq_canonical hj]
  | compareColumns hi hj =>
    cases hq with
    | compareColumns hi' hj' =>
      simp only [canonical, hi.canonical_eq_canonical hi', hj.canonical_eq_canonical hj']
  | isIn hi hys =>
    cases hq with
    | isIn hj hys' =>
      rw [boundValues_inj (hys.symm.trans hys')]
      simp only [boundValues, List.map_cons, canonical, hi.canonical_eq_canonical hj]
  | notIn hi hys =>
    cases hq with
    | notIn hj hys' =>
      rw [boundValues_inj (hys.symm.trans hys')]
      simp only [boundValues, List.map_cons, canonical, hi.canonical_eq_canonical hj]

lemma Clause.ReadsAs.canonical_eq {c c' : Clause} {p : Connector × Test} (h : c.ReadsAs d p)
    (h' : c'.ReadsAs d p) : c.canonical = c'.canonical := by
  obtain ⟨hconnector, hp⟩ := h
  obtain ⟨hconnector', hp'⟩ := h'
  rw [canonical, canonical, hconnector, hconnector', hp.canonical_eq hp']

lemma SortKey.ReadsAs.canonical_eq {k k' : SortKey} {p : Reference × Direction}
    (h : k.ReadsAs d p) (h' : k'.ReadsAs d p) : k.canonical = k'.canonical := by
  obtain ⟨hcolumn, hdirection⟩ := h
  obtain ⟨hcolumn', hdirection'⟩ := h'
  rw [canonical, canonical, hdirection, hdirection', hcolumn.canonical_eq_canonical hcolumn']

lemma Join.ReadsAs.canonical_eq {j k : Join} {s : JoinSyntax} (hj : j.ReadsAs d s)
    (hk : k.ReadsAs d s) : j.canonical = k.canonical := by
  cases hj with
  | cross hi =>
    cases hk with
    | cross hi' => simp only [canonical, hi.canonical_eq_canonical hi', Option.map_none]
  | on hi ha hb =>
    cases hk with
    | on hi' ha' hb' =>
      simp only [canonical, hi.canonical_eq_canonical hi', JoinCondition.canonical,
        ha.canonical_eq_canonical ha', hb.canonical_eq_canonical hb', Option.map_some]

lemma Query.HeadReadsAs.canonical_eq {q q' : Query} {x : Head} (h : q.HeadReadsAs d x)
    (h' : q'.HeadReadsAs d x) :
    (q.canonical d).columns = (q'.canonical d).columns ∧
      (q.canonical d).distinct = (q'.canonical d).distinct ∧
      (q.canonical d).aggregate? = (q'.canonical d).aggregate? := by
  generalize hx : x = y at h'
  cases h with
  | call ha hr =>
    cases h' with
    | columns => simp at hx
    | call ha' hr' =>
      obtain ⟨hf, rfl⟩ := Head.call.inj hx
      simp [canonical, ha, ha', Aggregate.canonical, hf, hr.canonical_eq_canonical hr']
  | columns ha hrs =>
    cases h' with
    | call => simp at hx
    | columns ha' hrs' =>
      obtain ⟨hdistinct, rfl, rfl⟩ := Head.columns.inj hx
      have hcolumns := map_canonical_eq hrs hrs'
      simp [canonical, ha, ha', hcolumns, hdistinct]

lemma Query.limit_canonical_eq {q q' : Query} (h : q.limitRead? d = q'.limitRead? d) :
    (q.canonical d).limit? = (q'.canonical d).limit? := by
  rw [limitRead?, limitRead?] at h
  cases hq : (q.canonical d).limit? with
  | none =>
    cases hq' : (q'.canonical d).limit? with
    | none => rfl
    | some n' =>
      simp only [hq, hq'] at h
      split_ifs at h
      simp at h
  | some n =>
    cases hq' : (q'.canonical d).limit? with
    | none =>
      simp only [hq, hq'] at h
      split_ifs at h
      simp at h
    | some n' =>
      simp only [hq, hq', Option.some.injEq] at h
      rw [UInt64.toNat_inj.mp h]

/-- What a query is read as determines its canonical form. -/
theorem Query.ReadsAs.canonical_eq {q q' : Query} {s : Selection} (h : q.ReadsAs d s)
    (h' : q'.ReadsAs d s) : q.canonical d = q'.canonical d := by
  have htable := h.table.canonical_eq_canonical h'.table
  obtain ⟨hcolumns, hdistinct, haggregate⟩ := h.head.canonical_eq h'.head
  have hjoins := map_eq_of_forall₂ (R := Join.ReadsAs d) (f := Join.canonical)
    (fun j k u => Join.ReadsAs.canonical_eq) h.joins h'.joins
  have hclauses := map_eq_of_forall₂ (R := Clause.ReadsAs d) (f := Clause.canonical)
    (fun c c' p => Clause.ReadsAs.canonical_eq) h.tests h'.tests
  have hgroups := map_canonical_eq h.groups h'.groups
  have hkeys := map_eq_of_forall₂ (R := SortKey.ReadsAs d) (f := SortKey.canonical)
    (fun k k' p => SortKey.ReadsAs.canonical_eq) h.keys h'.keys
  have hoffset : q.offset? = q'.offset? :=
    Option.map_injective (fun _ _ => UInt64.toNat_inj.mp) (h.offset.symm.trans h'.offset)
  have hlimit := Query.limit_canonical_eq (h.limit.symm.trans h'.limit)
  rw [Query.mk.injEq]
  exact ⟨htable, hcolumns, hdistinct, haggregate, hjoins, hclauses, hgroups, hkeys, hlimit,
    hoffset⟩

end

end BoundSql
