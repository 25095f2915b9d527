import BoundSql.Proofs.Dialects
import BoundSql.Proofs.Insertion.Batch

/-!
# The checks of a selection

What a selection can fail on, check by check: a name with a malformed alias, a kind of join that
the dialect does not have, and a join that does not fit its condition. The checks are made in one
order, whatever the query, and the first that fails decides.
-/

namespace BoundSql

/-- A name that has a word `as` in it, in whatever case, but is not of the form `expr AS alias`. -/
def IsMalformed (s : String) : Prop :=
  [' ', 'a', 's', ' '] <:+: s.toLower.toList ∧
    ¬∃ expr keyword label, Text.words s.toList = [expr, keyword, label] ∧
      (String.ofList keyword).toLower = "as"

/-- What is looked at when a selection is compiled. -/
inductive Check where
  /-- how a table or column is written -/
  | reference (i : Identifier)
  /-- whether the dialect has a kind of join -/
  | kind (k : JoinKind)
  /-- whether a join has a condition where it needs one, and only there -/
  | condition (j : Join)

namespace Check

/-- What a check fails with in a dialect. A join names its table, which was looked at before. -/
inductive Fails (d : Dialect) : Check → Error → Prop where
  | name {s} : IsMalformed s → Fails d (.reference (.name s)) (.malformedAlias s)
  | kind : d = .mysql → Fails d (.kind .full) (.unsupportedJoin d .full)
  | needless {j t} : j.kind = .cross → j.on? ≠ none → j.table.template = .ok t →
      Fails d (.condition j) (.invalidJoin .cross (t.render d 0) .needless)
  | missing {j t} : j.kind ≠ .cross → j.on? = none → j.table.template = .ok t →
      Fails d (.condition j) (.invalidJoin j.kind (t.render d 0) .missing)

/-- What a check fails with, if it does. -/
def error? (d : Dialect) : Check → Option Error
  | .reference i => failure? i.template
  | .kind k => if d.supports k then none else some (.unsupportedJoin d k)
  | .condition j =>
    match j.table.template with
    | .ok t => j.fault?.map (.invalidJoin j.kind (t.render d 0))
    | .error _ => none

end Check

/-- The checks of a join, in order. -/
def Join.checks (j : Join) : List Check :=
  [.kind j.kind, .reference j.table, .condition j]
    ++ j.on?.toList.flatMap fun on => [.reference on.first, .reference on.second]

/-- The checks of a query, in order. An aggregate takes the place of the columns, and of an empty
list the column is not looked at. -/
def Query.checks (q : Query) : List Check :=
  (match q.aggregate? with
    | some a => [.reference a.column]
    | none => q.columns.map .reference)
    ++ .reference q.table :: q.joins.flatMap Join.checks
    ++ q.clauses.flatMap (fun c => c.predicate.references.map .reference)
    ++ q.groups.map .reference
    ++ q.sortKeys.map fun k => .reference k.column

variable {d : Dialect} {e : Error}

/-- Only malformed names cannot be written. -/
lemma failure?_nameReference_eq_some {s : String} :
    failure? (nameReference s) = some e ↔ IsMalformed s ∧ e = .malformedAlias s := by
  have hparts : aliasParts? s = none ↔ ¬∃ expr keyword label,
      Text.words s.toList = [expr, keyword, label] ∧ (String.ofList keyword).toLower = "as" := by
    simp only [Option.eq_none_iff_forall_ne_some, Prod.forall, ne_eq, aliasParts?_eq_some_iff]
    grind
  rw [IsMalformed, ← mentionsAlias_eq_true_iff, ← hparts, nameReference]
  cases mentionsAlias s with
  | false => simp
  | true => cases aliasParts? s <;> simp [eq_comm]

namespace Join

variable {j : Join}

lemma fault?_eq_some_needless : j.fault? = some .needless ↔ j.kind = .cross ∧ j.on? ≠ none := by
  obtain ⟨kind, table, on?⟩ := j
  cases kind <;> cases on? <;> simp [fault?]

lemma fault?_eq_some_missing : j.fault? = some .missing ↔ j.kind ≠ .cross ∧ j.on? = none := by
  obtain ⟨kind, table, on?⟩ := j
  cases kind <;> cases on? <;> simp [fault?]

end Join

namespace Check

/-- What a check fails with is its one error. -/
lemma fails_iff {x : Check} : x.Fails d e ↔ x.error? d = some e := by
  cases x with
  | reference i =>
    cases i with
    | expr raw =>
      rw [error?, Identifier.template, failure?_ok]
      exact iff_of_false (by rintro ⟨⟩) (by simp)
    | name s =>
      rw [error?, Identifier.template, failure?_nameReference_eq_some]
      constructor
      · intro h
        cases h with
        | name hs => exact ⟨hs, rfl⟩
      · rintro ⟨hs, rfl⟩
        exact .name hs
  | kind k =>
    rw [error?]
    constructor
    · intro h
      cases h with
      | kind hd =>
        rw [hd]
        rfl
    · intro h
      split_ifs at h with hk
      obtain ⟨rfl, rfl⟩ : d = .mysql ∧ k = .full := by simpa [Dialect.supports] using hk
      obtain rfl := Option.some.inj h
      exact .kind rfl
  | condition j =>
    rw [error?]
    constructor
    · intro h
      cases h with
      | needless hkind hon ht =>
        rw [ht, (Join.fault?_eq_some_needless.mpr ⟨hkind, hon⟩), hkind]
        rfl
      | missing hkind hon ht =>
        rw [ht, (Join.fault?_eq_some_missing.mpr ⟨hkind, hon⟩)]
        rfl
    · intro h
      cases ht : j.table.template with
      | error e => simp [ht] at h
      | ok t =>
        rw [ht] at h
        obtain ⟨fault, hfault, rfl⟩ := Option.map_eq_some_iff.mp h
        cases fault with
        | needless =>
          obtain ⟨hkind, hon⟩ := Join.fault?_eq_some_needless.mp hfault
          rw [hkind]
          exact .needless hkind hon ht
        | missing =>
          obtain ⟨hkind, hon⟩ := Join.fault?_eq_some_missing.mp hfault
          exact .missing hkind hon ht

lemma error?_eq_none_iff {x : Check} : x.error? d = none ↔ ∀ e, ¬x.Fails d e := by
  rw [Option.eq_none_iff_forall_ne_some]
  simp only [ne_eq, fails_iff]

end Check

lemma Join.findSome?_checks (j : Join) :
    j.checks.findSome? (Check.error? d) = failure? (j.template d) := by
  rw [checks, List.cons_append, List.findSome?_cons, Check.error?]
  cases hsupports : d.supports j.kind with
  | false =>
    rw [template, hsupports]
    rfl
  | true =>
    rw [failure?_template hsupports]
    simp only [if_true, List.cons_append, List.nil_append, List.findSome?_cons, Check.error?]
    cases j.table.template with
    | error e => rfl
    | ok t =>
      cases j.fault? with
      | some fault => rfl
      | none =>
        cases j.on? with
        | none => rfl
        | some on => exact (failure?_columnComparison on.first on.second on.operator).symm

/-- The checks of an item, in order. -/
def Item.checks : Item → List Check
  | .reference i => [.reference i]
  | .join j => j.checks

lemma Item.findSome?_checks (x : Item) :
    x.checks.findSome? (Check.error? d) = x.error? d := by
  cases x with
  | reference i =>
    rw [checks, List.findSome?_singleton, error?, template, Check.error?]
  | join j => exact j.findSome?_checks

namespace Query

/-- The checks go item by item. -/
lemma checks_eq_flatMap_items (q : Query) : q.checks = q.items.flatMap Item.checks := by
  have hreferences : ∀ is : List Identifier,
      (is.map Item.reference).flatMap Item.checks = is.map Check.reference := by
    intro is
    rw [List.flatMap_map, List.map_eq_flatMap]
    rfl
  have hclauses : (q.componentItems .clauses).flatMap Item.checks
      = q.clauses.flatMap fun c => c.predicate.references.map Check.reference := by
    simp only [componentItems, List.flatMap_assoc, hreferences]
  have hjoins : (q.componentItems .joins).flatMap Item.checks = q.joins.flatMap Join.checks := by
    rw [componentItems, List.flatMap_map]
    rfl
  have hkeys : (q.componentItems .sortKeys).flatMap Item.checks
      = q.sortKeys.map fun k => Check.reference k.column := by
    rw [componentItems, List.flatMap_map, List.map_eq_flatMap]
    rfl
  rw [checks, items, List.flatMap_assoc]
  simp only [Component.all, List.flatMap_cons, List.flatMap_nil, hclauses, hjoins, hkeys]
  cases ha : q.aggregate? <;>
    simp [componentItems, ha, hreferences, Item.checks]

lemma findSome?_checks (q : Query) :
    q.checks.findSome? (Check.error? d) = failure? (q.selectTemplate d) := by
  rw [failure?_selectTemplate, firstFailing?, ← findSome?_eq_bind_find?, checks_eq_flatMap_items,
    findSome?_flatMap]
  simp only [Item.findSome?_checks]

/-- A selection compiles if no check fails, and else fails with the first that does. -/
theorem compileSelect_checks (c : Config) (q : Query) :
    ((∃ s, q.compileSelect c = .ok s) ↔ ∀ x ∈ q.checks, ∀ e, ¬x.Fails c.dialect e) ∧
    ∀ e, q.compileSelect c = .error e ↔ ∃ before x after, q.checks = before ++ x :: after ∧
      x.Fails c.dialect e ∧ ∀ y ∈ before, ∀ e', ¬y.Fails c.dialect e' := by
  have hfailure : failure? (q.compileSelect c) = q.checks.findSome? (Check.error? c.dialect) := by
    rw [findSome?_checks]
    exact (Command.select q).failure?_compile c
  constructor
  · rw [← failure?_eq_none, hfailure, List.findSome?_eq_none_iff]
    simp only [Check.error?_eq_none_iff]
  · intro e
    rw [← failure?_eq_some, hfailure, List.findSome?_eq_some_iff]
    simp only [Check.error?_eq_none_iff, Check.fails_iff]

/-- A query with several faults: a join that mysql does not have, the table of this join, its
missing condition, and the column of a clause. The faults of the columns, which an aggregate takes
the place of, and of the column of an empty list do not count. -/
def faultyQuery : Query :=
  { table := .name "t AS u"
    columns := [.name "x as "]
    aggregate? := some ⟨"count", .name "*"⟩
    joins := [⟨.full, .name "r as as s", none⟩]
    clauses := [⟨.and, .isIn (.name "y as ") []⟩, ⟨.or, .isNull (.name "z as ")⟩] }

/-- On mysql the kind of the join is found first, on sqlite the table; without the join the second
clause is found, and without that there is no fault. -/
theorem compileSelect_checks_faultyQuery :
    faultyQuery.compileSelect { dialect := .mysql } = .error (.unsupportedJoin .mysql .full) ∧
    faultyQuery.compileSelect { dialect := .sqlite } = .error (.malformedAlias "r as as s") ∧
    { faultyQuery with joins := [] }.compileSelect { dialect := .mysql }
      = .error (.malformedAlias "z as ") ∧
    ∃ s, { faultyQuery with joins := [], clauses := faultyQuery.clauses.take 1 }.compileSelect
      { dialect := .mysql } = .ok s := by
  have hstar : ∀ d e, ¬(Check.reference (.name "*")).Fails d e := fun d =>
    Check.error?_eq_none_iff.mp (by cbv)
  have htable : ∀ d e, ¬(Check.reference (.name "t AS u")).Fails d e := fun d =>
    Check.error?_eq_none_iff.mp (by cbv)
  have hfull : ∀ e, ¬(Check.kind .full).Fails .sqlite e := Check.error?_eq_none_iff.mp rfl
  have hjoin : IsMalformed "r as as s" := (failure?_nameReference_eq_some.mp (by cbv)).1
  have hclause : IsMalformed "z as " := (failure?_nameReference_eq_some.mp (by cbv)).1
  refine ⟨?_, ?_, ?_, ?_⟩
  · refine ((compileSelect_checks { dialect := .mysql } faultyQuery).2 _).mpr
      ⟨[.reference (.name "*"), .reference (.name "t AS u")], _, _, rfl, .kind rfl, ?_⟩
    simp [hstar, htable]
  · refine ((compileSelect_checks { dialect := .sqlite } faultyQuery).2 _).mpr
      ⟨[.reference (.name "*"), .reference (.name "t AS u"), .kind .full], _, _, rfl,
        .name hjoin, ?_⟩
    simp [hstar, htable, hfull]
  · refine ((compileSelect_checks { dialect := .mysql } _).2 _).mpr
      ⟨[.reference (.name "*"), .reference (.name "t AS u")], _, _, rfl, .name hclause, ?_⟩
    simp [hstar, htable]
  · refine (compileSelect_checks { dialect := .mysql } _).1.mpr ?_
    simp [checks, faultyQuery, Predicate.references, hstar, htable]

end Query

end BoundSql
