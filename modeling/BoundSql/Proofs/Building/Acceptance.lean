import BoundSql.Proofs.Building.Interleaving

/-!
# Built queries that compile

Each step brings checks of its own, and a query that steps build is checked for nothing else but
the name of its table. So steps whose checks pass keep a selection compiling, whatever it was built
from before. A join of a fixed kind passes in every dialect if its names do, of a condition on a
column the values do not matter, and a raw condition always passes.
-/

namespace BoundSql

/-- Whether a check does not fail. -/
def Check.Passes (d : Dialect) (x : Check) : Prop := ∀ e, ¬x.Fails d e

namespace Step

/-- The checks that a step brings. -/
def checks : Step → List Check
  | .select columns => columns.map .reference
  | .aggregate _ column => [.reference column]
  | .join kind table on => Join.checks { kind, table, on? := some on }
  | .crossJoin table => Join.checks { kind := .cross, table, on? := none }
  | .filter clause => clause.predicate.references.map .reference
  | .groupBy groups => groups.map .reference
  | .orderBy key => [.reference key.column]
  | .distinct | .limit _ | .offset _ => []

/-- Whether no check that a step brings fails. -/
def Passes (d : Dialect) (s : Step) : Prop := ∀ x ∈ s.checks, x.Passes d

end Step

/-! ### Steps that pass -/

namespace Query

variable {c : Config} {q : Query} {x : Check}

/-- After a step nothing is checked but what was checked before and what the step brings. -/
lemma mem_checks_apply {s : Step} (h : x ∈ (q.apply s).checks) : x ∈ q.checks ∨ x ∈ s.checks := by
  rw [mem_checks_iff] at h ⊢
  -- a check belongs to one part, and only a step that builds this part can have brought it
  rcases h with hselected | htable | ⟨j, hj, hx⟩ | ⟨cl, hcl, hx⟩ | hgroup | ⟨k, hk, hx⟩
  · cases s with
    | select columns => grind [apply, Step.checks]
    | aggregate function column => exact Or.inr (List.mem_singleton.mpr hselected)
    | _ => exact Or.inl (Or.inl hselected)
  · grind [table_apply]
  · rw [joins_apply] at hj
    cases s <;> grind [Step.join?, Step.checks]
  · rw [clauses_apply] at hcl
    cases s <;> grind [Step.clause?, Step.checks]
  · cases s <;> grind [apply, Step.checks]
  · cases s <;> grind [apply, Step.checks]

/-- A step that passes keeps a selection compiling. -/
theorem exists_compileSelect_apply {s : Step} (hq : ∃ t, q.compileSelect c = .ok t)
    (hs : s.Passes c.dialect) : ∃ t, (q.apply s).compileSelect c = .ok t := by
  rw [← failure?_eq_none, failure?_compileSelect, List.findSome?_eq_none_iff] at hq ⊢
  intro x hx
  rcases mem_checks_apply hx with hold | hnew
  · exact hq x hold
  · exact Check.error?_eq_none_iff.mpr (hs x hnew)

lemma exists_compileSelect_foldl_apply {steps : List Step} (hq : ∃ t, q.compileSelect c = .ok t)
    (hsteps : ∀ s ∈ steps, s.Passes c.dialect) :
    ∃ t, (steps.foldl apply q).compileSelect c = .ok t := by
  induction steps generalizing q with
  | nil => exact hq
  | cons s steps ih =>
    rw [List.forall_mem_cons] at hsteps
    exact ih (exists_compileSelect_apply hq hsteps.1) hsteps.2

/-- Steps that pass build a query whose selection compiles, if the name of its table passes. -/
theorem exists_compileSelect_build {table : Identifier} {steps : List Step}
    (htable : (Check.reference table).Passes c.dialect)
    (hsteps : ∀ s ∈ steps, s.Passes c.dialect) :
    ∃ t, (build table steps).compileSelect c = .ok t := by
  refine exists_compileSelect_foldl_apply ?_ hsteps
  rw [← failure?_eq_none, failure?_compileSelect, List.findSome?_eq_none_iff]
  intro x hx
  obtain rfl : x = .reference table := by simpa [checks, ofTable] using hx
  exact Check.error?_eq_none_iff.mpr htable

end Query

/-! ### The families of steps -/

/-- Only names that a predicate mentions are written for it. -/
lemma Predicate.references_subset (p : Predicate) : p.references ⊆ p.identifiers := by
  cases p with
  | isIn column values | notIn column values => cases values <;> simp [references]
  | _ => exact List.Subset.refl _

namespace Check

variable {d : Dialect}

lemma passes_kind {k : JoinKind} : (Check.kind k).Passes d ↔ d.supports k = true := by
  rw [Passes, ← error?_eq_none_iff, error?]
  split_ifs with hk <;> simp [hk]

lemma exists_template_of_passes {i : Identifier} (h : (Check.reference i).Passes d) :
    ∃ t, i.template = .ok t :=
  failure?_eq_none.mp (error?_eq_none_iff.mpr h)

/-- A condition fits a join that is not a `CROSS` join. -/
lemma passes_condition {j : Join} (hon : j.on? ≠ none) (h : (Check.reference j.table).Passes d) :
    (Check.condition j).Passes d ↔ j.kind ≠ .cross := by
  constructor
  · intro hpasses hkind
    obtain ⟨t, ht⟩ := exists_template_of_passes h
    exact hpasses _ (.needless hkind hon ht)
  · intro hkind e hfails
    cases hfails with
    | needless hcross _ _ => exact hkind hcross
    | missing _ hnone _ => exact hon hnone

end Check

namespace Step

variable {d : Dialect} {table column first second : Identifier} {operator : Operator}

/-- A join with a condition passes if the dialect has its kind, its kind is not `CROSS`, and its
names pass. -/
theorem passes_joinOn {kind : JoinKind} :
    (joinOn kind table first operator second).Passes d ↔
      d.supports kind = true ∧ (Check.reference table).Passes d ∧ kind ≠ .cross ∧
        (Check.reference first).Passes d ∧ (Check.reference second).Passes d := by
  have hchecks : (joinOn kind table first operator second).Passes d ↔
      (Check.kind kind).Passes d ∧ (Check.reference table).Passes d ∧
        (Check.condition ⟨kind, table, some ⟨first, operator, second⟩⟩).Passes d ∧
        (Check.reference first).Passes d ∧ (Check.reference second).Passes d := by
    simp [Passes, checks, joinOn, Join.checks]
  rw [hchecks, Check.passes_kind]
  refine and_congr_right fun _ => and_congr_right fun htable => ?_
  rw [Check.passes_condition (by simp) htable]

/-- A join of a fixed kind passes if its names do. -/
theorem passes_of_fixed_kind : ∀ s ∈ [innerJoin table first operator second,
    leftJoin table first operator second, rightJoin table first operator second],
    s.Passes d ↔ (Check.reference table).Passes d ∧ (Check.reference first).Passes d ∧
      (Check.reference second).Passes d := by
  simp [innerJoin, leftJoin, rightJoin, passes_joinOn, Dialect.supports]

/-- A condition passes if the names that are written for it do. -/
lemma passes_filter {clause : Clause} : (filter clause).Passes d ↔
    ∀ i ∈ clause.predicate.references, (Check.reference i).Passes d :=
  List.forall_mem_map

lemma passes_filter_of_identifiers {connector : Connector} {p : Predicate}
    (h : ∀ i ∈ p.identifiers, (Check.reference i).Passes d) : (filter ⟨connector, p⟩).Passes d :=
  passes_filter.mpr fun i hi => h i (p.references_subset hi)

/-- A condition on a column passes if the column does, whatever the values. -/
theorem passes_of_column {value low high : Value} {values : List Value}
    (h : (Check.reference column).Passes d) :
    ∀ s ∈ [whereCompare column operator value, orWhereCompare column operator value,
      whereIn column values, whereNotIn column values, whereNull column, whereNotNull column,
      whereBetween column low high, whereNotBetween column low high], s.Passes d := by
  intro s hs
  obtain ⟨connector, p, rfl, hp⟩ : ∃ connector p, s = .filter ⟨connector, p⟩ ∧
      p.identifiers = [column] := by
    simp only [List.mem_cons, List.not_mem_nil, or_false] at hs
    rcases hs with rfl | rfl | rfl | rfl | rfl | rfl | rfl | rfl <;> exact ⟨_, _, rfl, rfl⟩
  refine passes_filter_of_identifiers fun i hi => ?_
  rw [hp, List.mem_singleton] at hi
  exact hi ▸ h

/-- A comparison of two columns passes if both do. -/
theorem passes_whereColumns : (whereColumns first operator second).Passes d ↔
    (Check.reference first).Passes d ∧ (Check.reference second).Passes d := by
  simp [whereColumns, andWhere, passes_filter, Predicate.references, Predicate.identifiers]

/-- A raw condition passes, whatever it says. -/
theorem passes_of_raw (sql : String) : ∀ s ∈ [whereRaw sql, orWhereRaw sql], s.Passes d := by
  simp [whereRaw, orWhereRaw, andWhere, orWhere, passes_filter, Predicate.references,
    Predicate.identifiers]

/-- Names in an empty list of values and in a raw condition may be malformed. -/
example : (Query.build (.name "t") [.leftJoin (.name "u") (.name "t.id") .eq (.name "u.t"),
      .whereIn (.name "a as b c") [], .orWhereRaw "x as y z"]).compileSelect { dialect := .mysql }
    = .ok {
      sql := "SELECT * FROM `t` LEFT JOIN `u` ON `t`.`id` = `u`.`t` WHERE 1 = 1 AND 0 = 1 "
        ++ "OR x as y z"
      params := [] } := by
  cbv

end Step

end BoundSql
