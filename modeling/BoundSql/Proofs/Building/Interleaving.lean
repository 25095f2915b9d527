import BoundSql.Query.Step
import BoundSql.Proofs.Selection.Checks

/-!
# Queries built step by step

Each step builds one part of a query and reads no other, so of steps that build different parts the
order does not matter. Steps that add a join give it a condition unless it is a `CROSS` join, so in
a query that was built no join lacks one.
-/

namespace BoundSql

/-- A part of a query that steps build. -/
inductive Query.Part where
  | columns | distinct | aggregate | joins | clauses | groups | sortKeys | limit | offset
deriving DecidableEq

namespace Step

/-- The part that a step builds. -/
def part : Step → Query.Part
  | .select _ => .columns
  | .distinct => .distinct
  | .aggregate .. => .aggregate
  | .join .. | .crossJoin _ => .joins
  | .filter _ => .clauses
  | .groupBy _ => .groups
  | .orderBy _ => .sortKeys
  | .limit _ => .limit
  | .offset _ => .offset

/-- The join that a step adds. -/
def join? : Step → Option Join
  | .join kind table on => some { kind, table, on? := some on }
  | .crossJoin table => some { kind := .cross, table, on? := none }
  | _ => none

/-- The clause that a step adds. -/
def clause? : Step → Option Clause
  | .filter clause => some clause
  | _ => none

lemma join?_eq_some {s : Step} {j : Join} : s.join? = some j ↔
    (∃ kind table on, s = .join kind table on ∧ j = { kind, table, on? := some on }) ∨
      ∃ table, s = .crossJoin table ∧ j = { kind := .cross, table, on? := none } := by
  cases s <;> simp [join?, eq_comm]

end Step

namespace Query

variable {q q' : Query} {p : Part}

/-! ### Parts -/

/-- Whether two queries have the same part. -/
def AgreeOn (q q' : Query) : Part → Prop
  | .columns => q.columns = q'.columns
  | .distinct => q.distinct = q'.distinct
  | .aggregate => q.aggregate? = q'.aggregate?
  | .joins => q.joins = q'.joins
  | .clauses => q.clauses = q'.clauses
  | .groups => q.groups = q'.groups
  | .sortKeys => q.sortKeys = q'.sortKeys
  | .limit => q.limit? = q'.limit?
  | .offset => q.offset? = q'.offset?

namespace AgreeOn

lemma refl (q : Query) (p : Part) : q.AgreeOn q p := by
  cases p <;> rfl

lemma symm (h : q.AgreeOn q' p) : q'.AgreeOn q p := by
  cases p <;> exact Eq.symm h

lemma trans {r : Query} (h : q.AgreeOn q' p) (h' : q'.AgreeOn r p) : q.AgreeOn r p := by
  cases p <;> exact Eq.trans h h'

end AgreeOn

/-- A query is its table and its parts. -/
lemma eq_of_agreeOn (htable : q.table = q'.table) (h : ∀ p, q.AgreeOn q' p) : q = q' := by
  obtain ⟨table, columns, distinct, aggregate?, joins, clauses, groups, sortKeys, limit?, offset?⟩
    := q
  obtain rfl := htable
  obtain rfl := h .columns
  obtain rfl := h .distinct
  obtain rfl := h .aggregate
  obtain rfl := h .joins
  obtain rfl := h .clauses
  obtain rfl := h .groups
  obtain rfl := h .sortKeys
  obtain rfl := h .limit
  obtain rfl := h .offset
  rfl

/-! ### One step -/

@[simp] lemma table_apply (q : Query) (s : Step) : (q.apply s).table = q.table := by
  cases s <;> rfl

lemma joins_apply (q : Query) (s : Step) : (q.apply s).joins = q.joins ++ s.join?.toList := by
  cases s <;> simp [apply, Step.join?]

lemma clauses_apply (q : Query) (s : Step) :
    (q.apply s).clauses = q.clauses ++ s.clause?.toList := by
  cases s <;> simp [apply, Step.clause?]

/-- A step leaves alone the parts that it does not build. -/
lemma agreeOn_apply_of_ne {s : Step} (h : s.part ≠ p) : (q.apply s).AgreeOn q p := by
  cases s <;> cases p <;> first | rfl | exact absurd rfl h

/-- What a step makes of a part depends on that part alone. -/
lemma AgreeOn.apply (h : q.AgreeOn q' p) (s : Step) : (q.apply s).AgreeOn (q'.apply s) p := by
  by_cases hs : s.part = p
  · subst hs
    cases s with
    | select | distinct | aggregate | groupBy | limit | offset => rfl
    | join kind table on => exact congrArg (fun js => js ++ [_]) h
    | crossJoin table => exact congrArg (fun js => js ++ [_]) h
    | filter clause => exact congrArg (fun cs => cs ++ [clause]) h
    | orderBy key => exact congrArg (fun ks => ks ++ [key]) h
  · exact (agreeOn_apply_of_ne hs).trans (h.trans (agreeOn_apply_of_ne hs).symm)

/-! ### Many steps -/

/-- Only the steps that build a part matter to it. -/
lemma AgreeOn.foldl_apply (h : q.AgreeOn q' p) (steps : List Step) :
    (steps.foldl Query.apply q).AgreeOn
      ((steps.filter fun s => s.part = p).foldl Query.apply q') p := by
  induction steps generalizing q q' with
  | nil => exact h
  | cons s steps ih =>
    rw [List.foldl_cons, List.filter_cons]
    by_cases hs : s.part = p
    · rw [if_pos (decide_eq_true hs), List.foldl_cons]
      exact ih (h.apply s)
    · rw [if_neg (by simp [hs])]
      exact ih ((agreeOn_apply_of_ne hs).trans h)

@[simp] lemma table_foldl_apply (q : Query) (steps : List Step) :
    (steps.foldl apply q).table = q.table := by
  induction steps generalizing q with
  | nil => rfl
  | cons s steps ih => rw [List.foldl_cons, ih, table_apply]

variable {table : Identifier} {steps steps' : List Step}

/-- Steps in another order build the same query if for each part the order is the same. -/
lemma build_congr
    (h : ∀ p : Part, (steps.filter fun s => s.part = p) = steps'.filter fun s => s.part = p) :
    build table steps = build table steps' := by
  refine eq_of_agreeOn (by simp [build]) fun p => ?_
  have hleft := (AgreeOn.refl (ofTable table) p).foldl_apply steps
  have hright := (AgreeOn.refl (ofTable table) p).foldl_apply steps'
  rw [h p] at hleft
  exact hleft.trans hright.symm

/-- A list that steps append to grows by what they append, in their order. -/
lemma foldl_apply_of_append {α : Type} (get : Query → List α) {added? : Step → Option α}
    (happly : ∀ q s, get (q.apply s) = get q ++ (added? s).toList) (q : Query)
    (steps : List Step) : get (steps.foldl apply q) = get q ++ steps.filterMap added? := by
  induction steps generalizing q with
  | nil => simp
  | cons s steps ih =>
    rw [List.foldl_cons, ih, happly, List.filterMap_cons]
    cases added? s <;> simp

lemma joins_build : (build table steps).joins = steps.filterMap Step.join? :=
  foldl_apply_of_append Query.joins joins_apply (ofTable table) steps

lemma clauses_build : (build table steps).clauses = steps.filterMap Step.clause? :=
  foldl_apply_of_append Query.clauses clauses_apply (ofTable table) steps

lemma mem_joins_build {j : Join} : j ∈ (build table steps).joins ↔
    (∃ kind table on, .join kind table on ∈ steps ∧ j = { kind, table, on? := some on }) ∨
      ∃ table, .crossJoin table ∈ steps ∧ j = { kind := .cross, table, on? := none } := by
  rw [joins_build, List.mem_filterMap]
  simp only [Step.join?_eq_some]
  constructor
  · rintro ⟨s, hs, ⟨kind, table, on, rfl, rfl⟩ | ⟨table, rfl, rfl⟩⟩
    · exact Or.inl ⟨kind, table, on, hs, rfl⟩
    · exact Or.inr ⟨table, hs, rfl⟩
  · rintro (⟨kind, table, on, hs, rfl⟩ | ⟨table, hs, rfl⟩)
    · exact ⟨_, hs, Or.inl ⟨kind, table, on, rfl, rfl⟩⟩
    · exact ⟨_, hs, Or.inr ⟨table, rfl, rfl⟩⟩

/-! ### What can fail -/

/-- The checks of a query, part by part. -/
lemma mem_checks_iff {x : Check} : x ∈ q.checks ↔
    (match q.aggregate? with
      | some a => x = .reference a.column
      | none => ∃ i ∈ q.columns, x = .reference i)
    ∨ x = .reference q.table ∨ (∃ j ∈ q.joins, x ∈ j.checks)
    ∨ (∃ cl ∈ q.clauses, ∃ i ∈ cl.predicate.references, x = .reference i)
    ∨ (∃ i ∈ q.groups, x = .reference i) ∨ ∃ k ∈ q.sortKeys, x = .reference k.column := by
  cases ha : q.aggregate? <;> simp [checks, ha, eq_comm]

/-- All checks but those of joins are of references. -/
lemma mem_checks {x : Check} (h : x ∈ q.checks) :
    (∃ i, x = .reference i) ∨ ∃ j ∈ q.joins, x = .kind j.kind ∨ x = .condition j := by
  rcases mem_checks_iff.mp h with hselected | htable | ⟨j, hj, hx⟩ | ⟨cl, -, i, -, hx⟩ | ⟨i, -, hx⟩
    | ⟨k, -, hx⟩
  · cases ha : q.aggregate? with
    | none =>
      rw [ha] at hselected
      obtain ⟨i, -, hx⟩ := hselected
      exact Or.inl ⟨i, hx⟩
    | some a =>
      rw [ha] at hselected
      exact Or.inl ⟨a.column, hselected⟩
  · exact Or.inl ⟨q.table, htable⟩
  · simp only [Join.checks, List.mem_append, List.mem_cons, List.mem_flatMap, List.not_mem_nil,
      or_false] at hx
    rcases hx with (hkind | htable | hcondition) | ⟨on, -, hfirst | hsecond⟩
    · exact Or.inr ⟨j, hj, Or.inl hkind⟩
    · exact Or.inl ⟨j.table, htable⟩
    · exact Or.inr ⟨j, hj, Or.inr hcondition⟩
    · exact Or.inl ⟨on.first, hfirst⟩
    · exact Or.inl ⟨on.second, hsecond⟩
  · exact Or.inl ⟨i, hx⟩
  · exact Or.inl ⟨i, hx⟩
  · exact Or.inl ⟨k.column, hx⟩

lemma kind_mem_checks {k : JoinKind} (h : .kind k ∈ q.checks) : ∃ j ∈ q.joins, j.kind = k := by
  obtain ⟨i, hi⟩ | ⟨j, hj, hkind | hcondition⟩ := mem_checks h
  · cases hi
  · exact ⟨j, hj, (Check.kind.inj hkind).symm⟩
  · cases hcondition

lemma condition_mem_checks {j : Join} (h : .condition j ∈ q.checks) : j ∈ q.joins := by
  obtain ⟨i, hi⟩ | ⟨j', hj', hkind | hcondition⟩ := mem_checks h
  · cases hi
  · cases hkind
  · rwa [Check.condition.inj hcondition]

/-- A selection fails as the first of its checks that does. -/
lemma failure?_compileSelect (c : Config) (q : Query) :
    failure? (q.compileSelect c) = q.checks.findSome? (Check.error? c.dialect) := by
  rw [findSome?_checks]
  exact (Command.select q).failure?_compile c

/-- A selection that fails does so at one of its checks. -/
lemma exists_fails {c : Config} {e : Error} (h : q.compileSelect c = .error e) :
    ∃ x ∈ q.checks, x.Fails c.dialect e := by
  have hfailure := failure?_compileSelect c q
  rw [h, failure?_error] at hfailure
  obtain ⟨x, hx, hfails⟩ := List.exists_of_findSome?_eq_some hfailure.symm
  exact ⟨x, hx, Check.fails_iff.mpr hfails⟩

/-- A join without a condition was added as a `CROSS` join. -/
lemma kind_eq_cross_of_mem_joins_build {j : Join} (hj : j ∈ (build table steps).joins)
    (hon : j.on? = none) : j.kind = .cross := by
  obtain ⟨kind, t, on, -, rfl⟩ | ⟨t, -, rfl⟩ := mem_joins_build.mp hj
  · cases hon
  · rfl

/-- A join of another kind, or with a condition, was added with one. -/
lemma exists_join_mem_of_mem_joins_build {j : Join} (hj : j ∈ (build table steps).joins)
    (hjoin : j.kind ≠ .cross ∨ j.on? ≠ none) : ∃ on, .join j.kind j.table on ∈ steps := by
  obtain ⟨kind, t, on, hs, rfl⟩ | ⟨t, -, rfl⟩ := mem_joins_build.mp hj
  · exact ⟨on, hs⟩
  · simp at hjoin

/-- What a selection that steps built can fail with: a malformed name, a `FULL` join on mysql, and a
`CROSS` join that was given a condition. -/
inductive BuildFault (d : Dialect) (steps : List Step) : Error → Prop where
  | name {s} : IsMalformed s → BuildFault d steps (.malformedAlias s)
  | full {table on} : d = .mysql → .join .full table on ∈ steps →
      BuildFault d steps (.unsupportedJoin d .full)
  | cross {table on t} : .join .cross table on ∈ steps → table.template = .ok t →
      BuildFault d steps (.invalidJoin .cross (t.render d 0) .needless)

lemma buildFault_of_compileSelect {c : Config} {e : Error}
    (h : (build table steps).compileSelect c = .error e) : BuildFault c.dialect steps e := by
  obtain ⟨x, hx, hfails⟩ := exists_fails h
  cases hfails with
  | name hs => exact .name hs
  | kind hd =>
    obtain ⟨j, hj, hkind⟩ := kind_mem_checks hx
    obtain ⟨on, hs⟩ := exists_join_mem_of_mem_joins_build hj (Or.inl (by simp [hkind]))
    rw [hkind] at hs
    exact .full hd hs
  | needless hkind hon ht =>
    obtain ⟨on, hs⟩ := exists_join_mem_of_mem_joins_build (condition_mem_checks hx) (Or.inr hon)
    rw [hkind] at hs
    exact .cross hs ht
  | missing hkind hon ht =>
    exact absurd (kind_eq_cross_of_mem_joins_build (condition_mem_checks hx) hon) hkind

lemma BuildFault.ne_missing {d : Dialect} {e : Error} (h : BuildFault d steps e) (kind : JoinKind)
    (t : String) : e ≠ .invalidJoin kind t .missing := by
  cases h <;> simp

/-- Only the order of the steps that build the same part matters, and whatever the steps, no join
that needs a condition lacks it: so a selection that was built can fail with few errors, and with
none that says that a condition is missing. -/
theorem build_interleaved (table : Identifier) :
    (∀ steps steps' : List Step,
      (∀ p : Part, (steps.filter fun s => s.part = p) = steps'.filter fun s => s.part = p) →
        build table steps = build table steps') ∧
    ∀ steps : List Step,
      (∀ j ∈ (build table steps).joins, j.on? = none → j.kind = .cross) ∧
      ∀ (c : Config) (e : Error), (build table steps).compileSelect c = .error e →
        BuildFault c.dialect steps e ∧ ∀ kind t, e ≠ .invalidJoin kind t .missing := by
  refine ⟨fun _ _ => build_congr, fun steps => ⟨fun j => kind_eq_cross_of_mem_joins_build, ?_⟩⟩
  intro c e he
  have hfault : BuildFault c.dialect steps e := buildFault_of_compileSelect he
  exact ⟨hfault, hfault.ne_missing⟩

/-- The condition `t.id = u.t`. -/
def sameId : JoinCondition := ⟨.name "t.id", .eq, .name "u.t"⟩

/-- Steps of several parts, some of which replace what others have set. -/
def mixedSteps : List Step :=
  [.limit 3, .join .full (.name "u") sameId, .select [.name "a"], .crossJoin (.name "v"),
    .orWhere (.raw "x"), .select [.name "b"], .join .cross (.name "w") sameId, .limit 5,
    .andWhere (.isNull (.name "b"))]

/-- The same steps, part by part. -/
def sortedSteps : List Step :=
  [.select [.name "a"], .select [.name "b"], .join .full (.name "u") sameId,
    .crossJoin (.name "v"), .join .cross (.name "w") sameId, .orWhere (.raw "x"),
    .andWhere (.isNull (.name "b")), .limit 3, .limit 5]

/-- Both orders build one query. Its `FULL` join fails on mysql; on sqlite it is the `CROSS` join
with a condition that fails, while the one without is fine. -/
theorem build_interleaved_mixedSteps :
    build (.name "t") mixedSteps = build (.name "t") sortedSteps ∧
    (∀ j ∈ (build (.name "t") mixedSteps).joins, j.on? = none → j.kind = .cross) ∧
    (build (.name "t") mixedSteps).compileSelect { dialect := .mysql }
      = .error (.unsupportedJoin .mysql .full) ∧
    BuildFault .mysql mixedSteps (.unsupportedJoin .mysql .full) ∧
    (build (.name "t") mixedSteps).compileSelect { dialect := .sqlite }
      = .error (.invalidJoin .cross "\"w\"" .needless) ∧
    BuildFault .sqlite mixedSteps (.invalidJoin .cross "\"w\"" .needless) := by
  have hparts : ∀ p : Part,
      (mixedSteps.filter fun s => s.part = p) = sortedSteps.filter fun s => s.part = p := by
    intro p
    cases p <;> rfl
  have hfull : (build (.name "t") mixedSteps).compileSelect { dialect := .mysql }
      = .error (.unsupportedJoin .mysql .full) := by cbv
  have hcross : (build (.name "t") mixedSteps).compileSelect { dialect := .sqlite }
      = .error (.invalidJoin .cross "\"w\"" .needless) := by cbv
  obtain ⟨horder, hbuilt⟩ := build_interleaved (.name "t")
  obtain ⟨hjoins, hfaults⟩ := hbuilt mixedSteps
  exact ⟨horder _ _ hparts, hjoins, hfull, (hfaults _ _ hfull).1, hcross, (hfaults _ _ hcross).1⟩

end Query

end BoundSql
