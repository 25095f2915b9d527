import BoundSql.Compile
import Mathlib

/-!
# What success means

The compiler's functions fail by returning an error. The lemmas below take a success apart: what
the parts were, and that they succeeded too.
-/

namespace BoundSql

section Except

variable {ε α β : Type}

lemma bind_eq_ok {x : Except ε α} {f : α → Except ε β} {b : β} :
    x >>= f = .ok b ↔ ∃ a, x = .ok a ∧ f a = .ok b := by
  cases x with
  | error e => simp [bind, Except.bind]
  | ok a => simp [bind, Except.bind]

lemma map_eq_ok {x : Except ε α} {f : α → β} {b : β} :
    f <$> x = .ok b ↔ ∃ a, x = .ok a ∧ f a = b := by
  cases x with
  | error e => simp [Functor.map, Except.map]
  | ok a => simp [Functor.map, Except.map]

lemma pure_eq_ok {a b : α} : (pure a : Except ε α) = .ok b ↔ a = b := by
  simp [pure, Except.pure]

/-- A list is mapped successfully when each of its elements is. -/
lemma mapM_eq_ok {f : α → Except ε β} {xs : List α} {ys : List β} :
    xs.mapM f = .ok ys ↔ List.Forall₂ (fun x y => f x = .ok y) xs ys := by
  induction xs generalizing ys with
  | nil => simp [pure, Except.pure, eq_comm]
  | cons x xs ih =>
    simp only [List.mapM_cons, bind_eq_ok, pure_eq_ok, ih, List.forall₂_cons_left_iff]
    constructor
    · rintro ⟨y, hy, zs, hzs, rfl⟩
      exact ⟨y, zs, hy, hzs, rfl⟩
    · rintro ⟨y, zs, hy, hzs, rfl⟩
      exact ⟨y, hy, zs, hzs, rfl⟩

/-- Results that are changed one by one are changed as a whole. -/
lemma mapM_of_forall {k k' : α → Except ε β} {g : β → β}
    (hk : ∀ a, k' a = g <$> k a) (xs : List α) : xs.mapM k' = List.map g <$> xs.mapM k := by
  induction xs with
  | nil => rfl
  | cons x xs ih =>
    simp only [List.mapM_cons, hk, ih]
    cases k x with
    | error e => rfl
    | ok y => cases xs.mapM k <;> rfl

/-- What two related lists have in the second has a partner in the first. -/
lemma exists_of_mem_forall₂ {R : α → β → Prop} {xs : List α} {ys : List β}
    (h : List.Forall₂ R xs ys) {y : β} (hy : y ∈ ys) : ∃ x ∈ xs, R x y := by
  induction h with
  | nil => simp at hy
  | cons hxy _ ih =>
    rcases List.mem_cons.mp hy with rfl | hy
    · exact ⟨_, List.mem_cons_self, hxy⟩
    · obtain ⟨x, hx, hR⟩ := ih hy
      exact ⟨x, List.mem_cons_of_mem _ hx, hR⟩

end Except

namespace Outcome

lemma toExcept_eq_ok {o : Outcome} {t : Template} :
    o.toExcept = .ok t ↔ o.error? = none ∧ o.template = t := by
  obtain ⟨template, error?⟩ := o
  cases error? <;> simp [toExcept]

@[simp] lemma toExcept_ofExcept (x : Except Error Template) : (ofExcept x).toExcept = x := by
  cases x <;> rfl

end Outcome

/-- Clauses compile when each of their predicates does. -/
lemma clauseChain_eq_ok {cs : List Clause} {t : Template} :
    (clauseChain cs).toExcept = .ok t ↔
      ∃ ts, List.Forall₂ (fun c u => c.predicate.template = .ok u) cs ts ∧
        t = (List.zipWith (fun c u => .text (" " ++ c.connector.keyword ++ " ") :: u) cs
          ts).flatten := by
  induction cs generalizing t with
  | nil => simp [clauseChain, Outcome.toExcept, eq_comm]
  | cons c cs ih =>
    simp only [Outcome.toExcept_eq_ok] at ih
    simp only [Outcome.toExcept_eq_ok, List.forall₂_cons_left_iff, clauseChain]
    cases hc : c.predicate.template with
    | error e => simp
    | ok u =>
      simp only [Except.ok.injEq]
      constructor
      · rintro ⟨herror, rfl⟩
        obtain ⟨us, hus, htemplate⟩ := ih.mp ⟨herror, rfl⟩
        exact ⟨u :: us, ⟨u, us, rfl, hus, rfl⟩, by simp [htemplate]⟩
      · rintro ⟨_, ⟨_, us, rfl, hus, rfl⟩, rfl⟩
        obtain ⟨herror, htemplate⟩ := ih.mpr ⟨us, hus, rfl⟩
        exact ⟨herror, by simp [htemplate]⟩

/-- A `WHERE` clause compiles when its predicates do. -/
lemma whereClause_eq_ok {cs : List Clause} {t : Template} :
    (whereClause cs).toExcept = .ok t ↔
      cs = [] ∧ t = [] ∨
      cs ≠ [] ∧ ∃ u, (clauseChain cs).toExcept = .ok u ∧ t = .text "WHERE 1 = 1" :: u := by
  cases cs with
  | nil => simp [whereClause, Outcome.toExcept, eq_comm]
  | cons c cs =>
    simp only [whereClause, List.isEmpty_cons, Bool.false_eq_true, ↓reduceIte,
      Outcome.toExcept_eq_ok, reduceCtorEq, false_and, ne_eq, not_false_eq_true, true_and, false_or]
    constructor
    · rintro ⟨herror, rfl⟩
      exact ⟨_, ⟨herror, rfl⟩, rfl⟩
    · rintro ⟨_, ⟨herror, rfl⟩, rfl⟩
      exact ⟨herror, rfl⟩

/-- What a join is when it compiles. -/
lemma Join.template_eq_ok {d : Dialect} {j : Join} {t : Template} (h : j.template d = .ok t) :
    ∃ u, j.table.template = .ok u ∧
      (j.kind = .cross ∧ j.on? = none ∧ t = .text "CROSS JOIN " :: u ∨
        ∃ on v, j.on? = some on ∧ columnComparison on.first on.operator on.second = .ok v ∧
          t = .text (j.kind.keyword ++ " JOIN ") :: u ++ .text " ON " :: v) := by
  obtain ⟨kind, table, on?⟩ := j
  simp only [template] at h
  split_ifs at h
  obtain ⟨u, hu, h⟩ := bind_eq_ok.mp h
  refine ⟨u, hu, ?_⟩
  cases on? with
  | none =>
    cases kind with
    | cross => exact Or.inl ⟨rfl, rfl, (pure_eq_ok.mp h).symm⟩
    | inner | left | right | full => simp at h
  | some on =>
    cases kind with
    | cross => simp at h
    | inner | left | right | full =>
      obtain ⟨v, hv, h⟩ := bind_eq_ok.mp h
      exact Or.inr ⟨on, v, rfl, hv, (pure_eq_ok.mp h).symm⟩

/-! ### The components of a selection -/

/-- The columns that are selected if there is no aggregate. -/
def Query.selected (q : Query) : List Identifier :=
  if q.columns.isEmpty then [.name "*"] else q.columns

lemma Query.mem_selected {q : Query} {i : Identifier} (h : i ∈ q.selected) :
    i = .name "*" ∨ i ∈ q.columns := by
  rw [selected] at h
  split_ifs at h
  · exact Or.inl (List.mem_singleton.mp h)
  · exact Or.inr h

/-- No columns are written as all columns are. -/
lemma Query.columnsTemplate_eq_selected (q : Query) :
    columnsTemplate q.distinct q.columns
      = (do
        let cs ← columnList q.selected
        pure (.text (if q.distinct then "SELECT DISTINCT " else "SELECT ") :: cs)) := by
  have hstar : columnList [.name "*"] = .ok [.text "*"] := by cbv
  rw [columnsTemplate, selected]
  by_cases hcolumns : q.columns.isEmpty = true
  · rw [if_pos hcolumns, if_pos hcolumns, hstar]
    rfl
  · rw [if_neg hcolumns, if_neg hcolumns]

/-- What a component of a `SELECT` statement is when it compiles. -/
inductive Query.Compiled (d : Dialect) (q : Query) : Component → Template → Prop where
  | noAggregate : q.aggregate? = none → Compiled d q .aggregate []
  | aggregate {a c} : q.aggregate? = some a → a.column.template = .ok c →
      Compiled d q .aggregate
        (.text ("SELECT " ++ Text.upper a.function ++ "(") :: c ++ [.text ")"])
  | noColumns {a} : q.aggregate? = some a → Compiled d q .columns []
  | columns {ts} : q.aggregate? = none →
      List.Forall₂ (fun i t => i.template = .ok t) q.selected ts →
      Compiled d q .columns (.text (if q.distinct then "SELECT DISTINCT " else "SELECT ")
        :: Template.join ", " ts)
  | table {t} : q.table.template = .ok t → Compiled d q .table (.text "FROM " :: t)
  | joins {ts} : List.Forall₂ (fun j t => j.template d = .ok t) q.joins ts →
      Compiled d q .joins (Template.join " " ts)
  | clauses {t} : (whereClause q.clauses).toExcept = .ok t → Compiled d q .clauses t
  | noGroups : q.groups = [] → Compiled d q .groups []
  | groups {ts} : q.groups ≠ [] →
      List.Forall₂ (fun i t => i.template = .ok t) q.groups ts →
      Compiled d q .groups (.text "GROUP BY " :: Template.join ", " ts)
  | noSortKeys : q.sortKeys = [] → Compiled d q .sortKeys []
  | sortKeys {ts} : q.sortKeys ≠ [] →
      List.Forall₂ (fun k t => sortKeyTemplate k = .ok t) q.sortKeys ts →
      Compiled d q .sortKeys (.text "ORDER BY " :: Template.join ", " ts)
  | noLimit : q.limit? = none → Compiled d q .limit []
  | limit {n} : q.limit? = some n → Compiled d q .limit [.text ("LIMIT " ++ n.toNat.repr)]
  | noOffset : q.offset? = none → Compiled d q .offset []
  | offset {n} : q.offset? = some n → Compiled d q .offset (offsetTemplate d q.limit? n)

lemma Query.compiled_of_component {d : Dialect} {q : Query} {c : Component} {t : Template}
    (h : (q.component d c).toExcept = .ok t) : q.Compiled d c t := by
  have hnone : ∀ {u : Template}, (Outcome.mk u none).toExcept = .ok t → t = u :=
    fun hu => (Outcome.toExcept_eq_ok.mp hu).2.symm
  cases c with
  | aggregate =>
    simp only [component] at h
    cases ha : q.aggregate? with
    | none =>
      simp only [ha] at h
      exact hnone h ▸ .noAggregate ha
    | some a =>
      simp only [ha, Outcome.toExcept_ofExcept, aggregateTemplate, bind_eq_ok, pure_eq_ok] at h
      obtain ⟨c, hc, rfl⟩ := h
      exact .aggregate ha hc
  | columns =>
    simp only [component] at h
    cases ha : q.aggregate? with
    | none =>
      simp only [ha, Option.isSome_none, Bool.false_eq_true, if_false, Outcome.toExcept_ofExcept,
        columnsTemplate_eq_selected, columnList, bind_eq_ok, pure_eq_ok, mapM_eq_ok] at h
      obtain ⟨_, ⟨ts, hts, rfl⟩, rfl⟩ := h
      exact .columns ha hts
    | some a =>
      simp only [ha, Option.isSome_some, if_true] at h
      exact hnone h ▸ .noColumns ha
  | table =>
    simp only [component, Outcome.toExcept_ofExcept, bind_eq_ok, pure_eq_ok] at h
    obtain ⟨u, hu, rfl⟩ := h
    exact .table hu
  | joins =>
    simp only [component, Outcome.toExcept_ofExcept, joinsTemplate, bind_eq_ok, pure_eq_ok,
      mapM_eq_ok] at h
    obtain ⟨ts, hts, rfl⟩ := h
    exact .joins hts
  | clauses => exact .clauses h
  | groups =>
    simp only [component, List.isEmpty_iff] at h
    by_cases hgroups : q.groups = []
    · rw [if_pos hgroups] at h
      exact hnone h ▸ .noGroups hgroups
    · rw [if_neg hgroups] at h
      simp only [Outcome.toExcept_ofExcept, columnList, bind_eq_ok, pure_eq_ok, mapM_eq_ok] at h
      obtain ⟨_, ⟨ts, hts, rfl⟩, rfl⟩ := h
      exact .groups hgroups hts
  | sortKeys =>
    simp only [component, List.isEmpty_iff] at h
    by_cases hkeys : q.sortKeys = []
    · rw [if_pos hkeys] at h
      exact hnone h ▸ .noSortKeys hkeys
    · rw [if_neg hkeys] at h
      simp only [Outcome.toExcept_ofExcept, bind_eq_ok, pure_eq_ok, mapM_eq_ok] at h
      obtain ⟨ts, hts, rfl⟩ := h
      exact .sortKeys hkeys hts
  | limit =>
    simp only [component] at h
    cases hlimit : q.limit? with
    | none =>
      simp only [hlimit] at h
      exact hnone h ▸ .noLimit hlimit
    | some n =>
      simp only [hlimit] at h
      exact hnone h ▸ .limit hlimit
  | offset =>
    simp only [component] at h
    cases hoffset : q.offset? with
    | none =>
      simp only [hoffset] at h
      exact hnone h ▸ .noOffset hoffset
    | some n =>
      simp only [hoffset] at h
      exact hnone h ▸ .offset hoffset

/-- A `SELECT` statement compiles when its components do. -/
lemma selectTemplate_eq_ok {d : Dialect} {q : Query} {t : Template} :
    q.selectTemplate d = .ok t ↔
      ∃ parts, List.Forall₂ (fun c u => (q.component d c).toExcept = .ok u) Component.all parts ∧
        Template.join " " (parts.filter fun u => !u.isEmpty) = t := by
  simp only [Query.selectTemplate, bind_eq_ok, pure_eq_ok, mapM_eq_ok]

/-- The components that a compiled `SELECT` statement is joined of. -/
lemma Query.exists_components {d : Dialect} {q : Query} {t : Template}
    (h : q.selectTemplate d = .ok t) :
    ∃ part : Component → Template, (∀ c, (q.component d c).toExcept = .ok (part c)) ∧
      t = Template.join " " ((Component.all.map part).filter fun u => !u.isEmpty) := by
  obtain ⟨parts, hparts, rfl⟩ := selectTemplate_eq_ok.mp h
  let part : Component → Template := fun c => (q.component d c).toExcept.toOption.getD []
  have hpart : ∀ {c u}, (q.component d c).toExcept = .ok u → part c = u := by
    intro c u hu
    simp only [part, hu, Except.toOption, Option.getD_some]
  refine ⟨part, fun c => ?_, ?_⟩
  · have hc : c ∈ Component.all := by cases c <;> decide
    obtain ⟨u, -, hu⟩ := exists_of_mem_forall₂ hparts.flip hc
    rw [hpart hu]
    exact hu
  · have hmap : List.Forall₂ (· = ·) (Component.all.map part) parts :=
      List.forall₂_map_left_iff.mpr (hparts.imp fun c u => hpart)
    rw [List.forall₂_eq_eq_eq] at hmap
    rw [hmap]

/-- What these components are. -/
lemma Query.exists_parts {d : Dialect} {q : Query} {t : Template}
    (h : q.selectTemplate d = .ok t) :
    ∃ part : Component → Template, (∀ c, q.Compiled d c (part c)) ∧
      t = Template.join " " ((Component.all.map part).filter fun u => !u.isEmpty) := by
  obtain ⟨part, hpart, rfl⟩ := exists_components h
  exact ⟨part, fun c => compiled_of_component (hpart c), rfl⟩

namespace Row

/-- Aligned values are those that a row has for the columns of the first row. -/
lemma aligned_eq_ok {first r : Row} {index : Nat} {vs : List Value}
    (h : first.aligned index r = .ok vs) :
    List.Forall₂ (fun c v => r.get? c = some v) first.columns vs := by
  simp only [aligned] at h
  split at h
  · simp at h
  · apply (mapM_eq_ok.mp h).imp
    intro c v hcv
    split at hcv
    · next w hw => simpa [hw] using hcv
    · simp at hcv

lemma alignedFrom_eq_ok {first : Row} {index : Nat} {rows : List Row} {groups : List (List Value)}
    (h : first.alignedFrom index rows = .ok groups) :
    List.Forall₂ (fun r vs => List.Forall₂ (fun c v => r.get? c = some v) first.columns vs)
      rows groups := by
  induction rows generalizing index groups with
  | nil =>
    simp only [alignedFrom, Except.ok.injEq] at h
    exact h ▸ .nil
  | cons r rs ih =>
    simp only [alignedFrom, bind_eq_ok, pure_eq_ok] at h
    obtain ⟨vs, hvs, rest, hrest, rfl⟩ := h
    exact .cons (aligned_eq_ok hvs) (ih hrest)

end Row

/-- What an insertion is made of when there is one. -/
lemma Insertion.ofRows_eq_ok {table : Identifier} {rows : List Row} {i : Insertion}
    (h : Insertion.ofRows table rows = .ok i) :
    ∃ first rest, rows = first :: rest ∧ table.template = .ok i.table ∧
      List.Forall₂ (fun c u => columnReference c = .ok u) first.columns i.columns ∧
      List.Forall₂ (fun r vs => List.Forall₂ (fun c v => r.get? c = some v) first.columns vs)
        rows i.groups := by
  simp only [Insertion.ofRows] at h
  split at h
  · simp at h
  · next first rest =>
    split at h
    · simp at h
    · simp only [bind_eq_ok, pure_eq_ok] at h
      obtain ⟨t, ht, columns, hcolumns, groups, hgroups, rfl⟩ := h
      exact ⟨first, rest, rfl, ht, mapM_eq_ok.mp hcolumns, Row.alignedFrom_eq_ok hgroups⟩

end BoundSql
