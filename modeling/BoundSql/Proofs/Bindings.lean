import BoundSql.Proofs.Composition.Statement

/-!
# What a statement binds

The slots of a compiled template hold the bound values of the command, each once and in the order
in which the command lists them. References bind nothing, and expressions bind nothing.
-/

namespace BoundSql

open Template

namespace Template

@[simp] lemma params_nil : params [] = [] := rfl

@[simp] lemma params_text_cons (s : String) (t : Template) : params (.text s :: t) = params t := rfl

@[simp] lemma params_name_cons (s : String) (t : Template) : params (.name s :: t) = params t := rfl

@[simp] lemma params_slot_cons (v : SqlValue) (t : Template) :
    params (.slot v :: t) = v :: params t := rfl

@[simp] lemma params_join (l : String) (ts : List Template) :
    params (join l ts) = ts.flatMap params := by
  induction ts with
  | nil => rfl
  | cons t ts ih =>
    cases ts with
    | nil => simp
    | cons u us => simp [ih]

@[simp] lemma params_flatten (ts : List Template) : params ts.flatten = ts.flatMap params := by
  induction ts with
  | nil => rfl
  | cons t ts ih => simp [ih]

/-- Empty templates bind nothing. -/
lemma flatMap_params_filter (ts : List Template) :
    (ts.filter fun t => !t.isEmpty).flatMap params = ts.flatMap params := by
  induction ts with
  | nil => rfl
  | cons t ts ih => cases t <;> simp [ih]

end Template

variable {t : Template}

/-! ### References and values -/

@[simp] lemma params_path (cs : List Char) : params (path cs) = [] := by
  simp only [path, params_join, List.flatMap_eq_nil_iff, List.mem_map]
  rintro _ ⟨s, -, rfl⟩
  rw [segment]
  split_ifs <;> rfl

lemma params_columnReference {s : String} (h : columnReference s = .ok t) : params t = [] := by
  simp only [columnReference] at h
  split at h
  · simp at h
  · simp only [Except.ok.injEq] at h
    simp [← h]

lemma Identifier.params_template {i : Identifier} (h : i.template = .ok t) : params t = [] := by
  cases i with
  | expr e =>
    simp only [Identifier.template, Except.ok.injEq] at h
    simp [← h]
  | name s =>
    simp only [Identifier.template, nameReference] at h
    split at h
    · split at h
      · simp only [Except.ok.injEq] at h
        simp [← h]
      · simp at h
    · simp only [Except.ok.injEq] at h
      simp [← h]

/-- A list binds nothing if none of its elements does. -/
lemma params_join_forall₂ {α : Type} {f : α → Except Error Template} {as : List α}
    {ts : List Template} (l : String) (hts : List.Forall₂ (fun a t => f a = .ok t) as ts)
    (hf : ∀ a t, f a = .ok t → params t = []) : params (join l ts) = [] := by
  rw [params_join, List.flatMap_eq_nil_iff]
  intro u hu
  obtain ⟨a, -, hau⟩ := exists_of_mem_forall₂ hts hu
  exact hf a u hau

@[simp] lemma Value.params_template (v : Value) : params v.template = v.bound?.toList := by
  cases v <;> rfl

@[simp] lemma params_valueList (vs : List Value) :
    params (valueList vs) = vs.filterMap Value.bound? := by
  simp only [valueList, params_join, List.flatMap_map, Value.params_template]
  exact (List.filterMap_eq_flatMap_toList _ _).symm

/-! ### Conditions -/

lemma params_rangeComparison {column : Identifier} {keyword : String} {low high : Value}
    (h : rangeComparison column keyword low high = .ok t) :
    params t = [low, high].filterMap Value.bound? := by
  simp only [rangeComparison, bind_eq_ok, pure_eq_ok] at h
  obtain ⟨c, hc, rfl⟩ := h
  have hc : params c = [] := column.params_template hc
  cases low <;> cases high <;> simp [hc, List.filterMap_cons, Value.bound?]

lemma params_listMembership {column : Identifier} {keyword : String} {values : List Value}
    (h : listMembership column keyword values = .ok t) :
    params t = values.filterMap Value.bound? := by
  simp only [listMembership, bind_eq_ok, pure_eq_ok] at h
  obtain ⟨c, hc, rfl⟩ := h
  simp [column.params_template hc]

lemma params_columnComparison {first second : Identifier} {op : Operator}
    (h : columnComparison first op second = .ok t) : params t = [] := by
  simp only [columnComparison, bind_eq_ok, pure_eq_ok] at h
  obtain ⟨a, ha, b, hb, rfl⟩ := h
  simp [first.params_template ha, second.params_template hb]

lemma Predicate.params_template {p : Predicate} (h : p.template = .ok t) : params t = p.bound := by
  cases p with
  | compare column op value =>
    simp only [Predicate.template, bind_eq_ok, pure_eq_ok] at h
    obtain ⟨c, hc, rfl⟩ := h
    cases value <;>
      simp [column.params_template hc, Predicate.bound, Predicate.values, Value.bound?]
  | isIn column values | notIn column values =>
    cases values with
    | nil =>
      simp only [Predicate.template, Except.ok.injEq] at h
      simp [← h, Predicate.bound, Predicate.values]
    | cons v vs => exact params_listMembership h
  | isNull column | notNull column =>
    simp only [Predicate.template, bind_eq_ok, pure_eq_ok] at h
    obtain ⟨c, hc, rfl⟩ := h
    simp [column.params_template hc, Predicate.bound, Predicate.values]
  | between column low high | notBetween column low high => exact params_rangeComparison h
  | compareColumns first op second => exact params_columnComparison h
  | raw sql =>
    simp only [Predicate.template, Except.ok.injEq] at h
    simp [← h, Predicate.bound, Predicate.values]

lemma params_clauseChain {cs : List Clause} (h : (clauseChain cs).toExcept = .ok t) :
    params t = cs.flatMap fun c => c.predicate.bound := by
  obtain ⟨ts, hts, rfl⟩ := clauseChain_eq_ok.mp h
  clear h
  induction hts with
  | nil => rfl
  | cons hcu _ ih => simpa [Predicate.params_template hcu] using ih

lemma params_whereClause {cs : List Clause} (h : (whereClause cs).toExcept = .ok t) :
    params t = cs.flatMap fun c => c.predicate.bound := by
  rcases whereClause_eq_ok.mp h with ⟨rfl, rfl⟩ | ⟨-, u, hu, rfl⟩
  · rfl
  · rw [params_text_cons]
    exact params_clauseChain hu

/-! ### Statements -/

lemma Join.params_template {d : Dialect} {j : Join} (h : j.template d = .ok t) : params t = [] := by
  obtain ⟨u, hu, hcases⟩ := Join.template_eq_ok h
  have htable : params u = [] := j.table.params_template hu
  rcases hcases with ⟨-, -, rfl⟩ | ⟨on, v, -, hv, rfl⟩
  · simp [htable]
  · simp [htable, params_columnComparison hv]

lemma params_sortKeyTemplate {k : SortKey} (h : Query.sortKeyTemplate k = .ok t) :
    params t = [] := by
  simp only [Query.sortKeyTemplate, bind_eq_ok, pure_eq_ok] at h
  obtain ⟨c, hc, rfl⟩ := h
  simp [k.column.params_template hc]

/-- Only the clauses of a `SELECT` statement bind values. -/
lemma Query.params_component {d : Dialect} {q : Query} {c : Component}
    (h : (q.component d c).toExcept = .ok t) :
    params t = if c = .clauses then q.bound else [] := by
  cases compiled_of_component h with
  | noAggregate | noColumns | noGroups | noSortKeys | noLimit | noOffset | limit | offset => rfl
  | aggregate ha hc => simp [Identifier.params_template hc]
  | columns ha hts =>
    simpa using params_join_forall₂ ", " hts fun i _ => i.params_template
  | table ht => simpa using q.table.params_template ht
  | joins hts =>
    simpa using params_join_forall₂ " " hts fun j _ => j.params_template
  | clauses h => exact params_whereClause h
  | groups hne hts =>
    simpa using params_join_forall₂ ", " hts fun i _ => i.params_template
  | sortKeys hne hts =>
    simpa using params_join_forall₂ ", " hts fun k _ => params_sortKeyTemplate

lemma Query.params_selectTemplate {d : Dialect} {q : Query} (h : q.selectTemplate d = .ok t) :
    params t = q.bound := by
  obtain ⟨parts, hparts, rfl⟩ := selectTemplate_eq_ok.mp h
  have hbound : ∀ cs : List Component,
      List.Forall₂ (fun c u => (q.component d c).toExcept = .ok u) cs parts →
        parts.flatMap params = cs.flatMap fun c => if c = .clauses then q.bound else [] := by
    intro cs hcs
    clear h hparts
    induction hcs with
    | nil => rfl
    | cons hcu _ ih => simp [Query.params_component hcu, ih]
  rw [params_join, flatMap_params_filter, hbound Component.all hparts]
  simp [Component.all]

lemma params_assignment {e : String × Value} (h : assignment e = .ok t) :
    params t = e.2.bound?.toList := by
  simp only [assignment, bind_eq_ok, pure_eq_ok] at h
  obtain ⟨c, hc, rfl⟩ := h
  simp [params_columnReference hc]

lemma Query.params_updateTemplate {q : Query} {row : Row} (h : q.updateTemplate row = .ok t) :
    params t = row.bound ++ q.bound := by
  simp only [Query.updateTemplate] at h
  split at h
  · simp at h
  simp only [bind_eq_ok, pure_eq_ok, mapM_eq_ok] at h
  obtain ⟨table, ht, assignments, has, clause, hc, rfl⟩ := h
  have hrow : assignments.flatMap params = row.bound := by
    rw [Row.bound, Row.values]
    clear hc
    generalize row.entries = entries at has
    induction has with
    | nil => rfl
    | @cons e u es us heu _ ih =>
      rw [List.flatMap_cons, params_assignment heu, ih, List.map_cons, List.filterMap_cons]
      cases e.2.bound? <;> rfl
  simp [Identifier.params_template ht, hrow, params_whereClause hc, Query.bound]

lemma Query.params_deleteTemplate {q : Query} (h : q.deleteTemplate = .ok t) :
    params t = q.bound := by
  simp only [Query.deleteTemplate, bind_eq_ok, pure_eq_ok] at h
  obtain ⟨table, ht, clause, hc, rfl⟩ := h
  simp [Identifier.params_template ht, params_whereClause hc, Query.bound]

/-- Values that belong to columns bind what the row has for the columns. -/
lemma Row.filterMap_bound_eq {r : Row} {columns : List String} {vs : List Value}
    (h : List.Forall₂ (fun c v => r.get? c = some v) columns vs) :
    vs.filterMap Value.bound? = r.boundAt columns := by
  induction h with
  | nil => rfl
  | cons hcv _ ih => simp [Row.boundAt, List.filterMap_cons, hcv, ih]

namespace Insertion

/-- An insertion that only its values bind anything for, with a value for each column in each
row. -/
structure Regular (i : Insertion) : Prop where
  table : params i.table = []
  columns : ∀ u ∈ i.columns, params u = []
  lengths : ∀ vs ∈ i.groups, vs.length = i.columns.length

lemma regular_of_ofRows {table : Identifier} {rows : List Row} {i : Insertion}
    (h : ofRows table rows = .ok i) : i.Regular := by
  obtain ⟨first, rest, -, ht, hcs, hgs⟩ := ofRows_eq_ok h
  constructor
  · exact Identifier.params_template ht
  · intro u hu
    obtain ⟨c, -, hcu⟩ := exists_of_mem_forall₂ hcs hu
    exact params_columnReference hcu
  · intro vs hvs
    obtain ⟨r, -, hrvs⟩ := exists_of_mem_forall₂ hgs hvs
    rw [← hrvs.length_eq, hcs.length_eq]

variable {i : Insertion}

lemma params_opening (h : i.Regular) : params i.opening = [] := by
  simpa [opening, h.table] using h.columns

lemma params_plain (h : i.Regular) :
    params i.plain = i.groups.flatMap fun vs => vs.filterMap Value.bound? := by
  simp [plain, params_opening h, List.flatMap_map]

/-- Naming the columns of the first row binds nothing more. -/
lemma params_namedItems (h : i.Regular) {vs : List Value} (hvs : vs ∈ i.groups) :
    (i.namedItems vs).flatMap params = vs.filterMap Value.bound? := by
  have hlength : vs.length = i.columns.length := h.lengths vs hvs
  have hcolumns : ∀ u ∈ i.columns, params u = [] := h.columns
  clear hvs
  rw [namedItems]
  generalize i.columns = columns at hlength hcolumns
  induction vs generalizing columns with
  | nil => rfl
  | cons v vs ih =>
    cases columns with
    | nil => simp at hlength
    | cons c cs =>
      have hc : params c = [] := hcolumns c List.mem_cons_self
      have hrest := ih cs (by simpa using hlength)
        fun u hu => hcolumns u (List.mem_cons_of_mem _ hu)
      rw [List.zipWith_cons_cons, List.flatMap_cons, hrest]
      cases v <;> simp [hc, List.filterMap_cons, Value.bound?]

lemma params_compound (h : i.Regular) :
    params i.compound = i.groups.flatMap fun vs => vs.filterMap Value.bound? := by
  simp only [compound, params_append, params_opening h, params_join, List.nil_append, selects]
  cases hgs : i.groups with
  | nil => rfl
  | cons vs rest =>
    have hvs : vs ∈ i.groups := by simp [hgs]
    simp [params_namedItems h hvs, List.flatMap_map]

end Insertion

lemma Query.params_insertTemplate {c : Config} {q : Query} {rows : Rows}
    (h : q.insertTemplate c rows = .ok t) : params t = rows.bound := by
  simp only [Query.insertTemplate, bind_eq_ok, pure_eq_ok] at h
  obtain ⟨i, hi, rfl⟩ := h
  obtain ⟨first, rest, hrows, -, -, hgs⟩ := Insertion.ofRows_eq_ok hi
  have hgroups : (i.groups.flatMap fun vs => vs.filterMap Value.bound?)
      = rows.toList.flatMap (Row.boundAt first.columns) := by
    clear hi hrows
    generalize rows.toList = rs, i.groups = groups at hgs ⊢
    induction hgs with
    | nil => rfl
    | cons hrvs _ ih => simp [Row.filterMap_bound_eq hrvs, ih]
  have hbound : rows.bound = rows.toList.flatMap (Row.boundAt first.columns) := by
    simp [Rows.bound, hrows]
  have hregular : i.Regular := Insertion.regular_of_ofRows hi
  rw [hbound, ← hgroups]
  split_ifs
  · exact Insertion.params_compound hregular
  · exact Insertion.params_plain hregular

/-- A compiled command binds its bound values, each once and in order. -/
lemma Command.params_template {c : Config} {r : Command} (h : r.template c = .ok t) :
    params t = r.bound := by
  cases r with
  | select q => exact Query.params_selectTemplate h
  | insert q rows => exact Query.params_insertTemplate h
  | update q row => exact Query.params_updateTemplate h
  | delete q => exact Query.params_deleteTemplate h

end BoundSql
