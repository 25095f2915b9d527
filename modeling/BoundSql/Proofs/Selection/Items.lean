import BoundSql.Proofs.Failure

/-!
# The first item that fails

A `SELECT` statement is compiled item by item: the references of the selection, the table, the
joins, the references of the clauses, the groups and the sort keys. It fails exactly when one of
its items does, with the error of the first.
-/

namespace BoundSql

/-- What a `SELECT` statement can fail on: a reference or a join. -/
inductive Item where
  | reference (i : Identifier)
  | join (j : Join)

namespace Item

/-- How an item is written. -/
def template (d : Dialect) : Item → Except Error Template
  | .reference i => i.template
  | .join j => j.template d

/-- What an item fails with, if it does. -/
def error? (d : Dialect) (x : Item) : Option Error := failure? (x.template d)

end Item

namespace Query

/-- The items of a component, in order. -/
def componentItems (q : Query) : Component → List Item
  | .aggregate => (q.aggregate?.map fun a => .reference a.column).toList
  | .columns => if q.aggregate?.isSome then [] else q.columns.map .reference
  | .table => [.reference q.table]
  | .joins => q.joins.map .join
  | .clauses => q.clauses.flatMap fun c => c.predicate.references.map .reference
  | .groups => q.groups.map .reference
  | .sortKeys => q.sortKeys.map fun k => .reference k.column
  | .limit | .offset => []

/-- The items of a query, in the order in which they are compiled. -/
def items (q : Query) : List Item := Component.all.flatMap q.componentItems

/-- The first item of a query that fails in a dialect. -/
def firstFailing? (d : Dialect) (q : Query) : Option Item :=
  q.items.find? fun x => (x.error? d).isSome

end Query

/-! ### What each part fails with -/

/-- A list of lists is searched list by list. -/
lemma findSome?_flatMap {α β γ : Type} (f : α → List β) (g : β → Option γ) (xs : List α) :
    (xs.flatMap f).findSome? g = xs.findSome? fun x => (f x).findSome? g := by
  induction xs with
  | nil => rfl
  | cons x xs ih =>
    rw [List.flatMap_cons, List.findSome?_append, ih, List.findSome?_cons]
    cases (f x).findSome? g <;> rfl

variable {d : Dialect}

/-- References fail with the first of them that fails. -/
lemma findSome?_references (is : List Identifier) :
    (is.map Item.reference).findSome? (Item.error? d)
      = is.findSome? fun i => failure? i.template := by
  rw [List.findSome?_map]
  rfl

lemma findSome?_reference (i : Identifier) :
    [Item.reference i].findSome? (Item.error? d) = failure? i.template := by
  rw [List.findSome?_singleton, Item.error?, Item.template]

/-- A clause fails with the first of its references that fails. -/
lemma findSome?_clauses (cs : List Clause) :
    (cs.flatMap fun c => c.predicate.references.map Item.reference).findSome? (Item.error? d)
      = cs.findSome? fun c => failure? c.predicate.template := by
  simp only [findSome?_flatMap, findSome?_references, Predicate.failure?_template]

namespace Query

lemma failure?_aggregateTemplate (a : Aggregate) :
    failure? (aggregateTemplate a) = failure? a.column.template :=
  failure?_bind_pure _ _

lemma failure?_columnsTemplate (distinct : Bool) (columns : List Identifier) :
    failure? (columnsTemplate distinct columns)
      = columns.findSome? fun i => failure? i.template := by
  rw [← failure?_columnList, columnsTemplate]
  cases columns with
  | nil => rfl
  | cons i is => exact failure?_bind_pure _ _

lemma failure?_joinsTemplate (joins : List Join) :
    failure? (joinsTemplate d joins) = (joins.map Item.join).findSome? (Item.error? d) := by
  rw [joinsTemplate, failure?_bind_pure, failure?_mapM, List.findSome?_map]
  rfl

lemma failure?_sortKeyTemplate (k : SortKey) :
    failure? (sortKeyTemplate k) = failure? k.column.template :=
  failure?_bind_pure _ _

/-- A component fails with its first item that fails. -/
lemma failure?_component (q : Query) (x : Component) :
    failure? (q.component d x).toExcept = (q.componentItems x).findSome? (Item.error? d) := by
  cases x with
  | aggregate =>
    rw [component, componentItems]
    cases q.aggregate? with
    | none => rfl
    | some a =>
      simp only [Outcome.toExcept_ofExcept, failure?_aggregateTemplate, Option.map_some,
        Option.toList_some, findSome?_reference]
  | columns =>
    rw [component, componentItems]
    split_ifs
    · rfl
    · rw [Outcome.toExcept_ofExcept, failure?_columnsTemplate, findSome?_references]
  | table =>
    rw [component, componentItems, Outcome.toExcept_ofExcept, failure?_bind_pure,
      findSome?_reference]
  | joins =>
    rw [component, componentItems, Outcome.toExcept_ofExcept, failure?_joinsTemplate]
  | clauses =>
    rw [component, componentItems, Outcome.failure?_toExcept, error?_whereClause,
      findSome?_clauses]
  | groups =>
    rw [component, componentItems]
    split_ifs with hgroups
    · rw [List.isEmpty_iff.mp hgroups]
      rfl
    · rw [Outcome.toExcept_ofExcept, failure?_bind_pure, failure?_columnList,
        findSome?_references]
  | sortKeys =>
    rw [component, componentItems]
    split_ifs with hkeys
    · rw [List.isEmpty_iff.mp hkeys]
      rfl
    · rw [Outcome.toExcept_ofExcept, failure?_bind_pure, failure?_mapM, List.findSome?_map]
      simp only [failure?_sortKeyTemplate]
      rfl
  | limit =>
    rw [component, componentItems]
    cases q.limit? <;> rfl
  | offset =>
    rw [component, componentItems]
    cases q.offset? <;> rfl

end Query

lemma findSome?_eq_bind_find? {α β : Type} (f : α → Option β) (xs : List α) :
    xs.findSome? f = (xs.find? fun x => (f x).isSome).bind f := by
  induction xs with
  | nil => rfl
  | cons x xs ih =>
    rw [List.findSome?_cons, List.find?_cons]
    cases hx : f x with
    | none => simpa using ih
    | some b => simp [hx]

/-- A `SELECT` statement fails with its first item that fails, and compiles if there is none. -/
theorem Query.failure?_selectTemplate (d : Dialect) (q : Query) :
    failure? (q.selectTemplate d) = (q.firstFailing? d).bind (Item.error? d) := by
  rw [selectTemplate, failure?_bind_pure, failure?_mapM, firstFailing?,
    ← findSome?_eq_bind_find?, items, findSome?_flatMap]
  simp only [failure?_component]

/-- A `SELECT` statement that does not compile stops at an item, with the error of that item. -/
lemma Query.selectTemplate_eq_error {d : Dialect} {q : Query} {e : Error}
    (h : q.selectTemplate d = .error e) :
    ∃ x, q.firstFailing? d = some x ∧ x.error? d = some e := by
  have he : (q.firstFailing? d).bind (Item.error? d) = some e := by
    rw [← failure?_selectTemplate, h, failure?_error]
  exact Option.bind_eq_some_iff.mp he

end BoundSql
