import BoundSql.Statement.Condition
import BoundSql.Text.Uppercase

/-!
# Selecting

`SELECT` statements, component by component in a fixed order. A component that a query does not
have is empty and leaves no trace; the others are separated by single spaces.
-/

namespace BoundSql

/-- A join in a dialect. Whether the dialect has the kind of join is decided first, then the table
is looked at, then whether the condition fits the kind. -/
def Join.template (d : Dialect) (j : Join) : Except Error Template :=
  if !d.supports j.kind then .error (.unsupportedJoin d j.kind)
  else do
    let table ← j.table.template
    match j.kind, j.on? with
    | .cross, none => pure (.text "CROSS JOIN " :: table)
    | .cross, some _ => .error (.invalidJoin j.kind (table.render d 0) .needless)
    | _, none => .error (.invalidJoin j.kind (table.render d 0) .missing)
    | kind, some on => do
      let condition ← columnComparison on.first on.operator on.second
      pure (.text (kind.keyword ++ " JOIN ") :: table ++ .text " ON " :: condition)

/-- The parts of a `SELECT` statement. -/
inductive Component where
  | aggregate | columns | table | joins | clauses | groups | sortKeys | limit | offset
deriving DecidableEq

/-- The order in which the components stand in a statement. -/
def Component.all : List Component :=
  [.aggregate, .columns, .table, .joins, .clauses, .groups, .sortKeys, .limit, .offset]

namespace Query

/-- `SELECT FUNCTION(column)`, the function in upper case. -/
def aggregateTemplate (a : Aggregate) : Except Error Template := do
  let c ← a.column.template
  pure (.text ("SELECT " ++ Text.upper a.function ++ "(") :: c ++ [.text ")"])

/-- `SELECT [DISTINCT] columns`. -/
def columnsTemplate (distinct : Bool) (columns : List Identifier) : Except Error Template := do
  let start := if distinct then "SELECT DISTINCT " else "SELECT "
  if columns.isEmpty then pure [.text start, .text "*"]
  else do
    let cs ← columnList columns
    pure (.text start :: cs)

/-- The joins, separated by spaces. -/
def joinsTemplate (d : Dialect) (joins : List Join) : Except Error Template := do
  let ts ← joins.mapM (Join.template d)
  pure (Template.join " " ts)

/-- A column to sort by, with its direction. -/
def sortKeyTemplate (k : SortKey) : Except Error Template := do
  let c ← k.column.template
  pure (c ++ [.text (" " ++ k.direction.keyword)])

/-- `OFFSET n`, after the limit that the dialect requires if the query has none. -/
def offsetTemplate (d : Dialect) (limit? : Option UInt64) (n : UInt64) : Template :=
  let start := if limit?.isSome then "" else d.beforeBareOffset
  [.text (start ++ "OFFSET " ++ n.toNat.repr)]

/-- One component of the `SELECT` statement. -/
def component (d : Dialect) (q : Query) : Component → Outcome
  | .aggregate => match q.aggregate? with
    | some a => .ofExcept (aggregateTemplate a)
    | none => { template := [] }
  | .columns =>
    if q.aggregate?.isSome then { template := [] }
    else .ofExcept (columnsTemplate q.distinct q.columns)
  | .table => .ofExcept do
    let t ← q.table.template
    pure (.text "FROM " :: t)
  | .joins => .ofExcept (joinsTemplate d q.joins)
  | .clauses => whereClause q.clauses
  | .groups =>
    if q.groups.isEmpty then { template := [] }
    else .ofExcept do
      let cs ← columnList q.groups
      pure (.text "GROUP BY " :: cs)
  | .sortKeys =>
    if q.sortKeys.isEmpty then { template := [] }
    else .ofExcept do
      let ks ← q.sortKeys.mapM sortKeyTemplate
      pure (.text "ORDER BY " :: Template.join ", " ks)
  | .limit => match q.limit? with
    | some n => { template := [.text ("LIMIT " ++ n.toNat.repr)] }
    | none => { template := [] }
  | .offset => match q.offset? with
    | some n => { template := offsetTemplate d q.limit? n }
    | none => { template := [] }

/-- The template of the `SELECT` statement, or the error of the first component that fails. -/
def selectTemplate (d : Dialect) (q : Query) : Except Error Template := do
  let parts ← Component.all.mapM fun c => (q.component d c).toExcept
  pure (Template.join " " (parts.filter fun t => !t.isEmpty))

end Query

end BoundSql
