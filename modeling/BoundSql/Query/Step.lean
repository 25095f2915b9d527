import BoundSql.Query

/-!
# Building queries

A query is built step by step from its table. A step either sets one part of the query or appends
to one, and leaves the other parts alone.

A join is mostly added by its kind, and a condition by its predicate: each of these steps is a
general step at values of its own. Only comparisons and raw conditions have a step that adds them
as alternatives; the others are added so as a clause.
-/

namespace BoundSql

/-- A step that builds a query. -/
inductive Step where
  /-- sets the selected columns -/
  | select (columns : List Identifier)
  /-- selects distinct rows -/
  | distinct
  /-- selects an aggregate in place of columns -/
  | aggregate (function : String) (column : Identifier)
  /-- adds a join with a condition -/
  | join (kind : JoinKind) (table : Identifier) (on : JoinCondition)
  /-- adds a join without one -/
  | crossJoin (table : Identifier)
  /-- adds a clause -/
  | filter (clause : Clause)
  /-- sets the columns to group by -/
  | groupBy (groups : List Identifier)
  /-- adds a column to sort by -/
  | orderBy (key : SortKey)
  /-- sets the limit -/
  | limit (n : UInt64)
  /-- sets the offset -/
  | offset (n : UInt64)

namespace Step

/-- Selects the number of rows. -/
def count : Step := .aggregate "COUNT" (.name "*")

/-! ### Joins -/

/-- Adds a join of a kind, on a comparison of two columns. -/
def joinOn (kind : JoinKind) (table first : Identifier) (operator : Operator)
    (second : Identifier) : Step :=
  .join kind table { first, operator, second }

/-- Adds an `INNER` join. -/
def innerJoin : Identifier → Identifier → Operator → Identifier → Step := joinOn .inner

/-- Adds a `LEFT` join. -/
def leftJoin : Identifier → Identifier → Operator → Identifier → Step := joinOn .left

/-- Adds a `RIGHT` join. -/
def rightJoin : Identifier → Identifier → Operator → Identifier → Step := joinOn .right

/-! ### Conditions -/

/-- Adds a predicate that has to hold as well. -/
def andWhere (p : Predicate) : Step := .filter ⟨.and, p⟩

/-- Adds a predicate that may hold instead. -/
def orWhere (p : Predicate) : Step := .filter ⟨.or, p⟩

/-- Adds `column operator value`. -/
def whereCompare (column : Identifier) (operator : Operator) (value : Value) : Step :=
  andWhere (.compare column operator value)

/-- Adds `column operator value` as an alternative. -/
def orWhereCompare (column : Identifier) (operator : Operator) (value : Value) : Step :=
  orWhere (.compare column operator value)

/-- Adds `column IN values`. -/
def whereIn (column : Identifier) (values : List Value) : Step := andWhere (.isIn column values)

/-- Adds `column NOT IN values`. -/
def whereNotIn (column : Identifier) (values : List Value) : Step := andWhere (.notIn column values)

/-- Adds `column IS NULL`. -/
def whereNull (column : Identifier) : Step := andWhere (.isNull column)

/-- Adds `column IS NOT NULL`. -/
def whereNotNull (column : Identifier) : Step := andWhere (.notNull column)

/-- Adds `column BETWEEN low AND high`. -/
def whereBetween (column : Identifier) (low high : Value) : Step :=
  andWhere (.between column low high)

/-- Adds `column NOT BETWEEN low AND high`. -/
def whereNotBetween (column : Identifier) (low high : Value) : Step :=
  andWhere (.notBetween column low high)

/-- Adds a comparison of two columns. -/
def whereColumns (first : Identifier) (operator : Operator) (second : Identifier) : Step :=
  andWhere (.compareColumns first operator second)

/-- Adds a condition written as it is. -/
def whereRaw (sql : String) : Step := andWhere (.raw sql)

/-- Adds a condition written as it is, as an alternative. -/
def orWhereRaw (sql : String) : Step := orWhere (.raw sql)

end Step

/-- The query after a step. -/
def Query.apply (q : Query) : Step → Query
  | .select columns => { q with columns }
  | .distinct => { q with distinct := true }
  | .aggregate function column => { q with aggregate? := some { function, column } }
  | .join kind table on => { q with joins := q.joins ++ [{ kind, table, on? := some on }] }
  | .crossJoin table => { q with joins := q.joins ++ [{ kind := .cross, table, on? := none }] }
  | .filter clause => { q with clauses := q.clauses ++ [clause] }
  | .groupBy groups => { q with groups }
  | .orderBy key => { q with sortKeys := q.sortKeys ++ [key] }
  | .limit n => { q with limit? := some n }
  | .offset n => { q with offset? := some n }

/-- The query that steps build from a table. -/
def Query.build (table : Identifier) (steps : List Step) : Query :=
  steps.foldl Query.apply (Query.ofTable table)

end BoundSql
