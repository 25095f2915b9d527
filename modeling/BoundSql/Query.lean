import BoundSql.Condition
import BoundSql.Dialect

/-!
# Queries

The description of a pending statement: what it selects, from where, under which conditions and in
which order.
-/

namespace BoundSql

/-- The condition of a join: `first operator second`. -/
structure JoinCondition where
  first : Identifier
  operator : Operator
  second : Identifier
deriving DecidableEq

/-- A join with another table. A `CROSS` join takes no condition and every other kind needs one;
whether they fit is decided when the statement is compiled. -/
structure Join where
  kind : JoinKind := .inner
  table : Identifier
  on? : Option JoinCondition
deriving DecidableEq

/-- A sort direction. -/
inductive Direction where
  | asc | desc
deriving DecidableEq, Inhabited

/-- The keyword of a direction. -/
def Direction.keyword : Direction → String
  | .asc => "ASC"
  | .desc => "DESC"

/-- A column to sort by. -/
structure SortKey where
  column : Identifier
  direction : Direction := .asc
deriving DecidableEq

/-- An aggregate function of a column, which takes the place of the selected columns. -/
structure Aggregate where
  function : String
  column : Identifier
deriving DecidableEq

/-- The description of a pending statement. -/
structure Query where
  table : Identifier
  /-- the selected columns; none selects all -/
  columns : List Identifier := []
  distinct : Bool := false
  aggregate? : Option Aggregate := none
  joins : List Join := []
  clauses : List Clause := []
  groups : List Identifier := []
  sortKeys : List SortKey := []
  limit? : Option UInt64 := none
  offset? : Option UInt64 := none
deriving DecidableEq

namespace Query

/-- The query that selects everything from a table. -/
def ofTable (table : Identifier) : Query := { table }

end Query

end BoundSql
