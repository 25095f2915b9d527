import BoundSql.Statement.Insert
import BoundSql.Statement.Select
import BoundSql.Statement.Update

/-!
# Compiling

The four statements that a query compiles to under a configuration. Only inserting depends on more
of the configuration than its dialect.
-/

namespace BoundSql.Query

/-- The `SELECT` statement of a query. -/
def compileSelect (c : Config) (q : Query) : Except Error Statement :=
  (·.statement c.dialect) <$> q.selectTemplate c.dialect

/-- The `INSERT` statement that adds rows to the table of a query. -/
def compileInsert (c : Config) (q : Query) (rows : Rows) : Except Error Statement :=
  (·.statement c.dialect) <$> q.insertTemplate c rows

/-- The `UPDATE` statement that writes a row to what a query selects. -/
def compileUpdate (c : Config) (q : Query) (row : Row) : Except Error Statement :=
  (·.statement c.dialect) <$> q.updateTemplate row

/-- The `DELETE` statement that removes what a query selects. -/
def compileDelete (c : Config) (q : Query) : Except Error Statement :=
  (·.statement c.dialect) <$> q.deleteTemplate

end BoundSql.Query
