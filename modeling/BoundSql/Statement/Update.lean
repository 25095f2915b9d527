import BoundSql.Row
import BoundSql.Statement.Condition

/-!
# Updating and deleting

`UPDATE` and `DELETE` statements, which share the `WHERE` clause with `SELECT`. The values assigned
are bound before those of the clause, and white space at the end of a statement is cut.
-/

namespace BoundSql

/-- An assignment to a column. -/
def assignment (e : String × Value) : Except Error Template := do
  let c ← columnReference e.1
  pure (c ++ .text " = " :: e.2.template)

namespace Query

/-- The template of the `UPDATE` statement. -/
def updateTemplate (q : Query) (row : Row) : Except Error Template :=
  if row.isEmpty then .error .emptyAssignments
  else do
    let table ← q.table.template
    let assignments ← row.entries.mapM assignment
    let clause ← (whereClause q.clauses).toExcept
    pure (Template.trimEnd
      (.text "UPDATE " :: table ++ .text " SET " :: Template.join ", " assignments
        ++ .text " " :: clause))

/-- The template of the `DELETE` statement. -/
def deleteTemplate (q : Query) : Except Error Template := do
  let table ← q.table.template
  let clause ← (whereClause q.clauses).toExcept
  pure (Template.trimEnd (.text "DELETE FROM " :: table ++ .text " " :: clause))

end Query

end BoundSql
