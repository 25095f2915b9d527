import BoundSql.Row
import BoundSql.Statement.Reference

/-!
# Inserting

`INSERT` statements. The first row decides the columns and their order, and every other row has to
have the same columns, in whatever order. Several rows are written as a list of groups, or, where
the configuration asks for it, as a compound select.
-/

namespace BoundSql

namespace Row

/-- The values of a row in the column order of the first row. A column too many is reported before
a missing one. -/
def aligned (first : Row) (index : Nat) (r : Row) : Except Error (List Value) :=
  match r.columns.find? (fun c => !first.columns.contains c) with
  | some extra => .error (.mismatchedRow index extra)
  | none => first.columns.mapM fun c =>
    match r.get? c with
    | some v => .ok v
    | none => .error (.mismatchedRow index c)

/-- The values of rows, counted from `index`, in the column order of the first row. -/
def alignedFrom (first : Row) : Nat → List Row → Except Error (List (List Value))
  | _, [] => .ok []
  | index, r :: rs => do
    let vs ← first.aligned index r
    let rest ← alignedFrom first (index + 1) rs
    pure (vs :: rest)

end Row

/-- What an `INSERT` statement is made of: the table, the columns, and the values row by row. -/
structure Insertion where
  table : Template
  columns : List Template
  groups : List (List Value)

namespace Insertion

/-- What is inserted into a table. -/
def ofRows (table : Identifier) (rows : List Row) : Except Error Insertion :=
  match rows with
  | [] => .error .emptyBatch
  | first :: _ =>
    if first.isEmpty then .error .emptyBatch
    else do
      let table ← table.template
      let columns ← first.columns.mapM columnReference
      let groups ← first.alignedFrom 0 rows
      pure { table, columns, groups }

/-- `INSERT INTO table (columns) `. -/
def opening (i : Insertion) : Template :=
  .text "INSERT INTO " :: i.table ++ .text " (" :: Template.join ", " i.columns ++ [.text ") "]

/-- The rows as groups of values. -/
def plain (i : Insertion) : Template :=
  i.opening ++ .text "VALUES "
    :: Template.join ", " (i.groups.map fun vs => .text "(" :: valueList vs ++ [.text ")"])

/-- The values of the first row, each with the name of its column. -/
def namedItems (i : Insertion) (vs : List Value) : List Template :=
  List.zipWith (fun v c => Value.template v ++ .text " AS " :: c) vs i.columns

/-- The rows as selects, of which the first names the columns. -/
def selects (i : Insertion) : List Template :=
  match i.groups with
  | [] => []
  | vs :: rest =>
    (.text "SELECT " :: Template.join ", " (i.namedItems vs))
      :: rest.map fun vs => .text "SELECT " :: valueList vs

/-- The rows as a compound select. -/
def compound (i : Insertion) : Template :=
  i.opening ++ Template.join " UNION ALL " i.selects

end Insertion

/-- Whether rows are inserted through a compound select. -/
def Config.insertsCompound (c : Config) (rows : List Row) : Bool :=
  c.dialect = .sqlite && c.compoundInsert && 2 ≤ rows.length

/-- The template of the `INSERT` statement. -/
def Query.insertTemplate (c : Config) (q : Query) (rows : Rows) : Except Error Template := do
  let i ← Insertion.ofRows q.table rows.toList
  pure (if c.insertsCompound rows.toList then i.compound else i.plain)

end BoundSql
