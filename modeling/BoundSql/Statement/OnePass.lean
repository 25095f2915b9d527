import BoundSql.Statement.Condition

/-!
# Conditions in one pass

Conditions can be written without a template, in one pass over one list of bindings: each value is
bound where its placeholder is written, and each column is looked at where it is written. An error
stops the pass, and what has been bound until then stays bound.
-/

namespace BoundSql

/-- A pass that writes something and binds values on the way. -/
abbrev Pass (α : Type) := ExceptT Error (StateM Bindings) α

/-- The result of a pass that starts behind bound values, and the bindings after it. -/
def Pass.runFrom {α : Type} (b : Bindings) (w : Pass α) : Except Error α × Bindings :=
  w.run.run b

/-- Writes a table or column. -/
def Identifier.emit (d : Dialect) (i : Identifier) : Pass String :=
  match i.template with
  | .ok t => pure (t.render d 0)
  | .error e => throw e

/-- Writes an expression as it is, or binds a value and writes its placeholder. -/
def Value.emit (d : Dialect) : Value → Pass String
  | .expr e => pure e.raw
  | .param v => do
    modify (·.push v)
    let b ← get
    pure (d.placeholder b.size)

/-- Writes values, separated by commas. -/
def emitValues (d : Dialect) (values : List Value) : Pass String := do
  let texts ← values.mapM (Value.emit d)
  pure (", ".intercalate texts)

/-- Writes a comparison of a column with a range. -/
def emitRange (d : Dialect) (column : Identifier) (keyword : String) (low high : Value) :
    Pass String := do
  let c ← column.emit d
  let l ← low.emit d
  let h ← high.emit d
  pure (c ++ keyword ++ l ++ " AND " ++ h)

/-- Writes a comparison of a column with the values of a list. -/
def emitMembership (d : Dialect) (column : Identifier) (keyword : String) (values : List Value) :
    Pass String := do
  let c ← column.emit d
  let vs ← emitValues d values
  pure (c ++ keyword ++ vs ++ ")")

/-- Writes a predicate. -/
def Predicate.emit (d : Dialect) : Predicate → Pass String
  | .compare column operator value => do
    let c ← column.emit d
    let v ← value.emit d
    pure (c ++ " " ++ operator.text ++ " " ++ v)
  | .isIn _ [] => pure "0 = 1"
  | .isIn column values => emitMembership d column " IN (" values
  | .notIn _ [] => pure "1 = 1"
  | .notIn column values => emitMembership d column " NOT IN (" values
  | .isNull column => do
    let c ← column.emit d
    pure (c ++ " IS NULL")
  | .notNull column => do
    let c ← column.emit d
    pure (c ++ " IS NOT NULL")
  | .between column low high => emitRange d column " BETWEEN " low high
  | .notBetween column low high => emitRange d column " NOT BETWEEN " low high
  | .compareColumns first operator second => do
    let a ← first.emit d
    let b ← second.emit d
    pure (a ++ " " ++ operator.text ++ " " ++ b)
  | .raw sql => pure sql

/-- Writes clauses behind a text, each behind its connector. -/
def emitClauses (d : Dialect) : List Clause → String → Pass String
  | [], sql => pure sql
  | c :: cs, sql => do
    let condition ← c.predicate.emit d
    emitClauses d cs (sql ++ " " ++ c.connector.keyword ++ " " ++ condition)

/-- Writes the `WHERE` clause; nothing if there are no clauses. -/
def emitWhere (d : Dialect) (cs : List Clause) : Pass String :=
  if cs.isEmpty then pure "" else emitClauses d cs "WHERE 1 = 1"

end BoundSql
