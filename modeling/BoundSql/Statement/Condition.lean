import BoundSql.Statement.Reference

/-!
# Conditions in statements

Predicates and `WHERE` clauses. A predicate either compiles as a whole or fails without binding
anything; a list of clauses that fails keeps what its earlier clauses have bound.
-/

namespace BoundSql

/-- What has been compiled before an error, if there is one. -/
structure Outcome where
  template : Template
  error? : Option Error := none

namespace Outcome

/-- The template, unless there is an error. -/
def toExcept (o : Outcome) : Except Error Template :=
  match o.error? with
  | none => .ok o.template
  | some e => .error e

/-- The outcome of something that compiles as a whole or not at all. -/
def ofExcept : Except Error Template → Outcome
  | .ok t => { template := t }
  | .error e => { template := [], error? := some e }

/-- The text of an outcome in a dialect, or its error, and the bindings after it. -/
def write (d : Dialect) (o : Outcome) (b : Bindings) : Except Error String × Bindings :=
  (match o.error? with
    | none => .ok (o.template.render d b.size)
    | some e => .error e,
   b.append o.template.params)

end Outcome

/-- A comparison of a column with a range. -/
def rangeComparison (column : Identifier) (keyword : String) (low high : Value) :
    Except Error Template := do
  let c ← column.template
  pure (c ++ .text keyword :: low.template ++ .text " AND " :: high.template)

/-- A comparison of a column with the values of a list. -/
def listMembership (column : Identifier) (keyword : String) (values : List Value) :
    Except Error Template := do
  let c ← column.template
  pure (c ++ .text keyword :: valueList values ++ [.text ")"])

/-- A comparison of two columns. -/
def columnComparison (first : Identifier) (operator : Operator) (second : Identifier) :
    Except Error Template := do
  let a ← first.template
  let b ← second.template
  pure (a ++ .text (" " ++ operator.text ++ " ") :: b)

/-- A predicate. No value is in an empty list, whatever the column. -/
def Predicate.template : Predicate → Except Error Template
  | .compare column operator value => do
    let c ← column.template
    pure (c ++ .text (" " ++ operator.text ++ " ") :: value.template)
  | .isIn _ [] => .ok [.text "0 = 1"]
  | .isIn column values => listMembership column " IN (" values
  | .notIn _ [] => .ok [.text "1 = 1"]
  | .notIn column values => listMembership column " NOT IN (" values
  | .isNull column => do
    let c ← column.template
    pure (c ++ [.text " IS NULL"])
  | .notNull column => do
    let c ← column.template
    pure (c ++ [.text " IS NOT NULL"])
  | .between column low high => rangeComparison column " BETWEEN " low high
  | .notBetween column low high => rangeComparison column " NOT BETWEEN " low high
  | .compareColumns first operator second => columnComparison first operator second
  | .raw sql => .ok [.text sql]

/-- Clauses one after the other, each behind its connector, up to the first that fails. -/
def clauseChain : List Clause → Outcome
  | [] => { template := [] }
  | c :: cs =>
    match c.predicate.template with
    | .error e => { template := [], error? := some e }
    | .ok t =>
      let rest := clauseChain cs
      { template := .text (" " ++ c.connector.keyword ++ " ") :: t ++ rest.template
        error? := rest.error? }

/-- The `WHERE` clause, which starts from a condition that always holds; nothing if there are no
clauses. -/
def whereClause (cs : List Clause) : Outcome :=
  if cs.isEmpty then { template := [] }
  else
    let chain := clauseChain cs
    { chain with template := .text "WHERE 1 = 1" :: chain.template }

end BoundSql
