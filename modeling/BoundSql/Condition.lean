import BoundSql.Value

/-!
# Conditions

The parts of a `WHERE` clause: comparison operators, predicates on columns and values, and clauses,
each a predicate with the connector that precedes it.
-/

namespace BoundSql

/-- The comparison operators. Operators are written into statements as they are, so they come from
this closed set and never from a caller's text. -/
inductive Operator where
  | eq | bangEq | notEq | lt | le | gt | ge | like | notLike
deriving DecidableEq

/-- The operator as it is written in a statement. -/
def Operator.text : Operator → String
  | .eq => "="
  | .bangEq => "!="
  | .notEq => "<>"
  | .lt => "<"
  | .le => "<="
  | .gt => ">"
  | .ge => ">="
  | .like => "LIKE"
  | .notLike => "NOT LIKE"

/-- All operators. -/
def Operator.all : List Operator :=
  [.eq, .bangEq, .notEq, .lt, .le, .gt, .ge, .like, .notLike]

/-- What joins a predicate to what precedes it. -/
inductive Connector where
  | and | or
deriving DecidableEq, Inhabited

/-- The keyword of a connector. -/
def Connector.keyword : Connector → String
  | .and => "AND"
  | .or => "OR"

/-- A single condition. -/
inductive Predicate where
  | compare (column : Identifier) (operator : Operator) (value : Value)
  | isIn (column : Identifier) (values : List Value)
  | notIn (column : Identifier) (values : List Value)
  | isNull (column : Identifier)
  | notNull (column : Identifier)
  | between (column : Identifier) (low high : Value)
  | notBetween (column : Identifier) (low high : Value)
  | compareColumns (first : Identifier) (operator : Operator) (second : Identifier)
  /-- a condition written as it is -/
  | raw (sql : String)
deriving DecidableEq

/-- The kinds of predicate. -/
inductive PredicateKind where
  | compare | isIn | notIn | isNull | notNull | between | notBetween | compareColumns | raw
deriving DecidableEq

namespace PredicateKind

/-- All kinds, in the order of their indices. -/
def all : List PredicateKind :=
  [.compare, .isIn, .notIn, .isNull, .notNull, .between, .notBetween, .compareColumns, .raw]

/-- The tag that names a kind in a written query. -/
def tag : PredicateKind → String
  | .compare => "where"
  | .isIn => "where_in"
  | .notIn => "where_not_in"
  | .isNull => "where_null"
  | .notNull => "where_not_null"
  | .between => "where_between"
  | .notBetween => "where_not_between"
  | .compareColumns => "where_column"
  | .raw => "where_raw"

/-- The kind with a tag. -/
def ofTag? (s : String) : Option PredicateKind :=
  all.find? (·.tag == s)

theorem ofTag?_tag (k : PredicateKind) : ofTag? k.tag = some k := by
  cases k <;> decide

end PredicateKind

/-- The kind of a predicate. -/
def Predicate.kind : Predicate → PredicateKind
  | .compare .. => .compare
  | .isIn .. => .isIn
  | .notIn .. => .notIn
  | .isNull .. => .isNull
  | .notNull .. => .notNull
  | .between .. => .between
  | .notBetween .. => .notBetween
  | .compareColumns .. => .compareColumns
  | .raw .. => .raw

/-- A predicate with the connector before it. -/
structure Clause where
  connector : Connector := .and
  predicate : Predicate
deriving DecidableEq

end BoundSql
