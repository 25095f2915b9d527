import BoundSql.Decimal.Double

/-!
# Values

What can stand where a statement needs a value: either a value that is bound through a
placeholder, or an expression that is written into the statement as it is.
-/

namespace BoundSql

open Decimal

/-- A fragment of SQL that is written into a statement as it is, never quoted and never bound. -/
structure Expression where
  raw : String
deriving DecidableEq

/-- A value that can be bound to a placeholder. -/
inductive SqlValue where
  | null
  | bool (b : Bool)
  | int (n : Int64)
  | float (x : Double)
  | text (s : String)
  | blob (bytes : List UInt8)
deriving DecidableEq

/-- What stands in a value position of a statement. -/
inductive Value where
  /-- written as it is, binds nothing -/
  | expr (e : Expression)
  /-- bound through a placeholder -/
  | param (v : SqlValue)
deriving DecidableEq

/-- Whether the value is written into the statement instead of being bound. -/
def Value.isExpression : Value → Bool
  | .expr _ => true
  | .param _ => false

/-- A reference to a table or a column. -/
inductive Identifier where
  /-- written as it is -/
  | expr (e : Expression)
  /-- a name, possibly dotted and possibly with an alias, whose parts are quoted -/
  | name (s : String)
deriving DecidableEq

end BoundSql
