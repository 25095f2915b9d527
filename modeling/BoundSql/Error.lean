import BoundSql.Json.Mismatch
import BoundSql.Query
import BoundSql.Text.Blank

/-!
# Errors

Why a statement cannot be compiled or a query cannot be read, and how that is said; and the
readers of the keywords that users write, which are more tolerant than the JSON forms.
-/

namespace BoundSql

/-- How a join and its condition fail to fit together. -/
inductive JoinFault where
  /-- a `CROSS` join with a condition -/
  | needless
  /-- another join without one -/
  | missing
deriving DecidableEq

/-- A join fault in words. -/
def JoinFault.message : JoinFault → String
  | .needless => "CROSS JOIN takes no ON condition"
  | .missing => "missing ON condition"

/-- Why a statement cannot be compiled, or a query cannot be read. -/
inductive Error where
  /-- a clause with a tag that names no kind of predicate -/
  | unknownKind (tag : String)
  | unknownOperator (text : String)
  | invalidDirection (text : String)
  | unknownDialect (text : String)
  /-- a name with an alias that is not of the form `expr AS alias` -/
  | malformedAlias (name : String)
  /-- an alias where a statement names a column to write to -/
  | aliasNotAllowed (name : String)
  /-- a join that does not fit its condition; the table is quoted -/
  | invalidJoin (kind : JoinKind) (table : String) (fault : JoinFault)
  | unsupportedJoin (dialect : Dialect) (kind : JoinKind)
  /-- nothing to insert -/
  | emptyBatch
  /-- a row, counted from zero, with other columns than the first row -/
  | mismatchedRow (row : Nat) (column : String)
  /-- nothing to update -/
  | emptyAssignments
  /-- a query that cannot be decoded -/
  | badQuery (e : DecodeError)

/-- The words of an error. -/
def Error.message : Error → String
  | .unknownKind tag => "unsupported where clause kind: '" ++ tag ++ "'"
  | .unknownOperator s => "unsupported operator: '" ++ s ++ "'"
  | .invalidDirection s => "invalid order direction: '" ++ s ++ "'"
  | .unknownDialect s => "unknown dialect: '" ++ s ++ "'"
  | .malformedAlias s =>
    "malformed alias in identifier '" ++ s ++ "', expected `expr AS alias`"
  | .aliasNotAllowed s => "alias not allowed in column '" ++ s ++ "'"
  | .invalidJoin kind table fault =>
    "invalid " ++ kind.keyword ++ " JOIN on " ++ table ++ ": " ++ fault.message
  | .unsupportedJoin d kind => d.name ++ " does not support " ++ kind.keyword ++ " JOIN"
  | .emptyBatch => "cannot compile an insert without rows"
  | .mismatchedRow row column =>
    "insert row " ++ row.repr ++ " does not match the first row's columns at '" ++ column ++ "'"
  | .emptyAssignments => "cannot compile an update without assignments"
  | .badQuery e => "invalid query descriptor: " ++ e.message

/-- The operator that a user writes, in whatever case and with blanks around it. -/
def Operator.parse (s : String) : Except Error Operator :=
  let t := (String.ofList (Text.trim s.toList)).toUpper
  match Operator.all.find? (·.text == t) with
  | some op => .ok op
  | none => .error (.unknownOperator s)

/-- The direction that a user writes, in whatever case. -/
def Direction.parse (s : String) : Except Error Direction :=
  match s.toLower with
  | "asc" => .ok .asc
  | "desc" => .ok .desc
  | _ => .error (.invalidDirection s)

/-- The kind of predicate with a tag. -/
def PredicateKind.parse (s : String) : Except Error PredicateKind :=
  match PredicateKind.ofTag? s with
  | some kind => .ok kind
  | none => .error (.unknownKind s)

/-- The dialect that a user asks for. -/
def Dialect.parse (s : String) : Except Error Dialect :=
  match Dialect.ofName? s with
  | some d => .ok d
  | none => .error (.unknownDialect s)

end BoundSql
