/-!
# Dialects

The four dialects of SQL that statements are compiled for, and how they differ: the quote around
names, the placeholder of a bound value, the joins that exist, and what has to stand before an
`OFFSET` that comes without a `LIMIT`.
-/

namespace BoundSql

/-- The kinds of join. -/
inductive JoinKind where
  | inner | left | right | full | cross
deriving DecidableEq, Inhabited

/-- The keyword before `JOIN`. -/
def JoinKind.keyword : JoinKind → String
  | .inner => "INNER"
  | .left => "LEFT"
  | .right => "RIGHT"
  | .full => "FULL"
  | .cross => "CROSS"

/-- All kinds of join. -/
def JoinKind.all : List JoinKind := [.inner, .left, .right, .full, .cross]

/-- The dialects. -/
inductive Dialect where
  | generic | postgres | mysql | sqlite
deriving DecidableEq, Inhabited

namespace Dialect

/-- The name of the dialect in a configuration. -/
def keyword : Dialect → String
  | .generic => "generic"
  | .postgres => "postgres"
  | .mysql => "mysql"
  | .sqlite => "sqlite"

/-- The name of the dialect in messages. -/
def name : Dialect → String
  | .generic => "generic"
  | .postgres => "postgresql"
  | .mysql => "mysql"
  | .sqlite => "sqlite"

/-- The dialect that a user asks for by name, in whatever case. -/
def ofName? (s : String) : Option Dialect :=
  match s.toLower with
  | "generic" | "ansi" => some .generic
  | "postgres" | "postgresql" => some .postgres
  | "mysql" | "mariadb" => some .mysql
  | "sqlite" => some .sqlite
  | _ => none

/-- The character around a quoted name. -/
def quoteMark : Dialect → Char
  | .mysql => '`'
  | _ => '"'

/-- A name between quote characters, each quote character inside it written twice. -/
def quote (d : Dialect) (s : String) : String :=
  let q := d.quoteMark
  String.ofList (q :: s.toList.flatMap (fun c => if c = q then [q, q] else [c]) ++ [q])

/-- The placeholder of the value bound at a position, counted from one. -/
def placeholder (d : Dialect) (position : Nat) : String :=
  match d with
  | .postgres => "$" ++ position.repr
  | _ => "?"

/-- Whether the dialect has a kind of join. A `FULL JOIN` would be misread by mysql. -/
def supports (d : Dialect) (k : JoinKind) : Bool :=
  !(d = .mysql && k = .full)

/-- The largest limit there is. -/
def noLimit : String := "18446744073709551615"

/-- What stands before an `OFFSET` that comes without a `LIMIT`: sqlite and mysql require a limit,
which is then one that lets everything pass. -/
def beforeBareOffset : Dialect → String
  | .sqlite => "LIMIT -1 "
  | .mysql => "LIMIT " ++ noLimit ++ " "
  | _ => ""

end Dialect

/-- What statements are compiled for. -/
structure Config where
  dialect : Dialect := .generic
  /-- whether sqlite inserts several rows through a compound select -/
  compoundInsert : Bool := false
deriving DecidableEq, Inhabited

end BoundSql
