import BoundSql.Codec.Condition
import BoundSql.Error
import BoundSql.Json.Canonical

/-!
# Queries in JSON

A query is a record, and so are its aggregate and its sort keys; a join is an object into which its
condition is folded. A query is read from a document in two steps: the document is brought into
canonical form, of repeated keys the last one counting and the keys in order, and then decoded.
Before that the tags of its clauses are looked at, so that an unknown one is reported as such.
-/

namespace BoundSql

/-! ### Joins -/

/-- The names of the kinds of join. -/
def JoinKind.names : List (String × JoinKind) :=
  [("INNER", .inner), ("inner", .inner), ("LEFT", .left), ("left", .left), ("RIGHT", .right),
    ("right", .right), ("FULL", .full), ("full", .full), ("CROSS", .cross), ("cross", .cross)]

/-- Reads a kind of join. -/
def JoinKind.read (r : Reading) : Draft → Decoded JoinKind := Draft.readName r JoinKind.names

/-- A kind of join in JSON. -/
def JoinKind.toJson (k : JoinKind) : Json := .str k.keyword

/-- The fields of a join condition in JSON. -/
def JoinCondition.fields (c : JoinCondition) : List (String × Json) :=
  [("column1", c.first.toJson), ("operator", c.operator.toJson), ("column2", c.second.toJson)]

/-- A join condition in JSON. -/
def JoinCondition.toJson (c : JoinCondition) : Json := .obj c.fields

/-- A join condition under construction. -/
structure JoinConditionParts where
  first : Option Identifier := none
  operator : Option Operator := none
  second : Option Identifier := none

/-- The join condition, or the name of the first part that is missing. -/
def JoinConditionParts.build (p : JoinConditionParts) : Except String JoinCondition := do
  let first ← required "column1" p.first
  let operator ← required "operator" p.operator
  let second ← required "column2" p.second
  pure { first, operator, second }

/-- A join condition as a record. -/
def JoinCondition.shape (r : Reading) : Shape JoinConditionParts where
  title := "struct JoinCondition"
  fields := [
    .of "column1" JoinConditionParts.first (fun a p => { p with first := some a })
      Identifier.read,
    .of "operator" JoinConditionParts.operator (fun a p => { p with operator := some a })
      (Operator.read r),
    .of "column2" JoinConditionParts.second (fun a p => { p with second := some a })
      Identifier.read]
  other := Shape.ignore

/-- Reads a join condition. -/
def JoinCondition.read (r : Reading) : Draft → Decoded JoinCondition :=
  (JoinCondition.shape r).read r {} JoinConditionParts.build

/-- The join condition in fields that were set aside, if these make one up. -/
def JoinCondition.ofFields? (fields : List (String × Json)) : Option JoinCondition :=
  ((JoinCondition.shape .setAside).readObject (Json.draftFields fields) none {}
    JoinConditionParts.build).toOption

/-- A join in JSON. -/
def Join.toJson (j : Join) : Json :=
  .obj ([("type", j.kind.toJson), ("table", j.table.toJson)]
    ++ (j.on?.map JoinCondition.fields).getD [])

/-- A join under construction. -/
structure JoinParts where
  kind : Option JoinKind := none
  table : Option Identifier := none

/-- A join as an object: its kind and table are decoded when they are met, and the fields of its
condition are set aside. -/
def Join.shape (r : Reading) : Shape (Kept JoinParts) where
  title := "struct Join"
  fields := [
    .of "type" (·.decoded.kind) (fun a p => { p with decoded := { p.decoded with kind := some a } })
      (JoinKind.read r),
    .of "table" (·.decoded.table)
      (fun a p => { p with decoded := { p.decoded with table := some a } }) Identifier.read]
  other := Kept.keep

/-- Reads a join, which is an object. The condition is there if the fields set aside make one up,
and otherwise the join has none. -/
def Join.read (r : Reading) : Draft → Decoded Join
  | .obj fields close =>
    (Join.shape r).readObject fields close { decoded := {} } fun p => do
      let table ← required "table" p.decoded.table
      pure ⟨p.decoded.kind.getD .inner, table, JoinCondition.ofFields? p.fields⟩
  | .deep (.obj ..) => Decoded.malformed
  | d => d.wrongType "struct Join"

/-! ### Aggregates and sort keys -/

/-- An aggregate in JSON. -/
def Aggregate.toJson (a : Aggregate) : Json :=
  .obj [("aggregator", .str a.function), ("column", a.column.toJson)]

/-- An aggregate under construction. -/
structure AggregateParts where
  function : Option String := none
  column : Option Identifier := none

/-- An aggregate as a record. -/
def Aggregate.shape : Shape AggregateParts where
  title := "struct Aggregate"
  fields := [
    .of "aggregator" AggregateParts.function (fun a p => { p with function := some a })
      Draft.readString,
    .of "column" AggregateParts.column (fun a p => { p with column := some a }) Identifier.read]
  other := Shape.ignore

/-- Reads an aggregate. -/
def Aggregate.read (r : Reading) : Draft → Decoded Aggregate :=
  Aggregate.shape.read r {} fun p => do
    let function ← required "aggregator" p.function
    let column ← required "column" p.column
    pure { function, column }

/-- Reads a direction, in whatever case. -/
def Direction.read (d : Draft) : Decoded Direction := do
  let s ← d.readString
  match Direction.parse s with
  | .ok direction => pure direction
  | .error e => Decoded.mismatch (.refused e.message)

/-- A direction in JSON. -/
def Direction.toJson (d : Direction) : Json := .str d.keyword

/-- A sort key in JSON. -/
def SortKey.toJson (k : SortKey) : Json :=
  .obj [("column", k.column.toJson), ("direction", k.direction.toJson)]

/-- A sort key under construction. -/
structure SortKeyParts where
  column : Option Identifier := none
  direction : Option Direction := none

/-- A sort key as a record. -/
def SortKey.shape : Shape SortKeyParts where
  title := "struct Order"
  fields := [
    .of "column" SortKeyParts.column (fun a p => { p with column := some a }) Identifier.read,
    .of "direction" SortKeyParts.direction (fun a p => { p with direction := some a })
      Direction.read]
  other := Shape.ignore

/-- Reads a sort key. -/
def SortKey.read (r : Reading) : Draft → Decoded SortKey :=
  SortKey.shape.read r {} fun p => do
    let column ← required "column" p.column
    pure { column, direction := p.direction.getD .asc }

/-! ### Queries -/

namespace Query

/-- A count in JSON. -/
def countJson : Option UInt64 → Json
  | some n => .num (.int n.toNat)
  | none => .null

/-- A query in JSON. -/
def toJson (q : Query) : Json :=
  .obj [
    ("from", q.table.toJson),
    ("selects", .arr (q.columns.map Identifier.toJson)),
    ("distinct", .bool q.distinct),
    ("aggregate", (q.aggregate?.map Aggregate.toJson).getD .null),
    ("joins", .arr (q.joins.map Join.toJson)),
    ("wheres", .arr (q.clauses.map Clause.toJson)),
    ("groups", .arr (q.groups.map Identifier.toJson)),
    ("orderings", .arr (q.sortKeys.map SortKey.toJson)),
    ("limit", countJson q.limit?),
    ("offset", countJson q.offset?)]

end Query

/-- A query under construction. -/
structure QueryParts where
  table : Option Identifier := none
  columns : Option (List Identifier) := none
  distinct : Option Bool := none
  aggregate : Option (Option Aggregate) := none
  joins : Option (List Join) := none
  clauses : Option (List Clause) := none
  groups : Option (List Identifier) := none
  sortKeys : Option (List SortKey) := none
  limit : Option (Option UInt64) := none
  offset : Option (Option UInt64) := none

/-- The query: only the table has to be there. -/
def QueryParts.build (p : QueryParts) : Except String Query := do
  let table ← required "from" p.table
  pure {
    table
    columns := p.columns.getD []
    distinct := p.distinct.getD false
    aggregate? := p.aggregate.getD none
    joins := p.joins.getD []
    clauses := p.clauses.getD []
    groups := p.groups.getD []
    sortKeys := p.sortKeys.getD []
    limit? := p.limit.getD none
    offset? := p.offset.getD none }

namespace Query

/-- A query as a record. -/
def shape (r : Reading) : Shape QueryParts where
  title := "struct QueryDescriptor"
  fields := [
    .of "from" QueryParts.table (fun a p => { p with table := some a }) Identifier.read,
    .of "selects" QueryParts.columns (fun a p => { p with columns := some a })
      (Draft.readList Identifier.read),
    .of "distinct" QueryParts.distinct (fun a p => { p with distinct := some a })
      Draft.readBool,
    .of "aggregate" QueryParts.aggregate (fun a p => { p with aggregate := some a })
      (Draft.readOption (Aggregate.read r)),
    .of "joins" QueryParts.joins (fun a p => { p with joins := some a })
      (Draft.readList (Join.read r)),
    .of "wheres" QueryParts.clauses (fun a p => { p with clauses := some a })
      (Draft.readList (Clause.read r)),
    .of "groups" QueryParts.groups (fun a p => { p with groups := some a })
      (Draft.readList Identifier.read),
    .of "orderings" QueryParts.sortKeys (fun a p => { p with sortKeys := some a })
      (Draft.readList (SortKey.read r)),
    .of "limit" QueryParts.limit (fun a p => { p with limit := some a })
      (Draft.readOption Draft.readWord),
    .of "offset" QueryParts.offset (fun a p => { p with offset := some a })
      (Draft.readOption Draft.readWord)]
  other := Shape.ignore

/-- Reads a query. -/
def read (r : Reading) : Draft → Decoded Query :=
  (shape r).read r {} QueryParts.build

/-- The tags of the clauses of a document that is an object. -/
def clauseTags : Json → List String
  | .obj fields =>
    match fields.lookup "wheres" with
    | some (.arr clauses) => clauses.filterMap fun
      | .obj fields => match fields.lookup "type" with
        | some (.str tag) => some tag
        | _ => none
      | _ => none
    | _ => []
  | _ => []

/-- The query that a document in canonical form stands for. -/
def ofDocument (document : Json) : Except Error Query := do
  (clauseTags document).forM fun tag => do
    let _ ← PredicateKind.parse tag
  match read .document document.draft with
  | .ok q => pure q
  | .error e => .error (.badQuery e)

/-- The query that a text stands for, as a document. -/
def ofText (s : String) : Except Error Query :=
  match Json.documentOfText s with
  | .ok document => ofDocument document
  | .error f => .error (.badQuery (.fault f))

/-- The text of a query. -/
def text (q : Query) : String := q.toJson.text

end Query

end BoundSql
