import BoundSql.Codec.Value
import BoundSql.Condition

/-!
# Conditions in JSON

Operators and connectors are names. A predicate is an object whose field `type` is the tag of its
kind, and a clause is the object of its predicate with a field `connector`. Since the tag may come
last, the other fields of a predicate are set aside until it is known.
-/

namespace BoundSql

/-- The names of the operators. -/
def Operator.names : List (String × Operator) :=
  [("=", .eq), ("!=", .bangEq), ("<>", .notEq), ("<", .lt), ("<=", .le), (">", .gt), (">=", .ge),
    ("LIKE", .like), ("like", .like), ("NOT LIKE", .notLike), ("not like", .notLike)]

/-- Reads an operator. -/
def Operator.read (r : Reading) : Draft → Decoded Operator := Draft.readName r Operator.names

/-- An operator in JSON. -/
def Operator.toJson (op : Operator) : Json := .str op.text

/-- The names of the connectors. -/
def Connector.names : List (String × Connector) :=
  [("AND", .and), ("and", .and), ("OR", .or), ("or", .or)]

/-- Reads a connector. -/
def Connector.read (r : Reading) : Draft → Decoded Connector := Draft.readName r Connector.names

/-- A connector in JSON. -/
def Connector.toJson (c : Connector) : Json := .str c.keyword

/-! ### Predicates -/

/-- The fields of a predicate in JSON, after its tag. -/
def Predicate.fields : Predicate → List (String × Json)
  | .compare c op v =>
    [("column", c.toJson), ("operator", op.toJson), ("value", v.toJson)]
  | .isIn c vs | .notIn c vs => [("column", c.toJson), ("values", .arr (vs.map Value.toJson))]
  | .isNull c | .notNull c => [("column", c.toJson)]
  | .between c low high | .notBetween c low high =>
    [("column", c.toJson), ("low", low.toJson), ("high", high.toJson)]
  | .compareColumns a op b =>
    [("first", a.toJson), ("operator", op.toJson), ("second", b.toJson)]
  | .raw sql => [("sql", .str sql)]

/-- The fields of a predicate in JSON, with its tag. -/
def Predicate.taggedFields (p : Predicate) : List (String × Json) :=
  ("type", .str p.kind.tag) :: p.fields

/-- A predicate in JSON. -/
def Predicate.toJson (p : Predicate) : Json := .obj p.taggedFields

/-- The parts of a predicate under construction; each kind has some of them. -/
structure PredicateParts where
  column : Option Identifier := none
  operator : Option Operator := none
  value : Option Value := none
  values : Option (List Value) := none
  low : Option Value := none
  high : Option Value := none
  first : Option Identifier := none
  second : Option Identifier := none
  sql : Option String := none

namespace PredicateParts

/-- The field `column`. -/
def columnField : Field PredicateParts :=
  .of "column" column (fun a p => { p with column := some a }) Identifier.read

/-- The field `operator`. -/
def operatorField : Field PredicateParts :=
  .of "operator" operator (fun a p => { p with operator := some a }) (Operator.read .setAside)

/-- The field `value`. -/
def valueField : Field PredicateParts :=
  .of "value" value (fun a p => { p with value := some a }) Value.read

/-- The field `values`. -/
def valuesField : Field PredicateParts :=
  .of "values" values (fun a p => { p with values := some a }) (Draft.readList Value.read)

/-- The field `low`. -/
def lowField : Field PredicateParts :=
  .of "low" low (fun a p => { p with low := some a }) Value.read

/-- The field `high`. -/
def highField : Field PredicateParts :=
  .of "high" high (fun a p => { p with high := some a }) Value.read

/-- The field `first`. -/
def firstField : Field PredicateParts :=
  .of "first" first (fun a p => { p with first := some a }) Identifier.read

/-- The field `second`. -/
def secondField : Field PredicateParts :=
  .of "second" second (fun a p => { p with second := some a }) Identifier.read

/-- The field `sql`. -/
def sqlField : Field PredicateParts :=
  .of "sql" sql (fun a p => { p with sql := some a }) Draft.readString

/-- The predicate of a kind that the parts make up, or the name of the first part that is
missing. -/
def build (p : PredicateParts) : PredicateKind → Except String Predicate
  | .compare => do
    let c ← required "column" p.column
    let op ← required "operator" p.operator
    let v ← required "value" p.value
    pure (.compare c op v)
  | .isIn => do
    let c ← required "column" p.column
    let vs ← required "values" p.values
    pure (.isIn c vs)
  | .notIn => do
    let c ← required "column" p.column
    let vs ← required "values" p.values
    pure (.notIn c vs)
  | .isNull => .isNull <$> required "column" p.column
  | .notNull => .notNull <$> required "column" p.column
  | .between => do
    let c ← required "column" p.column
    let low ← required "low" p.low
    let high ← required "high" p.high
    pure (.between c low high)
  | .notBetween => do
    let c ← required "column" p.column
    let low ← required "low" p.low
    let high ← required "high" p.high
    pure (.notBetween c low high)
  | .compareColumns => do
    let a ← required "first" p.first
    let op ← required "operator" p.operator
    let b ← required "second" p.second
    pure (.compareColumns a op b)
  | .raw => .raw <$> required "sql" p.sql

end PredicateParts

namespace PredicateKind

/-- The name of a kind in messages. -/
def title : PredicateKind → String
  | .compare => "Basic"
  | .isIn => "In"
  | .notIn => "NotIn"
  | .isNull => "Null"
  | .notNull => "NotNull"
  | .between => "Between"
  | .notBetween => "NotBetween"
  | .compareColumns => "Column"
  | .raw => "Raw"

open PredicateParts in
/-- The fields of a kind, in order. -/
def fields : PredicateKind → List (Field PredicateParts)
  | .compare => [columnField, operatorField, valueField]
  | .isIn | .notIn => [columnField, valuesField]
  | .isNull | .notNull => [columnField]
  | .between | .notBetween => [columnField, lowField, highField]
  | .compareColumns => [firstField, operatorField, secondField]
  | .raw => [sqlField]

/-- A predicate of a kind as a record. -/
def shape (k : PredicateKind) : Shape PredicateParts where
  title := "struct variant Predicate::" ++ k.title
  fields := k.fields
  other := Shape.ignore

/-- The tags, with their kinds. -/
def names : List (String × PredicateKind) := all.map fun k => (k.tag, k)

/-- Reads a tag. One that was set aside may also be the index of its kind. -/
def read (r : Reading) : Draft → Decoded PredicateKind
  | .str (some s) => Draft.variant names s
  | .num (some (.int n)) =>
    if r = .setAside ∧ 0 ≤ n then
      match all[n.toNat]? with
      | some k => .ok k
      | none => Decoded.mismatch (.wrongValue (.number (.int n)) "variant index 0 <= i < 9")
    else Decoded.mismatch (.wrongType (.number (.int n)) "variant identifier")
  | d => d.wrongType "variant identifier"

/-- Decodes the fields of a predicate of a kind that were set aside. -/
def readFields (k : PredicateKind) (fields : List (String × Json)) : Decoded Predicate :=
  k.shape.readObject (Json.draftFields fields) none {} (·.build k)

/-- Decodes the elements of a predicate of a kind that were set aside. -/
def readElements (k : PredicateKind) (items : List Json) : Decoded Predicate :=
  k.shape.readArray .setAside (Json.draftItems items) none {} (·.build k)

end PredicateKind

/-- Fields of an object of which one part has been decoded and the others are set aside. -/
structure Kept (α : Type) where
  decoded : α
  fields : List (String × Json) := []

/-- A field is settled and set aside. -/
def Kept.keep {α : Type} (k : String) (d : Draft) (p : Kept α) : Decoded (Kept α) := do
  let v ← Decoded.ofFault d.settle
  pure { p with fields := p.fields ++ [(k, v)] }

namespace Predicate

/-- A predicate as an object: the tag is decoded when it is met. -/
def taggedShape (r : Reading) : Shape (Kept (Option PredicateKind)) where
  title := "internally tagged enum Predicate"
  fields := [.of "type" Kept.decoded (fun k p => { p with decoded := some k })
    (PredicateKind.read r)]
  other := Kept.keep

/-- Decodes a predicate from the fields of an object. -/
def readFields (r : Reading) (fields : List (Draft × Draft)) (close : Option Fault) :
    Decoded Predicate := do
  let (kind, fields) ← (taggedShape r).readObject fields close { decoded := none } fun p => do
    let kind ← required "type" p.decoded
    pure (kind, p.fields)
  kind.readFields fields

/-- Reads a predicate: an object with a tag, or an array that starts with the tag. -/
def read : Draft → Decoded Predicate
  | .obj fields close => readFields .direct fields close
  | .arr [] close => do
    Decoded.ofFault (Draft.check close)
    Decoded.mismatch (.missingField "type")
  | .arr (tag :: items) close => do
    let kind ← PredicateKind.read .direct tag
    let items ← Decoded.ofFault (Draft.settleItems items)
    Decoded.ofFault (Draft.check close)
    kind.readElements items
  | .deep _ => Decoded.malformed
  | d => d.wrongType "internally tagged enum Predicate"

end Predicate

/-! ### Clauses -/

/-- A clause in JSON. -/
def Clause.toJson (c : Clause) : Json :=
  .obj (("connector", c.connector.toJson) :: c.predicate.taggedFields)

/-- A clause as an object: the connector is decoded when it is met, and the fields of the predicate
are set aside. -/
def Clause.shape (r : Reading) : Shape (Kept (Option Connector)) where
  title := "struct Where"
  fields := [.of "connector" Kept.decoded (fun c p => { p with decoded := some c })
    (Connector.read r)]
  other := Kept.keep

/-- Reads a clause, which is an object. -/
def Clause.read (r : Reading) : Draft → Decoded Clause
  | .obj fields close => do
    let p ← (Clause.shape r).readObject fields close { decoded := none } pure
    let predicate ← Predicate.readFields .setAside (Json.draftFields p.fields) none
    pure ⟨p.decoded.getD .and, predicate⟩
  | .deep (.obj ..) => Decoded.malformed
  | d => d.wrongType "struct Where"

end BoundSql
