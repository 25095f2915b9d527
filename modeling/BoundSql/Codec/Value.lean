import BoundSql.Json.Decoder
import BoundSql.Row

/-!
# Values in JSON

An expression is written `{"raw": …}`, a name as a string, and a value as the JSON value that it
is: bytes are an array of small integers, and a double that is not finite is `null`. Values, names
and rows are read by their form, so each of these types tries its forms in a fixed order.
-/

namespace BoundSql

open Decimal

/-! ### Expressions -/

/-- An expression in JSON. -/
def Expression.toJson (e : Expression) : Json := .obj [("raw", .str e.raw)]

/-- An expression as one of the forms of another type: an object with the one field, or an array
of one string. -/
def Expression.ofJson? : Json → Option Expression
  | .obj [(k, .str s)] => if k = "raw" then some ⟨s⟩ else none
  | .arr [.str s] => some ⟨s⟩
  | _ => none

/-- An expression as a record, which refuses fields that it does not know. -/
def Expression.shape : Shape (Option String) where
  title := "struct Expression"
  fields := [Field.of "raw" id (fun s _ => some s) Draft.readString]
  other k _ _ := Decoded.mismatch (.unknownField k "raw")

/-- Reads an expression. -/
def Expression.read (r : Reading) : Draft → Decoded Expression :=
  Expression.shape.read r none fun p => Expression.mk <$> required "raw" p

/-! ### Values -/

/-- A byte, written as an integer. -/
def byte? : Json → Option UInt8
  | .num (.int n) => if 0 ≤ n ∧ n < 256 then some (UInt8.ofNat n.toNat) else none
  | _ => none

/-- A bound value in JSON. -/
def SqlValue.toJson : SqlValue → Json
  | .null => .null
  | .bool b => .bool b
  | .int n => .num (.int n.toInt)
  | .float x => if x.isFinite then .num (.real x) else .null
  | .text s => .str s
  | .blob bytes => .arr (bytes.map fun b => .num (.int b.toNat))

/-- Whether a whole number is one of the 64-bit integers with sign. -/
def isSignedWord (n : Int) : Bool :=
  -9223372036854775808 ≤ n && n < 9223372036854775808

/-- The bound value that a JSON value is. An integer beyond the 64-bit integers with sign is read
as a double. -/
def SqlValue.ofJson? : Json → Option SqlValue
  | .null => some .null
  | .bool b => some (.bool b)
  | .num (.int n) =>
    if isSignedWord n then some (.int (Int64.ofInt n))
    else (Double.ofDecimal? (n < 0) n.natAbs 0).map .float
  | .num (.real x) => some (.float x)
  | .str s => some (.text s)
  | .arr items => (items.mapM byte?).map .blob
  | .obj _ => none

/-- Reads a bound value. -/
def SqlValue.read : Draft → Decoded SqlValue :=
  Draft.readForms "SqlValue" SqlValue.ofJson?

/-- A value in JSON. -/
def Value.toJson : Value → Json
  | .expr e => e.toJson
  | .param v => v.toJson

/-- The value that a JSON value is: an expression if it has the form of one. -/
def Value.ofJson? (j : Json) : Option Value :=
  match Expression.ofJson? j with
  | some e => some (.expr e)
  | none => (SqlValue.ofJson? j).map .param

/-- Reads a value. -/
def Value.read : Draft → Decoded Value :=
  Draft.readForms "Value" Value.ofJson?

/-- A reference in JSON. -/
def Identifier.toJson : Identifier → Json
  | .expr e => e.toJson
  | .name s => .str s

/-- The reference that a JSON value is. -/
def Identifier.ofJson? (j : Json) : Option Identifier :=
  match Expression.ofJson? j, j with
  | some e, _ => some (.expr e)
  | none, .str s => some (.name s)
  | none, _ => none

/-- Reads a reference. -/
def Identifier.read : Draft → Decoded Identifier :=
  Draft.readForms "Identifier" Identifier.ofJson?

/-! ### Rows -/

/-- A row in JSON. -/
def Row.toJson (r : Row) : Json :=
  .obj (r.entries.map fun e => (e.1, e.2.toJson))

/-- The row that a JSON value is. -/
def Row.ofJson? : Json → Option Row
  | .obj fields =>
    (fields.mapM fun e => (Value.ofJson? e.2).map fun v => (e.1, v)).map Row.ofList
  | _ => none

/-- Reads a row, column by column. -/
def Row.read : Draft → Decoded Row
  | .obj fields close => do
    let entries ← fields.mapM fun (k, d) => do
      let column ← Decoded.ofFault k.key
      let value ← Value.read d
      pure (column, value)
    Decoded.ofFault (Draft.check close)
    pure (Row.ofList entries)
  | .deep (.obj ..) => Decoded.malformed
  | d => d.wrongType "a map"

/-- Rows in JSON. -/
def Rows.toJson : Rows → Json
  | .single r => r.toJson
  | .batch rs => .arr (rs.map Row.toJson)

/-- The rows that a JSON value is: an object is one row and an array is several. -/
def Rows.ofJson? : Json → Option Rows
  | .arr items => (items.mapM Row.ofJson?).map .batch
  | j => (Row.ofJson? j).map .single

/-- Reads rows. -/
def Rows.read : Draft → Decoded Rows :=
  Draft.readForms "InsertValues" Rows.ofJson?

end BoundSql
