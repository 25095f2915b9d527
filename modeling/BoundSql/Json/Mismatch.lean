import BoundSql.Json.Text
import BoundSql.Text.Quoted

/-!
# Mismatches

Why JSON cannot be decoded: the text is at fault, or the value has the wrong shape. The causes are
kept as data and turned into words in one place.
-/

namespace BoundSql

/-- What was found where something else was expected. -/
inductive Found where
  | null
  | bool (b : Bool)
  | number (n : JsonNumber)
  | text (s : String)
  | sequence
  | map

/-- What was found, in words. -/
def Found.describe : Found → String
  | .null => "null"
  | .bool b => if b then "boolean `true`" else "boolean `false`"
  | .number (.int n) => "integer `" ++ String.ofList (Json.intText n) ++ "`"
  | .number (.real x) =>
    "floating point `" ++ String.ofList (Json.numberText (.real x)) ++ "`"
  | .text s => "string " ++ Text.quoted s
  | .sequence => "sequence"
  | .map => "map"

/-- A value of the wrong shape. -/
inductive Mismatch where
  /-- a value of another type than expected -/
  | wrongType (found : Found) (expected : String)
  /-- a value of the right type outside the expected range -/
  | wrongValue (found : Found) (expected : String)
  /-- an array of the wrong length -/
  | wrongLength (length : Nat) (expected : String)
  | missingField (name : String)
  | duplicateField (name : String)
  | unknownField (name expected : String)
  | unknownVariant (name : String) (expected : List String)
  /-- a value that is none of the alternatives of a type -/
  | noAlternative (type : String)
  /-- a text that its type refuses, with the words of that type -/
  | refused (message : String)

/-- A list of names, each between backticks. -/
def ticked (names : List String) : String :=
  ", ".intercalate (names.map fun n => "`" ++ n ++ "`")

/-- A mismatch in words. -/
def Mismatch.message : Mismatch → String
  | .wrongType found expected =>
    "invalid type: " ++ found.describe ++ ", expected " ++ expected
  | .wrongValue found expected =>
    "invalid value: " ++ found.describe ++ ", expected " ++ expected
  | .wrongLength n expected => "invalid length " ++ n.repr ++ ", expected " ++ expected
  | .missingField name => "missing field " ++ ticked [name]
  | .duplicateField name => "duplicate field " ++ ticked [name]
  | .unknownField name expected =>
    "unknown field " ++ ticked [name] ++ ", expected " ++ ticked [expected]
  | .unknownVariant name expected =>
    "unknown variant " ++ ticked [name] ++ ", expected one of " ++ ticked expected
  | .noAlternative type => "data did not match any variant of untagged enum " ++ type
  | .refused message => message

/-- Why JSON cannot be decoded. -/
inductive DecodeError where
  | fault (f : Fault)
  | mismatch (m : Mismatch)

/-- Why decoding failed, in words. -/
def DecodeError.message : DecodeError → String
  | .fault .truncated => "the text ends too early"
  | .fault .malformed => "the text is not JSON"
  | .mismatch m => m.message

/-- The outcome of decoding. -/
abbrev Decoded := Except DecodeError

namespace Decoded

/-- An outcome in which only the text can be at fault. -/
def ofFault {α : Type} : Except Fault α → Decoded α
  | .ok a => .ok a
  | .error f => .error (.fault f)

/-- Decoding fails because the text is not JSON. -/
def malformed {α : Type} : Decoded α := .error (.fault .malformed)

/-- Decoding fails because the value has the wrong shape. -/
def mismatch {α : Type} (m : Mismatch) : Decoded α := .error (.mismatch m)

/-- The value, unless decoding failed. -/
def toOption {α : Type} : Decoded α → Option α
  | .ok a => some a
  | .error _ => none

end Decoded

namespace Draft

/-- What stands in a draft. -/
def found : Draft → Except Fault Found
  | .null => .ok .null
  | .bool b => .ok (.bool b)
  | .num (some n) => .ok (.number n)
  | .num none => .error .malformed
  | .str (some s) => .ok (.text s)
  | .str none => .error .malformed
  | .arr .. => .ok .sequence
  | .obj .. => .ok .map
  | .deep (.arr ..) => .ok .sequence
  | .deep _ => .ok .map
  | .missing => .error .truncated
  | .torn _ f _ => .error f

/-- Decoding fails because something else was expected. -/
def wrongType {α : Type} (expected : String) (d : Draft) : Decoded α := do
  let found ← Decoded.ofFault d.found
  Decoded.mismatch (.wrongType found expected)

end Draft

end BoundSql
