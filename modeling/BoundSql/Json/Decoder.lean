import BoundSql.Json.Mismatch

/-!
# Decoders

Decoders for the simple types, for lists, for types whose values are names, and for records. They
work on drafts, in the order of the text.
-/

namespace BoundSql

/-- Where a draft comes from. The three differ where an array is longer than the record that it
stands for, and where a name is due. -/
inductive Reading where
  /-- straight from a text -/
  | direct
  /-- from a document that has been read as a whole -/
  | document
  /-- from a part that was set aside until its type was known -/
  | setAside
deriving DecidableEq

/-- A count of elements in words. -/
def elements (n : Nat) : String :=
  if n = 1 then "1 element" else n.repr ++ " elements"

namespace Draft

/-- A truth value. -/
def readBool : Draft → Decoded Bool
  | .bool b => .ok b
  | d => d.wrongType "a boolean"

/-- A string. -/
def readString : Draft → Decoded String
  | .str (some s) => .ok s
  | d => d.wrongType "a string"

/-- A 64-bit integer without sign. -/
def readWord : Draft → Decoded UInt64
  | .num (some (.int n)) =>
    if 0 ≤ n ∧ n < 18446744073709551616 then .ok (UInt64.ofNat n.toNat)
    else Decoded.mismatch (.wrongValue (.number (.int n)) "u64")
  | d => d.wrongType "u64"

/-- A value that may be absent. -/
def readOption {α : Type} (read : Draft → Decoded α) : Draft → Decoded (Option α)
  | .null => .ok none
  | d => some <$> read d

/-- A list. -/
def readList {α : Type} (read : Draft → Decoded α) : Draft → Decoded (List α)
  | .arr items close => do
    let values ← items.mapM read
    Decoded.ofFault (check close)
    pure values
  | .deep (.arr ..) => Decoded.malformed
  | d => d.wrongType "a sequence"

/-- The value with a name, out of named values. -/
def variant {α : Type} (names : List (String × α)) (s : String) : Decoded α :=
  match names.lookup s with
  | some a => .ok a
  | none => Decoded.mismatch (.unknownVariant s (names.map Prod.fst))

/-- The payload of a name that has none. -/
def readUnit (r : Reading) : Draft → Decoded Unit
  | .null => .ok ()
  | .obj [] none => if r = .setAside then .ok () else Decoded.mismatch (.wrongType .map "unit")
  | d => d.wrongType "unit"

/-- A name straight from a text, or an object with the name as its only key. Anything else is
malformed, even where it could be a value of another type. -/
def readNameDirect {α : Type} (names : List (String × α)) : Draft → Decoded α
  | .str (some s) => variant names s
  | .torn true f _ => .error (.fault f)
  | .missing => .error (.fault .truncated)
  | .obj [] (some f) => .error (.fault f)
  | .obj ((k, d) :: rest) close => do
    let s ← Decoded.ofFault k.key
    let a ← variant names s
    readUnit .direct d
    if rest.isEmpty then
      Decoded.ofFault (check close)
      pure a
    else Decoded.malformed
  | _ => Decoded.malformed

/-- A name, or an object with the name as its only key, from what has been read before. -/
def readNameSettled {α : Type} (r : Reading) (names : List (String × α)) : Draft → Decoded α
  | .str (some s) => variant names s
  | .obj [(.str (some s), d)] _ => do
    let a ← variant names s
    readUnit r d
    pure a
  | .obj _ _ => Decoded.mismatch (.wrongValue .map "map with a single key")
  | d => d.wrongType "string or map"

/-- One of the named values of a type. -/
def readName {α : Type} (r : Reading) (names : List (String × α)) (d : Draft) : Decoded α :=
  match r with
  | .direct => readNameDirect names d
  | r => readNameSettled r names d

/-- Decodes a value whose type has several forms: it is settled first, and then the forms are
tried. -/
def readForms {α : Type} (type : String) (forms : Json → Option α) (d : Draft) : Decoded α := do
  let v ← Decoded.ofFault d.settle
  match forms v with
  | some a => pure a
  | none => Decoded.mismatch (.noAlternative type)

end Draft

/-- One field of a record under construction. -/
structure Field (σ : Type) where
  name : String
  /-- whether the field has been decoded -/
  isSet : σ → Bool
  /-- decodes the field and puts it into the record -/
  set : Draft → σ → Decoded σ

/-- The field with a name, a place in the record, and a decoder. -/
def Field.of {σ α : Type} (name : String) (get : σ → Option α) (put : α → σ → σ)
    (read : Draft → Decoded α) : Field σ where
  name
  isSet p := (get p).isSome
  set d p := do
    let a ← read d
    pure (put a p)

/-- A record as it stands in JSON: an object with its fields, or an array of them in order. -/
structure Shape (σ : Type) where
  /-- what is expected, in messages -/
  title : String
  fields : List (Field σ)
  /-- what becomes of a field that the record does not have -/
  other : String → Draft → σ → Decoded σ

namespace Shape

variable {σ : Type}

/-- A field that the record does not have is skipped. -/
def ignore (_ : String) (d : Draft) (p : σ) : Decoded σ := do
  Decoded.ofFault d.skip
  pure p

/-- Decodes the fields of an object, in order. -/
def readFields (s : Shape σ) : List (Draft × Draft) → σ → Decoded σ
  | [], p => .ok p
  | (k, d) :: rest, p => do
    let k ← Decoded.ofFault k.key
    match s.fields.find? (·.name == k) with
    | some f =>
      if f.isSet p then Decoded.mismatch (.duplicateField k)
      else do
        let p ← f.set d p
        s.readFields rest p
    | none => do
      let p ← s.other k d p
      s.readFields rest p

/-- Decodes the elements of an array as the fields in order, as far as there are both; gives back
the elements that are left over. -/
def readElements : List (Field σ) → List Draft → σ → Decoded (σ × List Draft)
  | f :: fs, d :: ds, p => do
    let p ← f.set d p
    readElements fs ds p
  | _, ds, p => .ok (p, ds)

/-- What an array that is too long for its record leads to. -/
def surplus {α : Type} (r : Reading) (given known : Nat) : Decoded α :=
  match r with
  | .direct => Decoded.malformed
  | .document => Decoded.mismatch (.wrongLength given "fewer elements in array")
  | .setAside => Decoded.mismatch (.wrongLength given (elements known ++ " in sequence"))

/-- Decodes a record from an array. It is too short if `finish` finds a field missing. -/
def readArray {α : Type} (s : Shape σ) (r : Reading) (items : List Draft) (close : Option Fault)
    (start : σ) (finish : σ → Except String α) : Decoded α := do
  let (p, rest) ← readElements s.fields items start
  if items.length < s.fields.length then Decoded.ofFault (Draft.check close)
  match finish p with
  | .error _ =>
    Decoded.mismatch (.wrongLength items.length
      (s.title ++ " with " ++ elements s.fields.length))
  | .ok a =>
    if rest.isEmpty then do
      Decoded.ofFault (Draft.check close)
      pure a
    else surplus r items.length s.fields.length

/-- Decodes a record from an object. -/
def readObject {α : Type} (s : Shape σ) (fields : List (Draft × Draft)) (close : Option Fault)
    (start : σ) (finish : σ → Except String α) : Decoded α := do
  let p ← s.readFields fields start
  Decoded.ofFault (Draft.check close)
  match finish p with
  | .ok a => pure a
  | .error name => Decoded.mismatch (.missingField name)

/-- Decodes a record from an object or an array. `finish` gives the record, or the name of a field
that it lacks. -/
def read {α : Type} (s : Shape σ) (r : Reading) (start : σ) (finish : σ → Except String α) :
    Draft → Decoded α
  | .obj fields close => s.readObject fields close start finish
  | .arr items close => s.readArray r items close start finish
  | .deep _ => Decoded.malformed
  | d => d.wrongType s.title

end Shape

/-- A field that a record must have. -/
def required {α : Type} (name : String) : Option α → Except String α
  | some a => .ok a
  | none => .error name

/-- Decodes a whole text: after the value only blanks may follow. -/
def decodeText {α : Type} (read : Draft → Decoded α) (s : String) : Decoded α := do
  let (d, rest) := Draft.ofChars s.toList
  let a ← read d
  if (Draft.dropBlanks rest).isEmpty then pure a else Decoded.malformed

end BoundSql
