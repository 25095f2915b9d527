import BoundSql.Dialect
import BoundSql.Text.Blank
import BoundSql.Value

/-!
# Templates

What a statement looks like before a dialect is chosen: literal text, names still to be quoted, and
slots for the values that are bound. Every dialect renders the same template, with its own quotes
and placeholders; the values of the slots, in order, are the parameters of the statement.
-/

namespace BoundSql

/-- A piece of a statement. -/
inductive Piece where
  | text (s : String)
  /-- part of a name, to be quoted -/
  | name (s : String)
  /-- the place of a bound value -/
  | slot (v : SqlValue)
deriving DecidableEq

/-- A statement, or a part of one, before a dialect is chosen. -/
abbrev Template := List Piece

/-- The values bound so far, in the order of their placeholders. -/
structure Bindings where
  values : List SqlValue := []
deriving DecidableEq

namespace Bindings

/-- How many values are bound. -/
def size (b : Bindings) : Nat := b.values.length

/-- Whether no value is bound. -/
def isEmpty (b : Bindings) : Bool := b.values.isEmpty

/-- Binds one more value. -/
def push (b : Bindings) (v : SqlValue) : Bindings := ⟨b.values ++ [v]⟩

/-- Binds more values. -/
def append (b : Bindings) (vs : List SqlValue) : Bindings := ⟨b.values ++ vs⟩

@[simp] theorem size_push (b : Bindings) (v : SqlValue) : (b.push v).size = b.size + 1 := by
  simp [size, push]

@[simp] theorem size_append (b : Bindings) (vs : List SqlValue) :
    (b.append vs).size = b.size + vs.length := by
  simp [size, append]

end Bindings

namespace Template

/-- The values of the slots, in order. -/
def params : Template → List SqlValue
  | [] => []
  | .slot v :: t => v :: params t
  | _ :: t => params t

/-- The characters of a template, when `bound` values are bound before it. -/
def chars (d : Dialect) : Nat → Template → List Char
  | _, [] => []
  | bound, .text s :: t => s.toList ++ chars d bound t
  | bound, .name s :: t => (d.quote s).toList ++ chars d bound t
  | bound, .slot _ :: t => (d.placeholder (bound + 1)).toList ++ chars d (bound + 1) t

/-- The text of a template, when `bound` values are bound before it. -/
def render (d : Dialect) (bound : Nat) (t : Template) : String :=
  String.ofList (chars d bound t)

/-- Templates with a text between each two of them. -/
def join (separator : String) (ts : List Template) : Template :=
  [Piece.text separator].intercalate ts

/-- A reversed template without the white space that it starts with. A name and a slot never end
in white space, so only text is cut. -/
def trimReversed : List Piece → List Piece
  | .text s :: t =>
    match Text.trimEnd s.toList with
    | [] => trimReversed t
    | cs => .text (String.ofList cs) :: t
  | t => t

/-- A template without the white space at its end. -/
def trimEnd (t : Template) : Template :=
  (trimReversed t.reverse).reverse

@[simp] theorem params_append (s t : Template) : params (s ++ t) = params s ++ params t := by
  induction s with
  | nil => rfl
  | cons p s ih => cases p <;> simp [params, ih]

/-- The second of two templates is rendered after the values of the first are bound. -/
theorem chars_append (d : Dialect) (s t : Template) (bound : Nat) :
    chars d bound (s ++ t) = chars d bound s ++ chars d (bound + (params s).length) t := by
  induction s generalizing bound with
  | nil => simp [chars, params]
  | cons p s ih => cases p <;> simp [chars, params, ih, Nat.add_assoc, Nat.add_comm]

end Template

/-- A compiled statement: its text, and the values of its placeholders in order. -/
structure Statement where
  sql : String
  params : List SqlValue
deriving DecidableEq

/-- The statement that a template is in a dialect. -/
def Template.statement (d : Dialect) (t : Template) : Statement :=
  ⟨t.render d 0, t.params⟩

end BoundSql
