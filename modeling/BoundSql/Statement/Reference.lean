import BoundSql.Error
import BoundSql.Template

/-!
# References

How tables, columns and values are written. A dotted name is quoted part by part, except that a
part `*` stays as it is; a name `expr AS alias` is quoted on both sides of the keyword.
-/

namespace BoundSql

/-- A part of a dotted name. -/
def segment (s : List Char) : Piece :=
  if s = ['*'] then .text "*" else .name (String.ofList s)

/-- A dotted name. -/
def path (cs : List Char) : Template :=
  Template.join "." ((cs.splitOn '.').map fun s => [segment s])

/-- Whether characters stand one after the other somewhere in a text. -/
def occursIn (cs : List Char) : List Char → Bool
  | [] => cs.isEmpty
  | d :: ds => cs.isPrefixOf (d :: ds) || occursIn cs ds

/-- Whether a name has a word `as` in it, in whatever case, and so is meant to have an alias. -/
def mentionsAlias (s : String) : Bool :=
  occursIn [' ', 'a', 's', ' '] s.toLower.toList

/-- The parts of a name of the form `expr AS alias`. -/
def aliasParts? (s : String) : Option (List Char × List Char) :=
  match Text.words s.toList with
  | [expr, keyword, label] =>
    if (String.ofList keyword).toLower = "as" then some (expr, label) else none
  | _ => none

/-- A name of a table or column, possibly with an alias. -/
def nameReference (s : String) : Except Error Template :=
  if mentionsAlias s then
    match aliasParts? s with
    | some (expr, label) => .ok (path expr ++ .text " AS " :: path label)
    | none => .error (.malformedAlias s)
  else .ok (path s.toList)

/-- A name of a column that is written to, which has no alias. -/
def columnReference (s : String) : Except Error Template :=
  if mentionsAlias s then .error (.aliasNotAllowed s) else .ok (path s.toList)

/-- A table or column. -/
def Identifier.template : Identifier → Except Error Template
  | .expr e => .ok [.text e.raw]
  | .name s => nameReference s

/-- Columns, separated by commas. -/
def columnList (columns : List Identifier) : Except Error Template := do
  let ts ← columns.mapM Identifier.template
  pure (Template.join ", " ts)

/-- A value: an expression as it is, or the slot of a bound value. -/
def Value.template : Value → Template
  | .expr e => [.text e.raw]
  | .param v => [.slot v]

/-- Values, separated by commas. -/
def valueList (values : List Value) : Template :=
  Template.join ", " (values.map Value.template)

end BoundSql
