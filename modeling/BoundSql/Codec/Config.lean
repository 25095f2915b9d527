import BoundSql.Codec.Query

/-!
# Configurations in JSON

A configuration is a record with a dialect, by default the generic one, and a switch for compound
inserts, by default off.
-/

namespace BoundSql

/-- The names of the dialects. -/
def Dialect.names : List (String × Dialect) :=
  [("generic", .generic), ("postgres", .postgres), ("postgresql", .postgres), ("mariadb", .mysql),
    ("mysql", .mysql), ("sqlite", .sqlite)]

/-- Reads a dialect. -/
def Dialect.read (r : Reading) : Draft → Decoded Dialect := Draft.readName r Dialect.names

/-- A dialect in JSON. -/
def Dialect.toJson (d : Dialect) : Json := .str d.keyword

/-- A configuration in JSON. -/
def Config.toJson (c : Config) : Json :=
  .obj [("dialect", c.dialect.toJson), ("compound_insert", .bool c.compoundInsert)]

/-- A configuration under construction. -/
structure ConfigParts where
  dialect : Option Dialect := none
  compoundInsert : Option Bool := none

/-- A configuration as a record. -/
def Config.shape (r : Reading) : Shape ConfigParts where
  title := "struct GrammarConfig"
  fields := [
    .of "dialect" ConfigParts.dialect (fun a p => { p with dialect := some a }) (Dialect.read r),
    .of "compound_insert" ConfigParts.compoundInsert
      (fun a p => { p with compoundInsert := some a }) Draft.readBool]
  other := Shape.ignore

/-- Reads a configuration. -/
def Config.read (r : Reading) : Draft → Decoded Config :=
  (Config.shape r).read r {} fun p =>
    pure ⟨p.dialect.getD .generic, p.compoundInsert.getD false⟩

end BoundSql
