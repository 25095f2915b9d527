import BoundSql.Proofs.Codec.Joins
import BoundSql.Proofs.Json.Printing
import BoundSql.Proofs.Payloads

/-!
# Queries that are written are read back

The text of a query is read as this query, with null for every double that is not finite. Each
type is read back from the document that it is written as, whatever its keys are put in order to;
no two forms of a value, of a reference or of a predicate are written alike.
-/

namespace BoundSql

open Decimal

/-! ### Values -/

/-- The value that is left of a value in JSON, where a double that is not finite becomes null. -/
def SqlValue.finite : SqlValue → SqlValue
  | .float x => if x.isFinite then .float x else .null
  | v => v

lemma byte?_toNat (b : UInt8) : byte? (.num (.int b.toNat)) = some b := by
  have hb := b.toNat_lt
  rw [byte?, if_pos (by omega), Int.toNat_natCast, UInt8.ofNat_toNat]

/-- A list is decoded item by item as it was written. -/
lemma mapM_map_eq_some {α β γ : Type} {read : β → Option γ} {write : α → β} {f : α → γ}
    (h : ∀ a, read (write a) = some (f a)) (as : List α) :
    (as.map write).mapM read = some (as.map f) := by
  have hcomp : read ∘ write = fun a => some (f a) := funext h
  rw [List.mapM_map, hcomp]
  exact List.mapM_pure

lemma mapM_byte? (bytes : List UInt8) :
    (bytes.map fun b => Json.num (.int b.toNat)).mapM byte? = some bytes := by
  rw [mapM_map_eq_some byte?_toNat, List.map_id']

lemma SqlValue.ofJson?_toJson (v : SqlValue) : ofJson? v.toJson = some v.finite := by
  cases v with
  | null | bool b | text s => rfl
  | int n =>
    have hn : isSignedWord n.toInt = true := by
      simp only [isSignedWord, Bool.and_eq_true, decide_eq_true_eq]
      exact ⟨n.le_toInt, n.toInt_lt⟩
    rw [toJson, ofJson?, if_pos hn, Int64.ofInt_toInt]
    rfl
  | float x =>
    rw [toJson, finite]
    split_ifs <;> rfl
  | blob bytes =>
    rw [toJson, ofJson?, mapM_byte?]
    rfl

/-- No bound value is written like an expression. -/
lemma Expression.ofJson?_toJson (v : SqlValue) : ofJson? v.toJson = none := by
  cases v with
  | null | bool b | int n | text s => rfl
  | float x =>
    rw [SqlValue.toJson]
    split_ifs <;> rfl
  | blob bytes =>
    match bytes with
    | [] | [b] | b :: b' :: bytes => rfl

lemma Value.ofJson?_toJson (v : Value) : ofJson? v.toJson = some (v.mapParam .finite) := by
  cases v with
  | expr e => rfl
  | param v =>
    rw [toJson, ofJson?, Expression.ofJson?_toJson]
    simp [SqlValue.ofJson?_toJson, mapParam]

lemma Identifier.ofJson?_toJson (i : Identifier) : ofJson? i.toJson = some i := by
  cases i <;> rfl

lemma SqlValue.canonical_toJson (v : SqlValue) : v.toJson.canonical = v.toJson := by
  cases v with
  | null | bool b | int n | text s => rfl
  | float x =>
    rw [toJson]
    split_ifs <;> rfl
  | blob bytes =>
    rw [toJson, Json.canonical, Json.canonicalItems_eq_map, List.map_map]
    rfl

lemma Value.canonical_toJson (v : Value) : v.toJson.canonical = v.toJson := by
  cases v with
  | expr e => rfl
  | param v => exact v.canonical_toJson

lemma Identifier.canonical_toJson (i : Identifier) : i.toJson.canonical = i.toJson := by
  cases i <;> rfl

/-- A value is read as it is written, but for a double that is not finite. -/
lemma Value.read_toJson (v : Value) :
    Value.read v.toJson.canonical.draft = .ok (v.mapParam .finite) := by
  rw [canonical_toJson]
  exact Draft.readForms_draft.mpr v.ofJson?_toJson

/-- A reference is read as it is written. -/
lemma Identifier.read_toJson (i : Identifier) :
    Identifier.read i.toJson.canonical.draft = .ok i := by
  rw [canonical_toJson]
  exact Draft.readForms_draft.mpr i.ofJson?_toJson

/-! ### Lists -/

/-- A list is read as it is written if its items are. -/
lemma Draft.readList_map {α : Type} {read : Draft → Decoded α} {write : α → Json} {f : α → α}
    (h : ∀ a, read (write a).canonical.draft = .ok (f a)) (as : List α) :
    readList read (Json.arr (as.map write)).canonical.draft = .ok (as.map f) := by
  rw [Json.canonical, Json.canonicalItems_eq_map]
  refine readList_draft.mpr ⟨_, rfl, ?_⟩
  simp only [List.map_map, List.forall₂_map_left_iff, List.forall₂_map_right_iff, Function.comp]
  exact List.forall₂_same.mpr fun a _ => h a

/-! ### Names -/

lemma Operator.read_toJson (op : Operator) :
    Operator.read .setAside op.toJson.canonical.draft = .ok op := by
  cases op <;> rfl

lemma Connector.read_toJson (c : Connector) :
    Connector.read .document c.toJson.canonical.draft = .ok c := by
  cases c <;> rfl

lemma Direction.parse_keyword (d : Direction) : parse d.keyword = .ok d := by
  cases d <;> cbv

lemma Direction.read_toJson (d : Direction) :
    Direction.read d.toJson.canonical.draft = .ok d := by
  have hkeyword : Draft.readString d.toJson.canonical.draft = .ok d.keyword := rfl
  rw [Direction.read, hkeyword, ok_bind, parse_keyword]
  rfl

lemma PredicateKind.read_tag (k : PredicateKind) :
    PredicateKind.read .setAside (Json.str k.tag).canonical.draft = .ok k := by
  cases k <;> rfl

lemma Draft.readString_str (s : String) : readString (Json.str s).draft = .ok s := rfl

/-! ### Joins, aggregates and sort keys -/

lemma Join.read_toJson (j : Join) : Join.read .document j.toJson.canonical.draft = .ok j := by
  obtain ⟨kind, table, on?⟩ := j
  have hkind : (kind.toJson.canonical.nameOf? .document).bind (JoinKind.names.lookup ·)
      = some kind := by
    cases kind <;> rfl
  have hidentifier : ∀ i : Identifier, Identifier.ofJson? i.toJson.canonical = some i := by
    intro i
    rw [i.canonical_toJson, i.ofJson?_toJson]
  cases on? with
  | none =>
    change Join.read .document (Json.obj [("table", table.toJson.canonical),
      ("type", kind.toJson.canonical)]).draft = _
    rw [Join.read_obj (by decide) (by simp)]
    simp [ofObject?, JoinKind.ofObject?, JoinCondition.ofObject?, List.lookup, hkind, hidentifier]
  | some on =>
    obtain ⟨first, operator, second⟩ := on
    have hoperator : (operator.toJson.canonical.nameOf? .setAside).bind (Operator.names.lookup ·)
        = some operator := by
      cases operator <;> rfl
    change Join.read .document (Json.obj [("column1", first.toJson.canonical),
      ("column2", second.toJson.canonical), ("operator", operator.toJson.canonical),
      ("table", table.toJson.canonical), ("type", kind.toJson.canonical)]).draft = _
    rw [Join.read_obj (by decide) (by simp)]
    simp [ofObject?, JoinKind.ofObject?, JoinCondition.ofObject?, List.lookup, hkind, hidentifier,
      hoperator]

lemma Aggregate.read_toJson (a : Aggregate) :
    Aggregate.read .document a.toJson.canonical.draft = .ok a := by
  change Shape.readObject _ (Json.draftFields
    [("aggregator", .str a.function), ("column", a.column.toJson.canonical)]) none _ _ = _
  refine Shape.readObject_eq_ok.mpr ⟨⟨some a.function, some a.column⟩, ?_, rfl⟩
  rw [Shape.readFields_own rfl rfl (Field.set_ok (Draft.readString_str _)),
    Shape.readFields_own rfl rfl (Field.set_ok a.column.read_toJson), Shape.readFields_nil]

lemma SortKey.read_toJson (k : SortKey) :
    SortKey.read .document k.toJson.canonical.draft = .ok k := by
  change Shape.readObject _ (Json.draftFields [("column", k.column.toJson.canonical),
    ("direction", k.direction.toJson.canonical)]) none _ _ = _
  refine Shape.readObject_eq_ok.mpr ⟨⟨some k.column, some k.direction⟩, ?_, rfl⟩
  rw [Shape.readFields_own rfl rfl (Field.set_ok k.column.read_toJson),
    Shape.readFields_own rfl rfl (Field.set_ok k.direction.read_toJson), Shape.readFields_nil]

/-! ### Clauses -/

namespace Predicate

/-- The fields of a predicate are read as they are written. -/
lemma readFields_canonical (p : Predicate) :
    p.kind.readFields (Json.canonicalFields p.fields []) = .ok (p.mapParams .finite) := by
  cases p with
  | compare column op value =>
    change PredicateKind.readFields _ [("column", column.toJson.canonical),
      ("operator", op.toJson.canonical), ("value", value.toJson.canonical)] = _
    refine Shape.readObject_eq_ok.mpr
      ⟨{ column := some column, operator := some op, value := some (value.mapParam .finite) },
        ?_, rfl⟩
    rw [Shape.readFields_own rfl rfl (Field.set_ok column.read_toJson),
      Shape.readFields_own rfl rfl (Field.set_ok op.read_toJson),
      Shape.readFields_own rfl rfl (Field.set_ok value.read_toJson), Shape.readFields_nil]
  | isIn column values | notIn column values =>
    have hvalues := Draft.readList_map Value.read_toJson values
    change PredicateKind.readFields _ [("column", column.toJson.canonical),
      ("values", (Json.arr (values.map Value.toJson)).canonical)] = _
    refine Shape.readObject_eq_ok.mpr
      ⟨{ column := some column, values := some (values.map (Value.mapParam .finite)) }, ?_, rfl⟩
    rw [Shape.readFields_own rfl rfl (Field.set_ok column.read_toJson),
      Shape.readFields_own rfl rfl (Field.set_ok hvalues), Shape.readFields_nil]
  | isNull column | notNull column =>
    change PredicateKind.readFields _ [("column", column.toJson.canonical)] = _
    refine Shape.readObject_eq_ok.mpr ⟨{ column := some column }, ?_, rfl⟩
    rw [Shape.readFields_own rfl rfl (Field.set_ok column.read_toJson), Shape.readFields_nil]
  | between column low high | notBetween column low high =>
    change PredicateKind.readFields _ [("column", column.toJson.canonical),
      ("high", high.toJson.canonical), ("low", low.toJson.canonical)] = _
    refine Shape.readObject_eq_ok.mpr
      ⟨{ column := some column, high := some (high.mapParam .finite),
         low := some (low.mapParam .finite) }, ?_, rfl⟩
    rw [Shape.readFields_own rfl rfl (Field.set_ok column.read_toJson),
      Shape.readFields_own rfl rfl (Field.set_ok high.read_toJson),
      Shape.readFields_own rfl rfl (Field.set_ok low.read_toJson), Shape.readFields_nil]
  | compareColumns first op second =>
    change PredicateKind.readFields _ [("first", first.toJson.canonical),
      ("operator", op.toJson.canonical), ("second", second.toJson.canonical)] = _
    refine Shape.readObject_eq_ok.mpr
      ⟨{ first := some first, operator := some op, second := some second }, ?_, rfl⟩
    rw [Shape.readFields_own rfl rfl (Field.set_ok first.read_toJson),
      Shape.readFields_own rfl rfl (Field.set_ok op.read_toJson),
      Shape.readFields_own rfl rfl (Field.set_ok second.read_toJson), Shape.readFields_nil]
  | raw sql =>
    change PredicateKind.readFields _ [("sql", .str sql)] = _
    refine Shape.readObject_eq_ok.mpr ⟨{ sql := some sql }, ?_, rfl⟩
    rw [Shape.readFields_own rfl rfl (Field.set_ok (Draft.readString_str sql)),
      Shape.readFields_nil]

lemma picks_taggedShape (r : Reading) :
    (taggedShape r).Picks "type" (PredicateKind.read r) := ⟨rfl, rfl⟩

/-- A predicate is decoded from the fields beside its tag. -/
lemma readFields_of_lookup {r : Reading} {fields : List (String × Json)}
    (hnodup : (fields.map Prod.fst).Nodup) {v : Json} {kind : PredicateKind}
    (hv : fields.lookup "type" = some v) (hkind : PredicateKind.read r v.draft = .ok kind) :
    readFields r (Json.draftFields fields) none
      = kind.readFields (fields.filter (·.1 != "type")) := by
  have hp := (picks_taggedShape r).readFields hnodup hv hkind
  rw [readFields, Shape.readObject_of_readFields hp]
  rfl

end Predicate

namespace Clause

lemma picks_shape (r : Reading) : (shape r).Picks "connector" (Connector.read r) := ⟨rfl, rfl⟩

/-- A clause is decoded from its connector and the fields beside it. -/
lemma read_of_lookup {r : Reading} {fields : List (String × Json)}
    (hnodup : (fields.map Prod.fst).Nodup) {v : Json} {connector : Connector}
    (hv : fields.lookup "connector" = some v)
    (hconnector : Connector.read r v.draft = .ok connector) :
    Clause.read r (Json.obj fields).draft = Clause.mk connector <$> Predicate.readFields .setAside
      (Json.draftFields (fields.filter (·.1 != "connector"))) none := by
  have hp := (picks_shape r).readFields hnodup hv hconnector
  rw [Json.draft, Clause.read, Shape.readObject_of_readFields hp]
  change (Predicate.readFields .setAside
      (Json.draftFields (fields.filter (·.1 != "connector"))) none
    >>= fun predicate => pure (Clause.mk connector predicate)) = _
  cases Predicate.readFields .setAside
    (Json.draftFields (fields.filter (·.1 != "connector"))) none <;> rfl

/-- The fields of a clause in a document. -/
def documentFields (c : Clause) : List (String × Json) :=
  Json.canonicalFields (("connector", c.connector.toJson) :: c.predicate.taggedFields) []

lemma canonical_toJson (c : Clause) : c.toJson.canonical = .obj c.documentFields := by
  rw [toJson, Json.canonical, documentFields]

lemma nodup_documentFields (c : Clause) : (c.documentFields.map Prod.fst).Nodup :=
  (Json.canonical_eq_obj c.canonical_toJson).1.nodup

lemma lookup_type (c : Clause) :
    c.documentFields.lookup "type" = some (.str c.predicate.kind.tag) := by
  obtain ⟨connector, predicate⟩ := c
  cases predicate <;> rfl

/-- A clause is read as it is written, but for doubles that are not finite. -/
lemma read_toJson (c : Clause) :
    Clause.read .document c.toJson.canonical.draft = .ok (c.mapParams .finite) := by
  have hconnector : c.documentFields.lookup "connector" = some c.connector.toJson.canonical := by
    obtain ⟨connector, predicate⟩ := c
    cases predicate <;> rfl
  have hfields : (c.documentFields.filter (·.1 != "connector")).filter (·.1 != "type")
      = Json.canonicalFields c.predicate.fields [] := by
    obtain ⟨connector, predicate⟩ := c
    cases predicate <;> rfl
  have htype : (c.documentFields.filter (·.1 != "connector")).lookup "type"
      = some (.str c.predicate.kind.tag) := by
    rw [lookup_filter (by simp), c.lookup_type]
  have hnodup := c.nodup_documentFields.sublist
    (List.filter_sublist (p := (·.1 != "connector")).map Prod.fst)
  rw [canonical_toJson, read_of_lookup c.nodup_documentFields hconnector c.connector.read_toJson,
    Predicate.readFields_of_lookup hnodup htype (PredicateKind.read_tag _), hfields,
    c.predicate.readFields_canonical]
  rfl

end Clause

/-! ### Queries -/

namespace Query

lemma readOption_map {α : Type} {read : Draft → Decoded α} {write : α → Json}
    (hnull : ∀ a, (write a).canonical.draft ≠ .null)
    (h : ∀ a, read (write a).canonical.draft = .ok a) (a? : Option α) :
    Draft.readOption read ((a?.map write).getD .null).canonical.draft = .ok a? := by
  cases a? with
  | none => rfl
  | some a =>
    rw [Option.map_some, Option.getD_some, Draft.readOption, h a]
    · rfl
    · exact hnull a

lemma readWord_toNat (n : UInt64) :
    Draft.readWord (Json.num (.int n.toNat)).canonical.draft = .ok n := by
  have hn := n.toNat_lt
  change Draft.readWord (Json.num (.int n.toNat)).draft = _
  rw [Json.draft, Draft.readWord, if_pos (by omega), Int.toNat_natCast, UInt64.ofNat_toNat]

lemma countJson_eq_map (n? : Option UInt64) :
    countJson n? = (n?.map fun n => Json.num (.int n.toNat)).getD .null := by
  cases n? <;> rfl

/-- A query is read as it is written, but for doubles that are not finite. -/
lemma read_toJson (q : Query) :
    Query.read .document q.toJson.canonical.draft = .ok (q.mapParams .finite) := by
  have haggregate := readOption_map
    (fun _ => by simp [Aggregate.toJson, Json.canonical, Json.draft])
    Aggregate.read_toJson q.aggregate?
  have hcolumns := Draft.readList_map Identifier.read_toJson q.columns
  have hjoins := Draft.readList_map Join.read_toJson q.joins
  have hclauses := Draft.readList_map Clause.read_toJson q.clauses
  have hgroups := Draft.readList_map Identifier.read_toJson q.groups
  have hsortKeys := Draft.readList_map SortKey.read_toJson q.sortKeys
  have hcount := readOption_map (fun _ => by simp [Json.canonical, Json.draft]) readWord_toNat
  have hlimit := hcount q.limit?
  have hoffset := hcount q.offset?
  have hdistinct : Draft.readBool (Json.bool q.distinct).draft = .ok q.distinct := rfl
  rw [← countJson_eq_map] at hlimit hoffset
  simp only [List.map_id'] at hcolumns hjoins hgroups hsortKeys
  change Shape.readObject _ (Json.draftFields [
    ("aggregate", ((q.aggregate?.map Aggregate.toJson).getD .null).canonical),
    ("distinct", .bool q.distinct),
    ("from", q.table.toJson.canonical),
    ("groups", (Json.arr (q.groups.map Identifier.toJson)).canonical),
    ("joins", (Json.arr (q.joins.map Join.toJson)).canonical),
    ("limit", (countJson q.limit?).canonical),
    ("offset", (countJson q.offset?).canonical),
    ("orderings", (Json.arr (q.sortKeys.map SortKey.toJson)).canonical),
    ("selects", (Json.arr (q.columns.map Identifier.toJson)).canonical),
    ("wheres", (Json.arr (q.clauses.map Clause.toJson)).canonical)]) none _ _ = _
  refine Shape.readObject_eq_ok.mpr
    ⟨⟨some q.table, some q.columns, some q.distinct, some q.aggregate?, some q.joins,
      some (q.clauses.map (Clause.mapParams .finite)), some q.groups, some q.sortKeys,
      some q.limit?, some q.offset?⟩, ?_, rfl⟩
  rw [Shape.readFields_own rfl rfl (Field.set_ok haggregate),
    Shape.readFields_own rfl rfl (Field.set_ok hdistinct),
    Shape.readFields_own rfl rfl (Field.set_ok q.table.read_toJson),
    Shape.readFields_own rfl rfl (Field.set_ok hgroups),
    Shape.readFields_own rfl rfl (Field.set_ok hjoins),
    Shape.readFields_own rfl rfl (Field.set_ok hlimit),
    Shape.readFields_own rfl rfl (Field.set_ok hoffset),
    Shape.readFields_own rfl rfl (Field.set_ok hsortKeys),
    Shape.readFields_own rfl rfl (Field.set_ok hcolumns),
    Shape.readFields_own rfl rfl (Field.set_ok hclauses), Shape.readFields_nil]

/-- The tags of a query in a document are those of its clauses. -/
lemma clauseTags_toJson (q : Query) :
    clauseTags q.toJson.canonical = q.clauses.map (·.predicate.kind.tag) := by
  have hclauses : (Json.arr (q.clauses.map Clause.toJson)).canonical
      = .arr (q.clauses.map fun c => .obj c.documentFields) := by
    rw [Json.canonical, Json.canonicalItems_eq_map, List.map_map]
    exact congrArg _ (List.map_congr_left fun c _ => c.canonical_toJson)
  obtain ⟨fields, hfields, hlookup⟩ : ∃ fields, q.toJson.canonical = .obj fields ∧
      fields.lookup "wheres" = some (Json.arr (q.clauses.map Clause.toJson)).canonical :=
    ⟨_, rfl, rfl⟩
  rw [hclauses] at hlookup
  simp only [hfields, clauseTags, hlookup]
  rw [List.filterMap_map, ← List.filterMap_eq_map]
  refine List.filterMap_congr fun c _ => ?_
  simp only [Function.comp, c.lookup_type]

lemma forM_parse_tag (kinds : List PredicateKind) :
    ((kinds.map PredicateKind.tag).forM fun tag => do
      let _ ← PredicateKind.parse tag) = (.ok () : Except Error Unit) := by
  induction kinds with
  | nil => rfl
  | cons k ks ih =>
    have hparse : PredicateKind.parse k.tag = .ok k := by
      rw [PredicateKind.parse, PredicateKind.ofTag?_tag]
    rw [List.forM_eq_forM] at ih ⊢
    rw [List.map_cons, List.forM_cons, hparse]
    exact ih

end Query

/-! ### Depth -/

open Json

lemma Json.Fits.list {α : Type} {n : Nat} {write : α → Json} (h : ∀ a, Fits n (write a))
    (as : List α) : Fits (n + 1) (.arr (as.map write)) :=
  .arr fun v hv => by
    obtain ⟨a, -, rfl⟩ := List.mem_map.mp hv
    exact h a

lemma SqlValue.fits_toJson (v : SqlValue) : Fits 1 v.toJson := by
  cases v with
  | null => exact .null
  | bool b => exact .bool b
  | int n =>
    have hle := n.le_toInt
    have hlt := n.toInt_lt
    refine .int ?_
    simp only [isWord, Bool.and_eq_true, decide_eq_true_eq]
    omega
  | float x =>
    rw [toJson]
    split_ifs with hfinite
    · exact .real hfinite
    · exact .null
  | text s => exact .str s
  | blob bytes =>
    refine Fits.list (n := 0) (fun b => .int ?_) bytes
    have hb := b.toNat_lt
    simp only [isWord, Bool.and_eq_true, decide_eq_true_eq]
    omega

lemma Expression.fits_toJson (e : Expression) : Fits 1 e.toJson :=
  .obj (by simp [Fits.str])

lemma Value.fits_toJson (v : Value) : Fits 1 v.toJson := by
  cases v with
  | expr e => exact e.fits_toJson
  | param v => exact v.fits_toJson

lemma Identifier.fits_toJson (i : Identifier) : Fits 1 i.toJson := by
  cases i with
  | expr e => exact e.fits_toJson
  | name s => exact .str s

lemma Join.fits_toJson (j : Join) : Fits 2 j.toJson := by
  obtain ⟨kind, table, on?⟩ := j
  cases on? with
  | none =>
    refine .obj ?_
    simp [table.fits_toJson, JoinKind.toJson, Fits.str]
  | some on =>
    refine .obj ?_
    simp [table.fits_toJson, on.first.fits_toJson, on.second.fits_toJson, JoinKind.toJson,
      JoinCondition.fields, Operator.toJson, Fits.str]

lemma Aggregate.fits_toJson (a : Aggregate) : Fits 2 a.toJson :=
  .obj (by simp [a.column.fits_toJson, Fits.str])

lemma SortKey.fits_toJson (k : SortKey) : Fits 2 k.toJson :=
  .obj (by simp [k.column.fits_toJson, Direction.toJson, Fits.str])

lemma Clause.fits_toJson (c : Clause) : Fits 3 c.toJson := by
  obtain ⟨connector, p⟩ := c
  have hcolumn : ∀ i : Identifier, Fits 2 i.toJson := fun i => i.fits_toJson.mono (by decide)
  have hvalue : ∀ v : Value, Fits 2 v.toJson := fun v => v.fits_toJson.mono (by decide)
  have hvalues : ∀ vs : List Value, Fits 2 (.arr (vs.map Value.toJson)) :=
    Fits.list Value.fits_toJson
  refine .obj ?_
  cases p <;> simp [Predicate.taggedFields, Predicate.fields, hcolumn, hvalue, hvalues, Fits.str,
    Connector.toJson, Operator.toJson]

lemma Query.fits_toJson (q : Query) : Fits 5 q.toJson := by
  have hcolumn : Fits 4 q.table.toJson := q.table.fits_toJson.mono (by decide)
  have hcolumns : Fits 4 (.arr (q.columns.map Identifier.toJson)) :=
    (Fits.list Identifier.fits_toJson _).mono (by decide)
  have hjoins : Fits 4 (.arr (q.joins.map Join.toJson)) :=
    (Fits.list Join.fits_toJson _).mono (by decide)
  have hclauses : Fits 4 (.arr (q.clauses.map Clause.toJson)) := Fits.list Clause.fits_toJson _
  have hgroups : Fits 4 (.arr (q.groups.map Identifier.toJson)) :=
    (Fits.list Identifier.fits_toJson _).mono (by decide)
  have hsortKeys : Fits 4 (.arr (q.sortKeys.map SortKey.toJson)) :=
    (Fits.list SortKey.fits_toJson _).mono (by decide)
  have haggregate : Fits 4 ((q.aggregate?.map Aggregate.toJson).getD .null) := by
    cases q.aggregate? with
    | none => exact .null
    | some a => exact a.fits_toJson.mono (by decide)
  have hcount : ∀ n? : Option UInt64, Fits 4 (countJson n?) := by
    intro n?
    cases n? with
    | none => exact .null
    | some n =>
      have hn := n.toNat_lt
      refine .int ?_
      simp only [isWord, Bool.and_eq_true, decide_eq_true_eq]
      omega
  refine .obj ?_
  simp [hcolumn, hcolumns, hjoins, hclauses, hgroups, hsortKeys, haggregate, hcount, Fits.bool]

namespace Query

/-- A query is read back from its text, but for doubles that are not finite. -/
lemma ofText_toText (q : Query) : ofText q.text = .ok (q.mapParams .finite) := by
  have hdocument : Json.documentOfText q.text = .ok q.toJson.canonical := by
    rw [Json.documentOfText, text, q.fits_toJson.ofText (by decide)]
    rfl
  have htags := forM_parse_tag (q.clauses.map (·.predicate.kind))
  rw [List.map_map] at htags
  rw [ofText, hdocument]
  change ofDocument _ = _
  rw [ofDocument, clauseTags_toJson, read_toJson]
  rw [Function.comp_def] at htags
  rw [htags]
  rfl

end Query

end BoundSql
