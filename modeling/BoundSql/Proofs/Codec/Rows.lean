import BoundSql.Proofs.Codec.Written
import BoundSql.Proofs.Json.Reordered

/-!
# Rows that are written are read back

The text of what is inserted is read as the same rows, with null for every double that is not
finite: one row stays one row, several stay several, and each keeps its columns in their order.
Rows of finite doubles are therefore inserted in the same way before and after.
-/

namespace BoundSql

/-! ### Rows as maps -/

namespace Row

lemma entries_insert_of_notMem {r : Row} {column : String} (h : column ∉ r.columns)
    (value : Value) : (r.insert column value).entries = r.entries ++ [(column, value)] := by
  rw [insert, dif_neg h]

/-- Entries without a repeated column make the row of these entries. -/
lemma entries_ofList {entries : List (String × Value)} (h : (entries.map Prod.fst).Nodup) :
    (ofList entries).entries = entries := by
  induction entries using List.reverseRecOn with
  | nil => rfl
  | append_singleton es e ih =>
    rw [List.map_append, List.nodup_append] at h
    obtain ⟨hes, -, hfresh⟩ := h
    have hnew : e.1 ∉ (ofList es).columns := by
      rw [columns, ih hes]
      exact fun hmem => hfresh e.1 hmem e.1 (by simp) rfl
    rw [ofList, List.foldl_append, List.foldl_cons, List.foldl_nil]
    change ((ofList es).insert e.1 e.2).entries = _
    rw [entries_insert_of_notMem hnew, ih hes]

lemma ofList_entries (r : Row) : ofList r.entries = r := by
  obtain ⟨entries, hnodup⟩ := r
  have hentries : (ofList entries).entries = entries := entries_ofList hnodup
  cases hrow : ofList entries with | mk entries' hnodup' =>
  rw [hrow] at hentries
  cases hentries
  rfl

end Row

/-! ### Forms -/

/-- A row is decoded as it is written, column by column. -/
lemma Row.ofJson?_toJson (r : Row) : ofJson? r.toJson = some (r.mapParams .finite) := by
  have hentry : ∀ e : String × Value,
      (Value.ofJson? e.2.toJson).map (fun v => (e.1, v)) = some (mapEntry .finite e) := by
    intro e
    rw [e.2.ofJson?_toJson]
    rfl
  rw [toJson, ofJson?, mapM_map_eq_some hentry]
  exact congrArg some (ofList_entries (r.mapParams .finite))

/-- An object is one row and an array is several, so that neither is taken for the other. -/
lemma Rows.ofJson?_toJson (rows : Rows) : ofJson? rows.toJson = some (rows.mapParams .finite) := by
  cases rows with
  | single r =>
    change (Row.ofJson? r.toJson).map single = _
    rw [r.ofJson?_toJson]
    rfl
  | batch rs =>
    rw [toJson, ofJson?, mapM_map_eq_some Row.ofJson?_toJson]
    rfl

/-! ### Texts -/

open Json

lemma Row.fits_toJson (r : Row) : Fits 2 r.toJson :=
  .obj fun e he => by
    obtain ⟨e, -, rfl⟩ := List.mem_map.mp he
    exact e.2.fits_toJson

lemma Rows.fits_toJson (rows : Rows) : Fits 3 rows.toJson := by
  cases rows with
  | single r => exact r.fits_toJson.mono (by decide)
  | batch rs => exact Fits.list Row.fits_toJson rs

namespace Rows

/-- Rows whose doubles are finite are left as they are. -/
lemma mapParams_finite {rows : Rows}
    (h : ∀ r ∈ rows.toList, ∀ x, .param (.float x) ∈ r.values → x.isFinite = true) :
    rows.mapParams .finite = rows := by
  have hvalue : ∀ v : Value, (∀ x, v = .param (.float x) → x.isFinite = true) →
      v.mapParam .finite = v := by
    intro v hv
    cases v with
    | expr e => rfl
    | param v =>
      cases v with
      | float x => rw [Value.mapParam, SqlValue.finite, if_pos (hv x rfl)]
      | null | bool b | int n | text s | blob bytes => rfl
  have hrow : ∀ r ∈ rows.toList, r.mapParams .finite = r := by
    intro r hr
    obtain ⟨entries, hnodup⟩ := r
    simp only [Row.mapParams, Row.mk.injEq]
    refine (List.map_congr_left fun e he => ?_).trans entries.map_id
    refine Prod.ext rfl (hvalue e.2 fun x hx => h _ hr x ?_)
    exact hx ▸ List.mem_map_of_mem he
  cases rows with
  | single r => exact congrArg single (hrow r (by simp [toList]))
  | batch rs => exact congrArg batch ((List.map_congr_left hrow).trans rs.map_id)

/-- Rows that are read back are inserted as before, but for doubles that are not finite. -/
lemma compileInsert_mapParams (c : Config) (q : Query) (rows : Rows) (f : SqlValue → SqlValue) :
    q.compileInsert c (rows.mapParams f)
      = (fun s => { s with params := s.params.map f }) <$> q.compileInsert c rows := by
  have htemplate : q.insertTemplate c (rows.mapParams f)
      = Template.mapSlots f <$> q.insertTemplate c rows :=
    Query.insertTemplate_mapParams q rows
  rw [Query.compileInsert, Query.compileInsert, htemplate]
  cases q.insertTemplate c rows with
  | error e => rfl
  | ok t => simp [Functor.map, Except.map, Template.statement, Template.render]

/-- Rows are read back from their text, with null for doubles that are not finite, and inserted as
before with these nulls. Without such doubles nothing changes. -/
theorem decodeText_text (rows : Rows) :
    decodeText read rows.toJson.text = .ok (rows.mapParams SqlValue.finite) ∧
    (∀ (c : Config) (q : Query), q.compileInsert c (rows.mapParams SqlValue.finite)
      = (fun s => { s with params := s.params.map SqlValue.finite }) <$> q.compileInsert c rows) ∧
    ((∀ r ∈ rows.toList, ∀ x, .param (.float x) ∈ r.values → x.isFinite = true) →
      ∀ copy, decodeText read rows.toJson.text = .ok copy →
        copy = rows ∧
          ∀ (c : Config) (q : Query), q.compileInsert c copy = q.compileInsert c rows) := by
  have hread : decodeText read rows.toJson.text = .ok (rows.mapParams SqlValue.finite) := by
    rw [decodeText_of_ofText (rows.fits_toJson.ofText (by decide))]
    exact Draft.readForms_draft.mpr rows.ofJson?_toJson
  refine ⟨hread, fun c q => compileInsert_mapParams c q rows SqlValue.finite, ?_⟩
  intro hfinite copy hcopy
  have heq : copy = rows := by
    rw [← mapParams_finite hfinite]
    exact Except.ok.inj (hcopy.symm.trans hread)
  exact ⟨heq, fun c q => by rw [heq]⟩

/-- A row with a double, bytes and an expression. -/
def mixedRow : Row :=
  ⟨[("b", .param (.float ⟨0x3FF8000000000000⟩)), ("a", .param (.blob [7, 255])),
    ("raw", .expr ⟨"now()"⟩)], by decide⟩

/-- A row with the same columns in another order, and with a negative zero. -/
def turnedRow : Row :=
  ⟨[("raw", .param .null), ("b", .param (.float ⟨0x8000000000000000⟩)), ("a", .param (.text ""))],
    by decide⟩

/-- The text of a batch of the two rows. -/
def mixedText : String :=
  "[\x7b\"b\":1.5,\"a\":[7,255],\"raw\":\x7b\"raw\":\"now()\"\x7d\x7d,"
    ++ "\x7b\"raw\":null,\"b\":-0.0,\"a\":\"\"\x7d]"

/-- A batch comes back with its rows and columns in their order and is inserted as before; a row
with an infinity comes back as one row, with null. -/
theorem decodeText_mixedText :
    (Rows.batch [mixedRow, turnedRow]).toJson.text = mixedText ∧
    decodeText read mixedText = .ok (.batch [mixedRow, turnedRow]) ∧
    Query.compileInsert { dialect := .postgres } { table := .name "t" }
        ((Rows.batch [mixedRow, turnedRow]).mapParams SqlValue.finite) = .ok
      { sql := "INSERT INTO \"t\" (\"b\", \"a\", \"raw\") VALUES ($1, $2, now()), ($3, $4, $5)"
        params := [.float ⟨0x3FF8000000000000⟩, .blob [7, 255], .float ⟨0x8000000000000000⟩,
          .text "", .null] } ∧
    decodeText read
        (Rows.single ⟨[("a", .param (.float ⟨0x7FF0000000000000⟩))], by decide⟩).toJson.text
      = .ok (.single ⟨[("a", .param .null)], by decide⟩) := by
  have htext : (Rows.batch [mixedRow, turnedRow]).toJson.text = mixedText := by decide +kernel
  have hfinite : ∀ r ∈ (Rows.batch [mixedRow, turnedRow]).toList, ∀ x,
      .param (.float x) ∈ r.values → x.isFinite = true := by
    intro r hr x hx
    simp only [toList, List.mem_cons, List.not_mem_nil, or_false] at hr
    obtain rfl | rfl := hr
    all_goals
      simp only [Row.values, mixedRow, turnedRow, List.map_cons, List.map_nil, List.mem_cons,
        Value.param.injEq, SqlValue.float.injEq, reduceCtorEq, List.not_mem_nil, or_false,
        false_or] at hx
      subst hx
      decide
  obtain ⟨hread, -, hsame⟩ := decodeText_text (.batch [mixedRow, turnedRow])
  obtain ⟨heq, hinsert⟩ := hsame hfinite _ hread
  refine ⟨htext, ?_, ?_, ?_⟩
  · rw [← htext, hread, heq]
  · rw [hinsert]
    cbv
  · exact (decodeText_text (.single ⟨[("a", .param (.float ⟨0x7FF0000000000000⟩))], by decide⟩)).1

end Rows

end BoundSql
