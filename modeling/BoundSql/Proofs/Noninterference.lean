import BoundSql.Proofs.Payloads

/-!
# Bound values do not influence statements

Two commands of one shape, which differ at most in what they bind, fail with the same error or
compile to the same text. Their parameters then stand side by side: the two at one position come
from the same place of the two commands.
-/

namespace BoundSql

/-! ### Places of values -/

/-- Where a value stands in a command. -/
inductive Place where
  /-- a position in a clause, both counted from zero -/
  | clause (index position : Nat)
  /-- a column of a row, which is counted from zero -/
  | cell (row : Nat) (column : String)
deriving DecidableEq

namespace Query

/-- The value at a place of a query. -/
def valueAt (q : Query) : Place → Option Value
  | .clause index position => (q.clauses[index]?).bind fun c => c.predicate.values[position]?
  | .cell .. => none

/-- The places of the values of a query, clause by clause. -/
def places (q : Query) : List Place :=
  q.clauses.zipIdx.flatMap fun (c, index) =>
    (List.range c.predicate.values.length).map (.clause index)

end Query

/-- The places of the values of rows, row by row in the column order of the first. -/
def Rows.places (rows : Rows) : List Place :=
  match rows.toList with
  | [] => []
  | first :: rest => (List.range (first :: rest).length).flatMap fun row =>
      first.columns.map (.cell row)

namespace Command

/-- The value at a place of a command. -/
def valueAt : Command → Place → Option Value
  | .select q, place | .delete q, place => q.valueAt place
  | .insert _ rows, .cell row column => (rows.toList[row]?).bind fun r => r.get? column
  | .insert .., .clause .. => none
  | .update q _, .clause index position => q.valueAt (.clause index position)
  | .update _ row, .cell 0 column => row.get? column
  | .update .., .cell .. => none

/-- What is bound at a place of a command, if there is a value and it is no expression. -/
def boundAt (r : Command) (place : Place) : Option SqlValue := (r.valueAt place).bind Value.bound?

/-- The places of the values of a command in the order in which the statement has them. -/
def places : Command → List Place
  | .select q | .delete q => q.places
  | .insert _ rows => rows.places
  | .update q row => row.columns.map (.cell 0) ++ q.places

/-- The places at which a command binds something, in the order of the statement. -/
def boundPlaces (r : Command) : List Place := r.places.filter fun place => (r.boundAt place).isSome

/-- A command without what it binds: its tables, columns, expressions and raw texts, and where the
bound values stand. -/
def shape (r : Command) : Command := r.mapParams fun _ => .null

end Command

/-! ### What is bound, place by place -/

section List

variable {α β : Type}

lemma filterMap_range (xs : List α) (g : α → Option β) :
    ((List.range xs.length).filterMap fun k => (xs[k]?).bind g) = xs.filterMap g := by
  induction xs with
  | nil => rfl
  | cons x xs ih =>
    rw [List.length_cons, List.range_succ_eq_map, List.filterMap_cons, List.filterMap_map,
      List.filterMap_cons]
    simp only [List.getElem?_cons_zero, Option.bind_some, Function.comp_def, Nat.succ_eq_add_one,
      List.getElem?_cons_succ, ih]

lemma flatMap_range (xs : List α) (g : α → List β) :
    ((List.range xs.length).flatMap fun k => ((xs[k]?).map g).getD []) = xs.flatMap g := by
  induction xs with
  | nil => rfl
  | cons x xs ih =>
    rw [List.length_cons, List.range_succ_eq_map, List.flatMap_cons, List.flatMap_map,
      List.flatMap_cons]
    simp only [List.getElem?_cons_zero, Option.map_some, Option.getD_some,
      Nat.succ_eq_add_one, List.getElem?_cons_succ, ih]

lemma flatMap_zipIdx (xs : List α) (g : α → List β) :
    (xs.zipIdx.flatMap fun p => g p.1) = xs.flatMap g := by
  rw [← List.flatMap_map, List.zipIdx_map_fst]

end List

lemma Query.bound_eq_filterMap (q : Query) :
    q.bound = q.places.filterMap fun place => (q.valueAt place).bind Value.bound? := by
  rw [places, List.filterMap_flatMap, Query.bound, ← flatMap_zipIdx]
  apply List.flatMap_congr
  rintro ⟨c, index⟩ hc
  have hc : q.clauses[index]? = some c := List.mem_zipIdx_iff_getElem?.mp hc
  rw [List.filterMap_map, Predicate.bound, ← filterMap_range]
  simp [Function.comp_def, valueAt, hc]

lemma Row.bound_eq_filterMap (r : Row) :
    r.bound = r.columns.filterMap fun column => (r.get? column).bind Value.bound? := by
  obtain ⟨entries, hnodup⟩ := r
  rw [bound, values, columns, List.filterMap_map, List.filterMap_map]
  apply List.filterMap_congr
  intro e he
  have hlookup : entries.lookup e.1 = some e.2 := by
    obtain ⟨before, after, rfl⟩ := List.append_of_mem he
    refine List.lookup_eq_some_iff.mpr ⟨before, after, rfl, ?_⟩
    intro e' he'
    simp only [List.map_append, List.map_cons, List.nodup_append] at hnodup
    have hne : e'.1 ≠ e.1 := hnodup.2.2 _ (List.mem_map_of_mem he') _ List.mem_cons_self
    simpa [bne_iff_ne] using hne.symm
  simp [get?, hlookup]

lemma Rows.bound_eq_filterMap (rows : Rows) (q : Query) :
    rows.bound = rows.places.filterMap (Command.insert q rows).boundAt := by
  rw [Rows.bound, places]
  cases hrows : rows.toList with
  | nil => rfl
  | cons first rest =>
    change (first :: rest).flatMap (Row.boundAt first.columns) = _
    rw [List.filterMap_flatMap, ← flatMap_range]
    apply List.flatMap_congr
    intro row hrow
    obtain ⟨r, hr⟩ : ∃ r, (first :: rest)[row]? = some r :=
      ⟨_, List.getElem?_eq_getElem (List.mem_range.mp hrow)⟩
    simp [hr, Row.boundAt, List.filterMap_map, Function.comp_def, Command.boundAt,
      Command.valueAt, hrows]

namespace Command

/-- What a command binds is what stands at its places. -/
lemma bound_eq_filterMap (r : Command) : r.bound = r.places.filterMap r.boundAt := by
  cases r with
  | select q | delete q => exact q.bound_eq_filterMap
  | insert q rows => exact rows.bound_eq_filterMap q
  | update q row =>
    have hrow : (row.columns.map (Place.cell 0)).filterMap (update q row).boundAt = row.bound := by
      rw [List.filterMap_map, row.bound_eq_filterMap]
      rfl
    have hclauses : q.places.filterMap (update q row).boundAt = q.bound := by
      rw [q.bound_eq_filterMap]
      apply List.filterMap_congr
      intro place hplace
      obtain ⟨⟨c, index⟩, -, hplace⟩ := List.mem_flatMap.mp hplace
      obtain ⟨position, -, rfl⟩ := List.mem_map.mp hplace
      rfl
    rw [bound, places, List.filterMap_append, hrow, hclauses]

/-- The parameters of a command are found at its bound places. -/
lemma map_some_bound (r : Command) : r.bound.map some = r.boundPlaces.map r.boundAt := by
  rw [bound_eq_filterMap, boundPlaces]
  generalize r.places = places
  induction places with
  | nil => rfl
  | cons place places ih =>
    rw [List.filterMap_cons, List.filter_cons]
    cases h : r.boundAt place with
    | none => simpa using ih
    | some v => simpa [h] using ih

end Command

/-! ### Places and shapes -/

section

variable {f : SqlValue → SqlValue}

@[simp] lemma Value.bound?_mapParam (v : Value) : (v.mapParam f).bound? = v.bound?.map f := by
  cases v <;> rfl

@[simp] lemma Predicate.values_mapParams (p : Predicate) :
    (p.mapParams f).values = p.values.map (Value.mapParam f) := by
  cases p <;> rfl

lemma Query.places_mapParams (q : Query) : (q.mapParams f).places = q.places := by
  simp [places, mapParams, List.zipIdx_map, List.flatMap_map, Clause.mapParams]

lemma Query.valueAt_mapParams (q : Query) (place : Place) :
    (q.mapParams f).valueAt place = (q.valueAt place).map (Value.mapParam f) := by
  cases place with
  | cell row column => rfl
  | clause index position =>
    simp only [valueAt, mapParams, List.getElem?_map]
    cases q.clauses[index]? with
    | none => rfl
    | some c => simp [Clause.mapParams]

lemma Rows.places_mapParams (rows : Rows) : (rows.mapParams f).places = rows.places := by
  rw [places, places, toList_mapParams]
  cases rows.toList with
  | nil => rfl
  | cons first rest => simp

namespace Command

lemma places_mapParams (r : Command) : (r.mapParams f).places = r.places := by
  cases r with
  | select q | delete q => exact q.places_mapParams
  | insert q rows => exact rows.places_mapParams
  | update q row => simp only [mapParams, places, Row.columns_mapParams, q.places_mapParams]

lemma boundAt_mapParams (r : Command) (place : Place) :
    (r.mapParams f).boundAt place = (r.boundAt place).map f := by
  have hvalue : (r.mapParams f).valueAt place = (r.valueAt place).map (Value.mapParam f) := by
    cases r with
    | select q | delete q => exact q.valueAt_mapParams place
    | insert q rows =>
      cases place with
      | clause index position => rfl
      | cell row column =>
        simp only [mapParams, valueAt, Rows.toList_mapParams, List.getElem?_map]
        cases rows.toList[row]? with
        | none => rfl
        | some r => exact r.get?_mapParams column
    | update q row =>
      cases place with
      | clause index position => exact q.valueAt_mapParams (.clause index position)
      | cell index column =>
        cases index with
        | zero => exact row.get?_mapParams column
        | succ index => rfl
  rw [boundAt, boundAt, hvalue]
  cases r.valueAt place with
  | none => rfl
  | some v => exact v.bound?_mapParam

lemma boundPlaces_mapParams (r : Command) : (r.mapParams f).boundPlaces = r.boundPlaces := by
  simp only [boundPlaces, places_mapParams, boundAt_mapParams, Option.isSome_map]

lemma boundPlaces_shape (r : Command) : r.shape.boundPlaces = r.boundPlaces :=
  r.boundPlaces_mapParams

end Command

end

namespace Command

open Template

/-- Commands of one shape fail with one error or compile to one text. In the second case their
parameters are what they bind at the same places, in the same order. -/
theorem compile_of_shape_eq {r r' : Command} (h : r.shape = r'.shape) (c : Config) :
    (∃ e, r.compile c = .error e ∧ r'.compile c = .error e) ∨
    ∃ sql params params',
      r.compile c = .ok ⟨sql, params⟩ ∧ r'.compile c = .ok ⟨sql, params'⟩ ∧
      params.length = params'.length ∧
      params.map some = r.boundPlaces.map r.boundAt ∧
      params'.map some = r.boundPlaces.map r'.boundAt := by
  have htemplate : mapSlots (fun _ => .null) <$> r.template c
      = mapSlots (fun _ => .null) <$> r'.template c := by
    rw [← template_mapParams, ← template_mapParams]
    exact congrArg (Command.template c) h
  have hplaces : r'.boundPlaces = r.boundPlaces := by
    rw [← r.boundPlaces_shape, h, r'.boundPlaces_shape]
  rw [compile_eq_statement, compile_eq_statement]
  cases ht : r.template c with
  | error e =>
    cases ht' : r'.template c with
    | ok t' => simp [ht, ht', Functor.map, Except.map] at htemplate
    | error e' =>
      have he : e = e' := by simpa [ht, ht', Functor.map, Except.map] using htemplate
      exact Or.inl ⟨e, rfl, he ▸ rfl⟩
  | ok t =>
    cases ht' : r'.template c with
    | error e' => simp [ht, ht', Functor.map, Except.map] at htemplate
    | ok t' =>
      have hslots : mapSlots (fun _ => .null) t = mapSlots (fun _ => .null) t' := by
        simpa [ht, ht', Functor.map, Except.map] using htemplate
      have hsql : t.render c.dialect 0 = t'.render c.dialect 0 := by
        rw [render, render, ← chars_mapSlots 0 t, hslots, chars_mapSlots]
      have hlength : t.params.length = t'.params.length := by
        simpa using congrArg (fun u => (params u).length) hslots
      refine Or.inr ⟨t.render c.dialect 0, t.params, t'.params, rfl, ?_, hlength, ?_, ?_⟩
      · rw [hsql]
        rfl
      · rw [params_template ht, map_some_bound]
      · rw [params_template ht', map_some_bound, hplaces]

/-- Rows for a compound insert, the second with its columns in another order and with an
expression; `name` and `note` are bound. -/
def logged (name note : SqlValue) : Command :=
  .insert { table := .name "log" } (.batch [
    Row.ofList [("name", .param name), ("note", .param .null), ("at", .expr ⟨"now()"⟩)],
    Row.ofList [("at", .param (.bool true)), ("note", .param note), ("name", .expr ⟨"'?'"⟩)]])

/-- A text that looks like SQL and a number leave the statement as it is, and are bound in the
places in which they were given. -/
theorem compile_of_logged :
    (logged .null (.text "")).shape = (logged (.text "'); --") (.int 7)).shape ∧
    ∃ sql,
      (logged .null (.text "")).compile { dialect := .sqlite, compoundInsert := true }
        = .ok ⟨sql, [.null, .null, .text "", .bool true]⟩ ∧
      (logged (.text "'); --") (.int 7)).compile { dialect := .sqlite, compoundInsert := true }
        = .ok ⟨sql, [.text "'); --", .null, .int 7, .bool true]⟩ := by
  have hshape : (logged .null (.text "")).shape = (logged (.text "'); --") (.int 7)).shape := rfl
  have hfirst : (logged .null (.text "")).compile { dialect := .sqlite, compoundInsert := true }
      = .ok
        { sql := "INSERT INTO \"log\" (\"name\", \"note\", \"at\") "
            ++ "SELECT ? AS \"name\", ? AS \"note\", now() AS \"at\" UNION ALL SELECT '?', ?, ?"
          params := [.null, .null, .text "", .bool true] } := by cbv
  have hplaces : (logged .null (.text "")).boundPlaces
      = [.cell 0 "name", .cell 0 "note", .cell 1 "note", .cell 1 "at"] := by cbv
  refine ⟨hshape, ?_⟩
  rcases compile_of_shape_eq hshape { dialect := .sqlite, compoundInsert := true } with
    ⟨e, he, -⟩ | ⟨sql, params, params', h, h', -, -, hparams'⟩
  · rw [hfirst] at he
    simp at he
  · rw [hfirst, Except.ok.injEq, Statement.mk.injEq] at h
    have hbound : params' = [.text "'); --", .null, .int 7, .bool true] := by
      apply List.map_injective_iff.mpr (Option.some_injective _)
      rw [hparams', hplaces]
      cbv
    exact ⟨sql, by rw [hfirst, h.1], by rw [h', hbound]⟩

end Command

end BoundSql
