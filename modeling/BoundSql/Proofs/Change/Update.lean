import BoundSql.Proofs.Change.Text
import BoundSql.Proofs.Dialects

/-!
# Updates

An update binds the values of its row first and those of its clauses after them. So it binds what
it assigns and then what the deletion of the same query binds, and its `WHERE` clause is the one of
the deletion with every placeholder raised by the number of values assigned. It fails with the
first of its faults.
-/

namespace BoundSql

open Template

/-- The first column with an alias comes after columns without one. -/
lemma find?_mentionsAlias_eq_some {columns : List String} {column : String} :
    columns.find? mentionsAlias = some column ↔ ∃ before after,
      columns = before ++ column :: after ∧
        (∀ c ∈ before, ¬[' ', 'a', 's', ' '] <:+: c.toLower.toList) ∧
        [' ', 'a', 's', ' '] <:+: column.toLower.toList := by
  simp only [List.find?_eq_some_iff_append, ← mentionsAlias_eq_true_iff, Bool.not_eq_true',
    Bool.not_eq_true]
  constructor
  · rintro ⟨hcolumn, before, after, heq, hbefore⟩
    exact ⟨before, after, heq, hbefore, hcolumn⟩
  · rintro ⟨before, after, heq, hbefore, hcolumn⟩
    exact ⟨hcolumn, before, after, heq, hbefore⟩

lemma findSome?_columnReference (columns : List String) :
    (columns.findSome? fun column => failure? (columnReference column))
      = (columns.find? mentionsAlias).map Error.aliasNotAllowed := by
  rw [← failure?_mapM, mapM_columnReference]
  cases columns.find? mentionsAlias <;> rfl

/-- Whether a row can be written to what a query selects. -/
structure Updatable (q : Query) (row : Row) : Prop where
  columns : row.columns ≠ []
  table : ∃ t, q.table.template = .ok t
  noAlias : ∀ column ∈ row.columns, ¬[' ', 'a', 's', ' '] <:+: column.toLower.toList
  clauses : ∃ t, (whereClause q.clauses).toExcept = .ok t

/-- What an update fails with: that nothing is assigned, the table, the first column with an alias,
or the first clause that cannot be written. -/
inductive UpdateFault (q : Query) (row : Row) : Error → Prop where
  | noColumn : row.columns = [] → UpdateFault q row .emptyAssignments
  | table {s} : row.columns ≠ [] → q.table = .name s →
      q.table.template = .error (.malformedAlias s) → UpdateFault q row (.malformedAlias s)
  | column {t before column after} : q.table.template = .ok t →
      row.columns = before ++ column :: after →
      (∀ c ∈ before, ¬[' ', 'a', 's', ' '] <:+: c.toLower.toList) →
      [' ', 'a', 's', ' '] <:+: column.toLower.toList → UpdateFault q row (.aliasNotAllowed column)
  | clause {t before clause after e} : row.columns ≠ [] → q.table.template = .ok t →
      (∀ column ∈ row.columns, ¬[' ', 'a', 's', ' '] <:+: column.toLower.toList) →
      q.clauses = before ++ clause :: after →
      (∀ c ∈ before, ∃ u, c.predicate.template = .ok u) → clause.predicate.template = .error e →
      UpdateFault q row e

namespace Query

variable {c : Config} {q : Query} {row : Row}

/-- Updates that can be written are. -/
lemma exists_compileUpdate_iff : (∃ s, q.compileUpdate c row = .ok s) ↔ Updatable q row := by
  constructor
  · rintro ⟨s, hs⟩
    obtain ⟨hcolumns, table, clause, ht, halias, hc, -⟩ := compileUpdate_eq_ok.mp hs
    exact ⟨hcolumns, ⟨table, ht⟩, find?_mentionsAlias_eq_none.mp halias, ⟨clause, hc⟩⟩
  · rintro ⟨hcolumns, ⟨table, ht⟩, halias, ⟨clause, hc⟩⟩
    exact ⟨_, compileUpdate_eq_ok.mpr
      ⟨hcolumns, table, clause, ht, find?_mentionsAlias_eq_none.mpr halias, hc, rfl⟩⟩

/-- An update fails with the first of its faults. -/
lemma compileUpdate_eq_error_iff {e : Error} :
    q.compileUpdate c row = .error e ↔ UpdateFault q row e := by
  have hfailure := (Command.update q row).failure?_compile c
  rw [Command.template, failure?_updateTemplate, findSome?_columnReference] at hfailure
  rw [← failure?_eq_some]
  change failure? (q.compileUpdate c row) = _ at hfailure
  rw [hfailure]
  constructor
  · intro h
    split_ifs at h with hcolumns
    · obtain rfl := Option.some.inj h
      exact .noColumn (Row.isEmpty_iff.mp hcolumns)
    rw [Row.isEmpty_iff] at hcolumns
    obtain htable | ⟨htable, h⟩ := Option.or_eq_some_iff.mp h
    · rw [failure?_eq_some] at htable
      obtain ⟨s, hs, rfl⟩ := Identifier.template_eq_error htable
      exact .table hcolumns hs htable
    obtain ⟨t, ht⟩ := failure?_eq_none.mp htable
    obtain hcolumn | ⟨hcolumn, h⟩ := Option.or_eq_some_iff.mp h
    · obtain ⟨column, halias, rfl⟩ := Option.map_eq_some_iff.mp hcolumn
      obtain ⟨before, after, heq, hbefore, hcolumn⟩ := find?_mentionsAlias_eq_some.mp halias
      exact .column ht heq hbefore hcolumn
    obtain ⟨before, clause, after, heq, hclause, hbefore⟩ := List.findSome?_eq_some_iff.mp h
    exact .clause hcolumns ht (find?_mentionsAlias_eq_none.mp (Option.map_eq_none_iff.mp hcolumn))
      heq (fun c hc => failure?_eq_none.mp (hbefore c hc)) (failure?_eq_some.mp hclause)
  · intro h
    cases h with
    | noColumn hcolumns => rw [if_pos (Row.isEmpty_iff.mpr hcolumns)]
    | table hcolumns hs ht =>
      rw [if_neg (Row.isEmpty_iff.not.mpr hcolumns), ht, failure?_error, Option.some_or]
    | @column t before column after ht heq hbefore hcolumn =>
      have hcolumns : row.columns ≠ [] := by simp [heq]
      have halias : row.columns.find? mentionsAlias = some column :=
        find?_mentionsAlias_eq_some.mpr ⟨before, after, heq, hbefore, hcolumn⟩
      rw [if_neg (Row.isEmpty_iff.not.mpr hcolumns), ht, failure?_ok, Option.none_or, halias,
        Option.map_some, Option.some_or]
    | clause hcolumns ht halias heq hbefore hclause =>
      rw [if_neg (Row.isEmpty_iff.not.mpr hcolumns), ht, failure?_ok, Option.none_or,
        find?_mentionsAlias_eq_none.mpr halias, Option.map_none, Option.none_or,
        List.findSome?_eq_some_iff]
      exact ⟨_, _, _, heq, failure?_eq_some.mpr hclause,
        fun c hc => failure?_eq_none.mpr (hbefore c hc)⟩

/-- When an update compiles, its text and its parameters, which are those of the row and then those
of the deletion, and what it fails with. -/
theorem compileUpdate_assignments (c : Config) (q : Query) (row : Row) :
    ((∃ s, q.compileUpdate c row = .ok s) ↔ Updatable q row) ∧
    (∀ s, q.compileUpdate c row = .ok s → ∃ table clause deletion text raised,
      q.table.template = .ok table ∧
      (whereClause q.clauses).toExcept = .ok clause ∧
      q.compileDelete c = .ok deletion ∧
      s.params = row.values.filterMap Value.bound? ++ deletion.params ∧
      s.sql = trimmed (updateStart c.dialect table row ++ " " ++ raised) ∧
      (whereClause q.clauses).write c.dialect {} = (.ok text, ⟨deletion.params⟩) ∧
      clause.write c.dialect.quoteMark (c.dialect.placeholdersFrom 0 deletion.params.length)
        = some text ∧
      clause.write c.dialect.quoteMark
        (c.dialect.placeholdersFrom row.bound.length deletion.params.length) = some raised ∧
      (c.dialect ≠ .postgres → raised = text)) ∧
    ∀ e, q.compileUpdate c row = .error e ↔ UpdateFault q row e := by
  refine ⟨exists_compileUpdate_iff, ?_, fun e => compileUpdate_eq_error_iff⟩
  intro s hs
  obtain ⟨-, table, clause, ht, -, hc, rfl⟩ := compileUpdate_eq_ok.mp hs
  have hwrite := write_placeholdersFrom c.dialect 0 clause
  have hraised := write_placeholdersFrom c.dialect row.bound.length clause
  have hdelete : q.compileDelete c = .ok
      { sql := trimmed (deletionStart c.dialect table ++ " " ++ clause.render c.dialect 0)
        params := clause.params } := compileDelete_eq_ok.mpr ⟨table, clause, ht, hc, rfl⟩
  refine ⟨table, clause, _, clause.render c.dialect 0, clause.render c.dialect row.bound.length,
    ht, hc, hdelete, rfl, rfl, Outcome.write_of_toExcept hc c.dialect {}, hwrite, hraised, ?_⟩
  intro hd
  rw [Dialect.placeholdersFrom_eq_questions hd] at hwrite hraised
  exact Option.some.inj (hraised.symm.trans hwrite)

/-- A row with a value, an expression and another value. -/
def assignedRow : Row :=
  ⟨[("a", .param (.int 1)), ("s.b", .expr ⟨"now()"⟩), ("c", .param .null)], by decide⟩

/-- A row with two columns that have an alias. -/
def aliasedRow : Row :=
  ⟨[("a", .param .null), ("b As x", .param .null), ("c as y", .param .null)], by decide⟩

/-- A query whose clauses bind a list and one end of a range; the other end is an expression that
looks like a placeholder. -/
def filteredQuery : Query :=
  { table := .name "t"
    clauses := [⟨.and, .isIn (.name "id") [.param (.int 7), .param (.int 8)]⟩,
      ⟨.or, .between (.name "n") (.expr ⟨"$1"⟩) (.param (.text "x"))⟩] }

/-- The expression that is assigned leaves no gap between the placeholders, and the one that is
compared is not raised with them. -/
theorem compileUpdate_assignedRow :
    filteredQuery.compileUpdate { dialect := .postgres } assignedRow = .ok
      { sql := "UPDATE \"t\" SET \"a\" = $1, \"s\".\"b\" = now(), \"c\" = $2 WHERE 1 = 1 "
          ++ "AND \"id\" IN ($3, $4) OR \"n\" BETWEEN $1 AND $5"
        params := [.int 1, .null, .int 7, .int 8, .text "x"] } ∧
    (∃ deletion, filteredQuery.compileDelete { dialect := .postgres } = .ok deletion ∧
      deletion.params = [.int 7, .int 8, .text "x"]) ∧
    (whereClause filteredQuery.clauses).write .postgres {} =
      (.ok "WHERE 1 = 1 AND \"id\" IN ($1, $2) OR \"n\" BETWEEN $1 AND $3",
        ⟨[.int 7, .int 8, .text "x"]⟩) ∧
    filteredQuery.compileUpdate { dialect := .postgres } aliasedRow
      = .error (.aliasNotAllowed "b As x") := by
  have hupdate : filteredQuery.compileUpdate { dialect := .postgres } assignedRow = .ok
      { sql := "UPDATE \"t\" SET \"a\" = $1, \"s\".\"b\" = now(), \"c\" = $2 WHERE 1 = 1 "
          ++ "AND \"id\" IN ($3, $4) OR \"n\" BETWEEN $1 AND $5"
        params := [.int 1, .null, .int 7, .int 8, .text "x"] } := by cbv
  obtain ⟨-, hok, -⟩ := compileUpdate_assignments { dialect := .postgres } filteredQuery assignedRow
  obtain ⟨-, -, deletion, -, -, -, -, hdelete, hparams, -⟩ := hok _ hupdate
  refine ⟨hupdate, ⟨deletion, hdelete, ?_⟩, by cbv, ?_⟩
  · have hassigned : assignedRow.values.filterMap Value.bound? = [.int 1, .null] := by decide
    rw [hassigned] at hparams
    simpa using hparams.symm
  · have ht : filteredQuery.table.template = .ok [.name "t"] := by cbv
    have halias : aliasedRow.columns.find? mentionsAlias = some "b As x" := by cbv
    obtain ⟨before, after, heq, hbefore, hcolumn⟩ := find?_mentionsAlias_eq_some.mp halias
    exact ((compileUpdate_assignments _ filteredQuery aliasedRow).2.2 _).mpr
      (.column ht heq hbefore hcolumn)

end Query

end BoundSql
