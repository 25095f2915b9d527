import BoundSql.Proofs.Success

/-!
# Commands

A command is one of the four statements together with its data. Two things are listed of it: the
raw texts, which a caller puts into the statement as they are, and the values to be bound.
-/

namespace BoundSql

/-! ### Raw texts -/

/-- The text of an expression. -/
def Identifier.rawTexts : Identifier → List String
  | .expr e => [e.raw]
  | .name _ => []

/-- The text of an expression. -/
def Value.rawTexts : Value → List String
  | .expr e => [e.raw]
  | .param _ => []

namespace Predicate

/-- The columns of a predicate. -/
def identifiers : Predicate → List Identifier
  | .compare column _ _ | .isIn column _ | .notIn column _ | .isNull column | .notNull column
  | .between column _ _ | .notBetween column _ _ => [column]
  | .compareColumns first _ second => [first, second]
  | .raw _ => []

/-- The values of a predicate, from left to right. -/
def values : Predicate → List Value
  | .compare _ _ value => [value]
  | .isIn _ values | .notIn _ values => values
  | .between _ low high | .notBetween _ low high => [low, high]
  | .isNull _ | .notNull _ | .compareColumns .. | .raw _ => []

/-- The texts of a predicate that are written as they are. -/
def rawTexts (p : Predicate) : List String :=
  p.identifiers.flatMap Identifier.rawTexts ++ p.values.flatMap Value.rawTexts ++
    match p with
    | .raw sql => [sql]
    | _ => []

end Predicate

/-- The tables and columns of a join. -/
def Join.identifiers (j : Join) : List Identifier :=
  j.table :: j.on?.toList.flatMap fun on => [on.first, on.second]

namespace Query

/-- The tables and columns of a query, those of its clauses apart. -/
def identifiers (q : Query) : List Identifier :=
  q.table :: q.columns ++ q.aggregate?.toList.map Aggregate.column
    ++ q.joins.flatMap Join.identifiers ++ q.groups ++ q.sortKeys.map SortKey.column

/-- The texts of a query that are written as they are. -/
def rawTexts (q : Query) : List String :=
  q.identifiers.flatMap Identifier.rawTexts ++ q.clauses.flatMap fun c => c.predicate.rawTexts

end Query

namespace Row

/-- The values of a row, in order. -/
def values (r : Row) : List Value := r.entries.map Prod.snd

lemma mem_values_of_get? {r : Row} {column : String} {v : Value} (h : r.get? column = some v) :
    v ∈ r.values := by
  simp only [get?, List.lookup_eq_some_iff] at h
  obtain ⟨before, after, hentries, -⟩ := h
  simp [values, hentries]

/-- The texts of a row that are written as they are. -/
def rawTexts (r : Row) : List String := r.values.flatMap Value.rawTexts

end Row

/-! ### Bound values -/

/-- The value to be bound; an expression binds nothing. -/
def Value.bound? : Value → Option SqlValue
  | .expr _ => none
  | .param v => some v

/-- The bound values of a predicate, from left to right. -/
def Predicate.bound (p : Predicate) : List SqlValue := p.values.filterMap Value.bound?

/-- The bound values of a query, clause by clause. -/
def Query.bound (q : Query) : List SqlValue := q.clauses.flatMap fun c => c.predicate.bound

namespace Row

/-- The bound values of a row, in order. -/
def bound (r : Row) : List SqlValue := r.values.filterMap Value.bound?

/-- The bound values of a row in the order of given columns. -/
def boundAt (columns : List String) (r : Row) : List SqlValue :=
  columns.filterMap fun c => (r.get? c).bind Value.bound?

end Row

/-- The bound values of rows, row by row, each in the column order of the first. -/
def Rows.bound (rows : Rows) : List SqlValue :=
  match rows.toList with
  | [] => []
  | first :: rest => (first :: rest).flatMap (Row.boundAt first.columns)

/-! ### Commands -/

/-- A statement to be compiled, with its data. -/
inductive Command where
  | select (q : Query)
  | insert (q : Query) (rows : Rows)
  | update (q : Query) (row : Row)
  | delete (q : Query)

namespace Command

/-- The compiled statement of a command. -/
def compile (c : Config) : Command → Except Error Statement
  | .select q => q.compileSelect c
  | .insert q rows => q.compileInsert c rows
  | .update q row => q.compileUpdate c row
  | .delete q => q.compileDelete c

/-- The template of a command. -/
def template (c : Config) : Command → Except Error Template
  | .select q => q.selectTemplate c.dialect
  | .insert q rows => q.insertTemplate c rows
  | .update q row => q.updateTemplate row
  | .delete q => q.deleteTemplate

/-- The texts of a command that are written as they are. -/
def rawTexts : Command → List String
  | .select q | .delete q => q.rawTexts
  | .insert q rows => q.rawTexts ++ rows.toList.flatMap Row.rawTexts
  | .update q row => q.rawTexts ++ row.rawTexts

/-- The aggregate function that a command calls by its name. -/
def function? : Command → Option String
  | .select q => q.aggregate?.map Aggregate.function
  | .insert .. | .update .. | .delete _ => none

/-- The bound values of a command in the order of their places: those of an `UPDATE` are first
assigned and then compared, those of an `INSERT` go row by row. -/
def bound : Command → List SqlValue
  | .select q | .delete q => q.bound
  | .insert _ rows => rows.bound
  | .update q row => row.bound ++ q.bound

/-- A command compiles to what its template is in the dialect. -/
lemma compile_eq_ok {c : Config} {r : Command} {s : Statement} :
    r.compile c = .ok s ↔ ∃ t, r.template c = .ok t ∧ t.statement c.dialect = s := by
  cases r <;> exact map_eq_ok

lemma compile_eq_statement (r : Command) (c : Config) :
    r.compile c = Template.statement c.dialect <$> r.template c := by
  cases r <;> rfl

end Command

end BoundSql
