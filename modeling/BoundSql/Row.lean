import BoundSql.Value

/-!
# Rows

Rows map columns to values and keep the order in which the columns came. A row never has a column
twice: a value for a column that is already there replaces the old value and keeps its place.
-/

namespace BoundSql

/-- Columns with their values, in order. -/
structure Row where
  entries : List (String × Value)
  nodup : (entries.map Prod.fst).Nodup
deriving DecidableEq

namespace Row

/-- The row without columns. -/
def empty : Row := ⟨[], List.nodup_nil⟩

/-- The columns, in order. -/
def columns (r : Row) : List String := r.entries.map Prod.fst

/-- The value of a column. -/
def get? (r : Row) (column : String) : Option Value := r.entries.lookup column

/-- Whether there is no column. -/
def isEmpty (r : Row) : Bool := r.entries.isEmpty

/-- Entries with the value of one column replaced. -/
def replace (column : String) (value : Value) (entries : List (String × Value)) :
    List (String × Value) :=
  entries.map fun e => if e.1 = column then (column, value) else e

@[simp] theorem map_fst_replace (column : String) (value : Value)
    (entries : List (String × Value)) :
    (replace column value entries).map Prod.fst = entries.map Prod.fst := by
  induction entries with
  | nil => rfl
  | cons e es ih =>
    simp only [replace, List.map_cons] at ih ⊢
    rw [ih]
    split <;> simp_all

/-- The row with a value put into a column: in place if the column is there, else at the end. -/
def insert (r : Row) (column : String) (value : Value) : Row :=
  if h : column ∈ r.columns then
    ⟨replace column value r.entries, by simpa using r.nodup⟩
  else
    ⟨r.entries ++ [(column, value)], by
      simp only [List.map_append, List.map_cons, List.map_nil, List.nodup_append]
      refine ⟨r.nodup, by simp, ?_⟩
      intro a ha b hb
      simp only [List.mem_cons, List.not_mem_nil, or_false] at hb
      subst hb
      exact fun e => h (e ▸ ha)⟩

/-- The row of a list of entries: a repeated column keeps its first place and takes its last
value. -/
def ofList (entries : List (String × Value)) : Row :=
  entries.foldl (fun r e => r.insert e.1 e.2) empty

end Row

/-- What is inserted: one row, or several that share their columns. -/
inductive Rows where
  | single (row : Row)
  | batch (rows : List Row)
deriving DecidableEq

/-- The rows, a single one being a batch of one. -/
def Rows.toList : Rows → List Row
  | .single r => [r]
  | .batch rs => rs

end BoundSql
