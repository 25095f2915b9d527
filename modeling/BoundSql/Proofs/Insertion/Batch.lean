import BoundSql.Proofs.Failure
import BoundSql.Proofs.Insertion.Text
import BoundSql.Proofs.Selection.Invariance

/-!
# Batches of rows

Which rows can be inserted together. The first row gives the columns; each value of the others is
found by the name of its column, so only the set of columns of a row counts and not their order.
-/

namespace BoundSql

namespace Row

variable {first r r' : Row} {index : Nat}

lemma isEmpty_iff : r.isEmpty = true ↔ r.columns = [] := by simp [isEmpty, columns]

lemma mem_columns_iff {column : String} :
    column ∈ r.columns ↔ ∃ v, (column, v) ∈ r.entries := by
  simp [columns]

/-- A column has the one value that stands beside it. -/
lemma get?_eq_some_iff {column : String} {v : Value} :
    r.get? column = some v ↔ (column, v) ∈ r.entries := by
  obtain ⟨entries, hnodup⟩ := r
  change entries.lookup column = some v ↔ (column, v) ∈ entries
  rw [List.lookup_eq_some_iff]
  constructor
  · rintro ⟨before, after, rfl, -⟩
    exact List.mem_append_right _ List.mem_cons_self
  · intro hmem
    obtain ⟨before, after, rfl⟩ := List.append_of_mem hmem
    refine ⟨before, after, rfl, ?_⟩
    intro e he
    rw [List.map_append, List.map_cons, List.nodup_append] at hnodup
    rw [bne_iff_ne]
    exact (hnodup.2.2 e.1 (List.mem_map_of_mem he) column List.mem_cons_self).symm

lemma get?_eq_none_iff {column : String} : r.get? column = none ↔ column ∉ r.columns := by
  simp [Option.eq_none_iff_forall_ne_some, get?_eq_some_iff, mem_columns_iff]

/-- The order of the entries does not matter for the values of the columns. -/
lemma get?_congr (h : r.entries.Perm r'.entries) (column : String) :
    r.get? column = r'.get? column := by
  apply Option.ext
  intro v
  rw [get?_eq_some_iff, get?_eq_some_iff, h.mem_iff]

/-- Whether a row has the columns of the first one, in whatever order. -/
def Matches (first r : Row) : Prop := ∀ column, column ∈ r.columns ↔ column ∈ first.columns

/-- Whether values are those that a row has for the columns of the first one. -/
def Aligned (first r : Row) (vs : List Value) : Prop :=
  List.Forall₂ (fun column v => r.get? column = some v) first.columns vs

/-- The first column of a row that the first row does not have, else the first column of the first
row that the row does not have. -/
def mismatch? (first r : Row) : Option String :=
  (r.columns.find? fun column => column ∉ first.columns).or
    (first.columns.find? fun column => column ∉ r.columns)

lemma Matches.refl (first : Row) : first.Matches first := fun _ => Iff.rfl

lemma Matches.congr (h : r.entries.Perm r'.entries) : first.Matches r ↔ first.Matches r' := by
  simp only [Matches, mem_columns_iff, h.mem_iff]

lemma Aligned.congr (h : r.entries.Perm r'.entries) {vs : List Value} :
    first.Aligned r vs ↔ first.Aligned r' vs := by
  simp only [Aligned, get?_congr h]

lemma mismatch?_eq_none_iff : first.mismatch? r = none ↔ first.Matches r := by
  rw [mismatch?, Option.or_eq_none_iff, List.find?_eq_none, List.find?_eq_none]
  simp only [decide_eq_true_eq, not_not]
  constructor
  · rintro ⟨hextra, hmissing⟩ column
    exact ⟨hextra column, hmissing column⟩
  · intro h
    exact ⟨fun column => (h column).mp, fun column => (h column).mpr⟩

/-- Rows that match have a value for each column. -/
lemma Matches.exists_aligned (h : first.Matches r) : ∃ vs, first.Aligned r vs := by
  refine ⟨first.columns.filterMap r.get?, ?_⟩
  have hvalues : ∀ column ∈ first.columns, ∃ v, r.get? column = some v := by
    intro column hcolumn
    apply Option.ne_none_iff_exists'.mp
    rw [ne_eq, get?_eq_none_iff, not_not, h column]
    exact hcolumn
  rw [Aligned]
  generalize first.columns = columns at hvalues
  induction columns with
  | nil => exact .nil
  | cons column columns ih =>
    obtain ⟨v, hv⟩ := hvalues column List.mem_cons_self
    rw [List.filterMap_cons_some hv]
    exact .cons hv (ih fun k hk => hvalues k (List.mem_cons_of_mem _ hk))

lemma Aligned.unique {vs ws : List Value} (hvs : first.Aligned r vs) (hws : first.Aligned r ws) :
    vs = ws := by
  apply List.right_unique_forall₂' _ hvs hws
  intro column v w hv hw
  exact Option.some.inj (hv.symm.trans hw)

/-- A row is refused for its first mismatch. -/
lemma failure?_aligned : failure? (first.aligned index r)
    = (first.mismatch? r).map (Error.mismatchedRow index) := by
  have hextra : (r.columns.find? fun column => !first.columns.contains column)
      = r.columns.find? fun column => column ∉ first.columns := by
    simp
  rw [aligned, mismatch?, hextra]
  cases r.columns.find? fun column => column ∉ first.columns with
  | some column => rfl
  | none =>
    rw [Option.none_or, failure?_mapM]
    generalize first.columns = columns
    induction columns with
    | nil => rfl
    | cons column columns ih =>
      rw [List.findSome?_cons, List.find?_cons]
      cases hvalue : r.get? column with
      | none =>
        simp [get?_eq_none_iff.mp hvalue]
      | some v =>
        have hcolumn : column ∈ r.columns := mem_columns_iff.mpr ⟨v, get?_eq_some_iff.mp hvalue⟩
        simp [hcolumn, ih]

lemma aligned_eq_ok_iff {vs : List Value} :
    first.aligned index r = .ok vs ↔ first.Matches r ∧ first.Aligned r vs := by
  constructor
  · intro h
    refine ⟨?_, aligned_eq_ok h⟩
    rw [← mismatch?_eq_none_iff, ← Option.map_eq_none_iff (f := Error.mismatchedRow index),
      ← failure?_aligned, h, failure?_ok]
  · rintro ⟨hmatches, hvs⟩
    have hnone : failure? (first.aligned index r) = none := by
      rw [failure?_aligned, mismatch?_eq_none_iff.mpr hmatches, Option.map_none]
    obtain ⟨ws, hws⟩ := failure?_eq_none.mp hnone
    rw [hws, Aligned.unique hvs (aligned_eq_ok hws)]

/-- Rows are aligned when they match, each with the values that it has for the columns. -/
lemma alignedFrom_eq_ok_iff {rows : List Row} {groups : List (List Value)} :
    first.alignedFrom index rows = .ok groups ↔
      (∀ r ∈ rows, first.Matches r) ∧ List.Forall₂ first.Aligned rows groups := by
  induction rows generalizing index groups with
  | nil => simp [alignedFrom, eq_comm]
  | cons r rs ih =>
    simp only [alignedFrom, bind_eq_ok, pure_eq_ok, aligned_eq_ok_iff, ih,
      List.forall₂_cons_left_iff, List.forall_mem_cons]
    constructor
    · rintro ⟨vs, ⟨hr, hvs⟩, rest, ⟨hrs, hrest⟩, rfl⟩
      exact ⟨⟨hr, hrs⟩, vs, rest, hvs, hrest, rfl⟩
    · rintro ⟨⟨hr, hrs⟩, vs, rest, hvs, hrest, rfl⟩
      exact ⟨vs, ⟨hr, hvs⟩, rest, ⟨hrs, hrest⟩, rfl⟩

/-- Rows are refused for the first one that does not match, which is named by its position. -/
lemma alignedFrom_eq_error_iff {rows : List Row} {e : Error} :
    first.alignedFrom index rows = .error e ↔
      ∃ before r after column, rows = before ++ r :: after ∧ (∀ r' ∈ before, first.Matches r') ∧
        first.mismatch? r = some column ∧ e = .mismatchedRow (index + before.length) column := by
  induction rows generalizing index with
  | nil => simp [alignedFrom]
  | cons r rs ih =>
    rw [← failure?_eq_some, alignedFrom]
    cases hr : first.mismatch? r with
    | some column =>
      have herror : first.aligned index r = .error (.mismatchedRow index column) := by
        rw [← failure?_eq_some, failure?_aligned, hr, Option.map_some]
      rw [herror]
      constructor
      · intro h
        obtain rfl := Option.some.inj h
        exact ⟨[], r, rs, column, rfl, by simp, hr, rfl⟩
      · rintro ⟨before, r', after, column', heq, hbefore, hr', rfl⟩
        cases before with
        | nil =>
          obtain ⟨rfl, rfl⟩ := List.cons_eq_cons.mp heq
          obtain rfl := Option.some.inj (hr.symm.trans hr')
          rfl
        | cons b before =>
          obtain ⟨rfl, -⟩ := List.cons_eq_cons.mp heq
          have hmatches : first.Matches r := hbefore r List.mem_cons_self
          rw [mismatch?_eq_none_iff.mpr hmatches] at hr
          simp at hr
    | none =>
      -- the row matches, so that the first one that does not is among the rest
      have hmatches : first.Matches r := mismatch?_eq_none_iff.mp hr
      obtain ⟨vs, hvs⟩ := hmatches.exists_aligned
      have hok : first.aligned index r = .ok vs := aligned_eq_ok_iff.mpr ⟨hmatches, hvs⟩
      rw [hok]
      change failure? (do let rest ← first.alignedFrom (index + 1) rs; pure (vs :: rest)) = _ ↔ _
      rw [failure?_bind_pure, failure?_eq_some, ih]
      constructor
      · rintro ⟨before, r', after, column, rfl, hbefore, hr', rfl⟩
        refine ⟨r :: before, r', after, column, rfl, ?_, hr', ?_⟩
        · exact List.forall_mem_cons.mpr ⟨hmatches, hbefore⟩
        · rw [List.length_cons, Nat.add_right_comm, Nat.add_assoc]
      · rintro ⟨before, r', after, column, heq, hbefore, hr', rfl⟩
        cases before with
        | nil =>
          obtain ⟨rfl, rfl⟩ := List.cons_eq_cons.mp heq
          simp [hr] at hr'
        | cons b before =>
          obtain ⟨rfl, rfl⟩ := List.cons_eq_cons.mp heq
          refine ⟨before, r', after, column, rfl, ?_, hr', ?_⟩
          · exact fun r hr => hbefore r (List.mem_cons_of_mem _ hr)
          · rw [List.length_cons, Nat.add_right_comm, Nat.add_assoc]

end Row

/-- The columns of an insertion are written one by one, up to the first with an alias. -/
lemma mapM_columnReference (columns : List String) :
    columns.mapM columnReference = match columns.find? mentionsAlias with
      | some column => .error (.aliasNotAllowed column)
      | none => .ok (columns.map fun column => path column.toList) := by
  induction columns with
  | nil => rfl
  | cons column columns ih =>
    rw [List.mapM_cons, ih, List.find?_cons, columnReference]
    cases mentionsAlias column with
    | true => rfl
    | false => cases columns.find? mentionsAlias <;> rfl

lemma mentionsAlias_eq_true_iff {s : String} :
    mentionsAlias s = true ↔ [' ', 'a', 's', ' '] <:+: s.toLower.toList := by
  rw [mentionsAlias, occursIn_iff_infix]

lemma find?_mentionsAlias_eq_none {columns : List String} :
    columns.find? mentionsAlias = none ↔
      ∀ column ∈ columns, ¬[' ', 'a', 's', ' '] <:+: column.toLower.toList := by
  simp only [List.find?_eq_none, mentionsAlias_eq_true_iff]

/-- Whether a first row and the rows after it can be inserted into a table. -/
structure Insertable (table : Identifier) (first : Row) (rest : List Row) : Prop where
  columns : first.columns ≠ []
  table : ∃ t, table.template = .ok t
  noAlias : ∀ column ∈ first.columns, ¬[' ', 'a', 's', ' '] <:+: column.toLower.toList
  rows : ∀ r ∈ rest, first.Matches r

/-- What an insertion into a table fails with: that there is nothing to insert, the table, the
first column with an alias, or the first row that does not match. -/
inductive InsertionFault (table : Identifier) : List Row → Error → Prop where
  | noRow : InsertionFault table [] .emptyBatch
  | noColumn {first rest} : first.columns = [] → InsertionFault table (first :: rest) .emptyBatch
  | table {first rest s} : first.columns ≠ [] → table = .name s →
      table.template = .error (.malformedAlias s) →
      InsertionFault table (first :: rest) (.malformedAlias s)
  | column {first rest t column} : first.columns ≠ [] → table.template = .ok t →
      first.columns.find? mentionsAlias = some column →
      InsertionFault table (first :: rest) (.aliasNotAllowed column)
  | row {first rest t before r after column} : first.columns ≠ [] → table.template = .ok t →
      first.columns.find? mentionsAlias = none → first :: rest = before ++ r :: after →
      (∀ r' ∈ before, first.Matches r') → first.mismatch? r = some column →
      InsertionFault table (first :: rest) (.mismatchedRow before.length column)

namespace Insertion

variable {table : Identifier} {first : Row} {rest : List Row}

/-- With a column there are three steps: the table, the columns, and the rows. -/
lemma ofRows_cons (hcolumns : first.columns ≠ []) :
    ofRows table (first :: rest) = (do
      let table ← table.template
      let columns ← first.columns.mapM columnReference
      let groups ← first.alignedFrom 0 (first :: rest)
      pure { table, columns, groups }) := by
  rw [ofRows, if_neg (Row.isEmpty_iff.not.mpr hcolumns)]

lemma ofRows_of_columns_eq_nil (hcolumns : first.columns = []) :
    ofRows table (first :: rest) = .error .emptyBatch := by
  rw [ofRows, if_pos (Row.isEmpty_iff.mpr hcolumns)]

/-- Rows are inserted when they are insertable, with the columns of the first and the values of
each in their order. -/
lemma ofRows_eq_ok_iff {i : Insertion} :
    ofRows table (first :: rest) = .ok i ↔
      Insertable table first rest ∧ table.template = .ok i.table ∧
        i.columns = (first.columns.map fun column => path column.toList) ∧
        List.Forall₂ first.Aligned (first :: rest) i.groups := by
  by_cases hcolumns : first.columns = []
  · rw [ofRows_of_columns_eq_nil hcolumns]
    constructor
    · simp
    · rintro ⟨h, -⟩
      exact absurd hcolumns h.columns
  · rw [ofRows_cons hcolumns]
    simp only [bind_eq_ok, pure_eq_ok, mapM_columnReference, Row.alignedFrom_eq_ok_iff,
      List.forall_mem_cons]
    constructor
    · rintro ⟨t, ht, columns, hcs, groups, ⟨⟨-, hrest⟩, hgroups⟩, rfl⟩
      cases halias : first.columns.find? mentionsAlias with
      | some column => simp [halias] at hcs
      | none =>
        rw [halias] at hcs
        refine ⟨⟨hcolumns, ⟨t, ht⟩, find?_mentionsAlias_eq_none.mp halias, hrest⟩, ht, ?_, hgroups⟩
        exact (Except.ok.inj hcs).symm
    · rintro ⟨h, ht, hcs, hgroups⟩
      have hrows := And.intro (Row.Matches.refl first) h.rows
      refine ⟨i.table, ht, i.columns, ?_, i.groups, ⟨hrows, hgroups⟩, rfl⟩
      rw [find?_mentionsAlias_eq_none.mpr h.noAlias, hcs]

/-- Insertable rows are inserted. -/
lemma exists_ofRows_iff :
    (∃ i, ofRows table (first :: rest) = .ok i) ↔ Insertable table first rest := by
  constructor
  · rintro ⟨i, hi⟩
    exact (ofRows_eq_ok_iff.mp hi).1
  · intro h
    have hgroups : ∀ rows : List Row, (∀ r ∈ rows, first.Matches r) →
        ∃ groups, List.Forall₂ first.Aligned rows groups := by
      intro rows hrows
      induction rows with
      | nil => exact ⟨[], .nil⟩
      | cons r rs ih =>
        obtain ⟨vs, hvs⟩ := (hrows r List.mem_cons_self).exists_aligned
        obtain ⟨groups, hgroups⟩ := ih fun r' hr' => hrows r' (List.mem_cons_of_mem _ hr')
        exact ⟨vs :: groups, .cons hvs hgroups⟩
    obtain ⟨t, ht⟩ := h.table
    obtain ⟨groups, hgroups⟩ := hgroups (first :: rest)
      (List.forall_mem_cons.mpr ⟨Row.Matches.refl first, h.rows⟩)
    exact ⟨⟨t, _, groups⟩, ofRows_eq_ok_iff.mpr ⟨h, ht, rfl, hgroups⟩⟩

lemma ofRows_of_fault {rows : List Row} {e : Error} (h : InsertionFault table rows e) :
    ofRows table rows = .error e := by
  cases h with
  | noRow => rfl
  | noColumn hcolumns => exact ofRows_of_columns_eq_nil hcolumns
  | table hcolumns hname ht =>
    rw [ofRows_cons hcolumns, ht]
    rfl
  | column hcolumns ht halias =>
    rw [ofRows_cons hcolumns, ht, mapM_columnReference, halias]
    rfl
  | @row first rest t before r after column hcolumns ht halias hrows hbefore hrow =>
    have herror : first.alignedFrom 0 (first :: rest) = .error _ :=
      Row.alignedFrom_eq_error_iff.mpr ⟨_, _, _, _, hrows, hbefore, hrow, rfl⟩
    rw [ofRows_cons hcolumns, ht, mapM_columnReference, halias, herror, Nat.zero_add]
    rfl

/-- An insertion fails with the first of its faults. -/
lemma ofRows_eq_error_iff {rows : List Row} {e : Error} :
    ofRows table rows = .error e ↔ InsertionFault table rows e := by
  refine ⟨?_, ofRows_of_fault⟩
  have hfault : ∀ {e'}, InsertionFault table rows e' → ofRows table rows = .error e →
      InsertionFault table rows e := by
    intro e' hf h
    rw [ofRows_of_fault hf] at h
    exact Except.error.inj h ▸ hf
  intro h
  cases rows with
  | nil => exact hfault .noRow h
  | cons first rest =>
    by_cases hcolumns : first.columns = []
    · exact hfault (.noColumn hcolumns) h
    cases ht : table.template with
    | error e' =>
      obtain ⟨s, hs, rfl⟩ := Identifier.template_eq_error ht
      exact hfault (.table hcolumns hs ht) h
    | ok t =>
      cases halias : first.columns.find? mentionsAlias with
      | some column => exact hfault (.column hcolumns ht halias) h
      | none =>
        cases hrows : first.alignedFrom 0 (first :: rest) with
        | ok groups =>
          rw [ofRows_cons hcolumns, ht, mapM_columnReference, halias, hrows] at h
          simp [bind, Except.bind, pure, Except.pure] at h
        | error e' =>
          obtain ⟨before, r, after, column, heq, hbefore, hr, -⟩ :=
            Row.alignedFrom_eq_error_iff.mp hrows
          exact hfault (.row hcolumns ht halias heq hbefore hr) h

variable {rest' : List Row}

lemma forall₂_aligned_congr (h : List.Forall₂ (fun r r' => r.entries.Perm r'.entries) rest rest')
    {groups : List (List Value)} :
    List.Forall₂ first.Aligned rest groups ↔ List.Forall₂ first.Aligned rest' groups := by
  induction h generalizing groups with
  | nil => rfl
  | cons hr _ ih => simp only [List.forall₂_cons_left_iff, Row.Aligned.congr hr, ih]

lemma forall_matches_congr (h : List.Forall₂ (fun r r' => r.entries.Perm r'.entries) rest rest') :
    (∀ r ∈ rest, first.Matches r) ↔ ∀ r ∈ rest', first.Matches r := by
  induction h with
  | nil => rfl
  | cons hr _ ih => simp only [List.forall_mem_cons, Row.Matches.congr hr, ih]

/-- The order of the entries does not matter in the rows after the first. -/
lemma ofRows_eq_ok_congr (h : List.Forall₂ (fun r r' => r.entries.Perm r'.entries) rest rest')
    {i : Insertion} :
    ofRows table (first :: rest) = .ok i ↔ ofRows table (first :: rest') = .ok i := by
  have hinsertable : Insertable table first rest ↔ Insertable table first rest' := by
    constructor
    · intro hi
      exact ⟨hi.columns, hi.table, hi.noAlias, (forall_matches_congr h).mp hi.rows⟩
    · intro hi
      exact ⟨hi.columns, hi.table, hi.noAlias, (forall_matches_congr h).mpr hi.rows⟩
  simp only [ofRows_eq_ok_iff, hinsertable, List.forall₂_cons_left_iff, forall₂_aligned_congr h]

end Insertion

namespace Query

/-- Inserting without a compound select: when it succeeds, the text and the parameters of the
statement, what it fails with, and that the order of the entries in the rows after the first does
not count. -/
theorem compileInsert_plain {c : Config} {q : Query} {rows : Rows}
    (hplain : c.insertsCompound rows.toList = false) :
    ((∃ s, q.compileInsert c rows = .ok s) ↔
      ∃ first rest, rows.toList = first :: rest ∧ Insertable q.table first rest) ∧
    (∀ first rest s, rows.toList = first :: rest → q.compileInsert c rows = .ok s →
      ∃ table groups, q.table.template = .ok table ∧
        List.Forall₂ first.Aligned (first :: rest) groups ∧
        s.sql = InsertionText.plain
          { table := table.render c.dialect 0
            columns := first.columns.map fun column => (path column.toList).render c.dialect 0
            groups := Value.groupTexts c.dialect 0 groups } ∧
        s.params = groups.flatten.filterMap Value.bound?) ∧
    (∀ e, q.compileInsert c rows = .error e ↔ InsertionFault q.table rows.toList e) ∧
    (∀ first rest rest', rows.toList = first :: rest →
      List.Forall₂ (fun r r' => r.entries.Perm r'.entries) rest rest' →
      ∀ s, q.compileInsert c rows = .ok s ↔
        q.compileInsert c (.batch (first :: rest')) = .ok s) ∧
    ∀ r, q.compileInsert c (.single r) = q.compileInsert c (.batch [r]) := by
  refine ⟨?_, ?_, ?_, ?_, fun r => rfl⟩
  · constructor
    · rintro ⟨s, hs⟩
      obtain ⟨i, hi, -⟩ := compileInsert_eq_ok.mp hs
      cases hrows : rows.toList with
      | nil => simp [hrows, Insertion.ofRows] at hi
      | cons first rest =>
        rw [hrows] at hi
        exact ⟨first, rest, rfl, Insertion.exists_ofRows_iff.mp ⟨i, hi⟩⟩
    · rintro ⟨first, rest, hrows, h⟩
      obtain ⟨i, hi⟩ := Insertion.exists_ofRows_iff.mpr h
      exact ⟨_, compileInsert_eq_ok.mpr ⟨i, hrows ▸ hi, rfl⟩⟩
  · intro first rest s hrows hs
    obtain ⟨i, hi, rfl⟩ := compileInsert_eq_ok.mp hs
    rw [hrows] at hi
    obtain ⟨-, ht, hcolumns, hgroups⟩ := Insertion.ofRows_eq_ok_iff.mp hi
    refine ⟨i.table, i.groups, ht, hgroups, ?_, rfl⟩
    rw [Insertion.statement, hplain, if_neg Bool.false_ne_true, Insertion.text, hcolumns,
      List.map_map]
    rfl
  · intro e
    rw [compileInsert_eq_error, Insertion.ofRows_eq_error_iff]
  · intro first rest rest' hrows hperm s
    have hcompound : c.insertsCompound (first :: rest') = c.insertsCompound (first :: rest) := by
      simp [Config.insertsCompound, hperm.length_eq]
    rw [compileInsert_eq_ok, compileInsert_eq_ok, hrows]
    change _ ↔ ∃ i, Insertion.ofRows q.table (first :: rest') = .ok i ∧
      i.statement c.dialect (c.insertsCompound (first :: rest')) = s
    simp only [Insertion.ofRows_eq_ok_congr hperm, hcompound]

/-- A row of three columns. -/
def headRow : Row :=
  Row.ofList [("a", .param (.int 1)), ("b", .expr ⟨"now()"⟩), ("c", .param .null)]

/-- A row with the columns of the first in the same order. -/
def alignedRow : Row :=
  Row.ofList [("a", .expr ⟨"2 * 3"⟩), ("b", .param (.text "x")), ("c", .param (.bool true))]

/-- The same row in another order. -/
def permutedRow : Row :=
  Row.ofList [("c", .param (.bool true)), ("a", .expr ⟨"2 * 3"⟩), ("b", .param (.text "x"))]

/-- A row that has two other columns and lacks two. -/
def strayRow : Row :=
  Row.ofList [("b", .param .null), ("d", .param .null), ("e", .param .null)]

/-- The values of a permuted row go to their columns, and a row with other columns is refused for
the first of them. -/
theorem compileInsert_permutedRow :
    Config.insertsCompound { dialect := .postgres } [headRow, permutedRow, strayRow] = false ∧
    compileInsert { dialect := .postgres } { table := .name "t" } (.batch [headRow, permutedRow])
      = .ok
        { sql := "INSERT INTO \"t\" (\"a\", \"b\", \"c\") "
            ++ "VALUES ($1, now(), $2), (2 * 3, $3, $4)"
          params := [.int 1, .null, .text "x", .bool true] } ∧
    compileInsert { dialect := .postgres } { table := .name "t" }
      (.batch [headRow, permutedRow, strayRow]) = .error (.mismatchedRow 2 "d") := by
  have hpair : Config.insertsCompound { dialect := .postgres } [headRow, alignedRow] = false := rfl
  have htriple : Config.insertsCompound { dialect := .postgres }
      [headRow, permutedRow, strayRow] = false := rfl
  refine ⟨htriple, ?_, ?_⟩
  · have haligned : compileInsert { dialect := .postgres } { table := .name "t" }
        (.batch [headRow, alignedRow]) = .ok
          { sql := "INSERT INTO \"t\" (\"a\", \"b\", \"c\") "
              ++ "VALUES ($1, now(), $2), (2 * 3, $3, $4)"
            params := [.int 1, .null, .text "x", .bool true] } := by cbv
    have hperm : alignedRow.entries.Perm permutedRow.entries := by decide
    exact ((compileInsert_plain hpair).2.2.2.1 headRow [alignedRow] [permutedRow] rfl
      (.cons hperm .nil) _).mp haligned
  · have ht : (Identifier.name "t").template = .ok [.name "t"] := by cbv
    have halias : headRow.columns.find? mentionsAlias = none := by cbv
    have hrows : [headRow, permutedRow, strayRow] = [headRow, permutedRow] ++ [strayRow] := rfl
    have hmatch : ∀ r ∈ [headRow, permutedRow], headRow.mismatch? r = none := by decide
    apply ((compileInsert_plain htriple).2.2.1 _).mpr
    apply InsertionFault.row (by decide) ht halias hrows
    · exact fun r hr => Row.mismatch?_eq_none_iff.mp (hmatch r hr)
    · decide

end Query

end BoundSql
