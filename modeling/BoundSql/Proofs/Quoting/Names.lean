import BoundSql.Proofs.Change.Text
import BoundSql.Proofs.Quoting.Reading

/-!
# Reading names back

The text of a name says whether it has an alias and what its parts are: outside quotes there are
blanks in it only around the keyword of an alias. A column that is written to has the same text as
in any other place. So the columns of a row that is inserted or assigned, which are never repeated,
have texts that are all different.
-/

namespace BoundSql

open Template Text

/-! ### The texts of names -/

/-- The text of a name of a table or column. -/
def nameText (d : Dialect) (s : String) : Except Error String :=
  (·.render d 0) <$> nameReference s

/-- The text of a name of a column that is written to. -/
def columnText (d : Dialect) (s : String) : Except Error String :=
  (·.render d 0) <$> columnReference s

/-- What the text of a name is read as. -/
inductive NameReading where
  | path (segments : List (List Char))
  | aliased (expr label : List (List Char))
deriving DecidableEq

/-- A name read back from its text, which is cut at the blanks outside quotes. -/
def readName? (d : Dialect) (s : String) : Option NameReading :=
  match cut d.quoteMark ' ' s.toList with
  | [_] => (readPath? d s).map .path
  | [expr, ['A', 'S'], label] => do
    let expr ← readPath? d (String.ofList expr)
    let label ← readPath? d (String.ofList label)
    pure (.aliased expr label)
  | _ => none

variable {d : Dialect} {s text : String}

lemma not_mentionsAlias_iff :
    mentionsAlias s = false ↔ ¬[' ', 'a', 's', ' '] <:+: s.toLower.toList := by
  rw [← mentionsAlias_eq_true_iff, Bool.not_eq_true]

lemma nameText_of_not_mentionsAlias (h : mentionsAlias s = false) :
    nameText d s = .ok (pathText d s) := by
  rw [nameText, nameReference, h]
  rfl

lemma columnText_of_not_mentionsAlias (h : mentionsAlias s = false) :
    columnText d s = .ok (pathText d s) := by
  rw [columnText, columnReference, h]
  rfl

/-- A column that is written to has the text that it has elsewhere. -/
lemma nameText_of_columnText (h : columnText d s = .ok text) : nameText d s = .ok text := by
  cases halias : mentionsAlias s with
  | true =>
    rw [columnText, columnReference, halias] at h
    cases h
  | false =>
    rw [columnText_of_not_mentionsAlias halias] at h
    rw [nameText_of_not_mentionsAlias halias, h]

/-- A name with an alias is written on both sides of the keyword. -/
lemma exists_of_nameText (halias : mentionsAlias s = true) (h : nameText d s = .ok text) :
    ∃ expr keyword label, words s.toList = [expr, keyword, label] ∧
      (String.ofList keyword).toLower = "as" ∧
      text = pathText d (String.ofList expr) ++ " AS " ++ pathText d (String.ofList label) := by
  obtain ⟨t, ht, rfl⟩ := map_eq_ok.mp h
  rw [nameReference, if_pos halias] at ht
  cases hparts : aliasParts? s with
  | none => simp [hparts] at ht
  | some parts =>
    obtain ⟨expr, label⟩ := parts
    rw [hparts] at ht
    obtain rfl := Except.ok.inj ht
    obtain ⟨keyword, hwords, hkeyword⟩ := aliasParts?_eq_some_iff.mp hparts
    refine ⟨expr, keyword, label, hwords, hkeyword, ?_⟩
    simp [pathText, render_append, String.append_assoc]

/-! ### Reading them back -/

lemma readName?_pathText (s : String) :
    readName? d (pathText d s) = some (.path (s.toList.splitOn '.')) := by
  rw [readName?, (whole_pathText s).cut_eq, readPath?_pathText, Option.map_some]

/-- Both sides of an alias are read back. -/
lemma readName?_alias (expr label : String) :
    readName? d (pathText d expr ++ " AS " ++ pathText d label)
      = some (.aliased (expr.toList.splitOn '.') (label.toList.splitOn '.')) := by
  have hkeyword : Whole d.quoteMark ' ' ['A', 'S'] := .of_notMem (by cases d <;> decide) (by decide)
  have hcut : cut d.quoteMark ' ' (pathText d expr ++ " AS " ++ pathText d label).toList
      = [(pathText d expr).toList, ['A', 'S'], (pathText d label).toList] := by
    have hchars : (pathText d expr ++ " AS " ++ pathText d label).toList
        = (pathText d expr).toList ++ ' ' :: (['A', 'S'] ++ ' ' :: (pathText d label).toList) := by
      simp [String.toList_append]
    rw [hchars, (whole_pathText expr).cut_append_cons, hkeyword.cut_append_cons,
      (whole_pathText label).cut_eq]
  rw [readName?, hcut]
  simp only [String.ofList_toList, readPath?_pathText]
  rfl

/-! ### The columns of a row -/

/-- Whether the columns of a row can be written, with texts that are all different. -/
def Row.DistinctTexts (d : Dialect) (r : Row) : Prop :=
  ∃ texts, r.columns.mapM (columnText d) = .ok texts ∧ texts.Nodup

/-- Columns that are written to are never repeated, and different names have different texts. -/
lemma Row.distinctTexts_of_noAlias {r : Row}
    (h : ∀ column ∈ r.columns, ¬[' ', 'a', 's', ' '] <:+: column.toLower.toList) :
    r.DistinctTexts d := by
  have htexts : r.columns.mapM (columnText d) = .ok (r.columns.map (pathText d)) := by
    rw [mapM_eq_ok, List.forall₂_map_right_iff, List.forall₂_same]
    exact fun column hcolumn =>
      columnText_of_not_mentionsAlias (not_mentionsAlias_iff.mpr (h column hcolumn))
  exact ⟨_, htexts, r.nodup.map (pathText_injective d)⟩

namespace Query

variable {c : Config} {q : Query}

/-- Every row of an insertion has the columns of the first one. -/
lemma distinctTexts_of_compileInsert {rows : Rows} {st : Statement}
    (h : q.compileInsert c rows = .ok st) {r : Row} (hr : r ∈ rows.toList) :
    r.DistinctTexts c.dialect := by
  obtain ⟨i, hi, -⟩ := compileInsert_eq_ok.mp h
  cases hrows : rows.toList with
  | nil => simp [hrows] at hr
  | cons first rest =>
    rw [hrows] at hi hr
    have hinsertable := (Insertion.ofRows_eq_ok_iff.mp hi).1
    refine Row.distinctTexts_of_noAlias fun column hcolumn => hinsertable.noAlias column ?_
    rcases List.mem_cons.mp hr with rfl | hr
    · exact hcolumn
    · exact (hinsertable.rows r hr column).mp hcolumn

lemma distinctTexts_of_compileUpdate {row : Row} {st : Statement}
    (h : q.compileUpdate c row = .ok st) : row.DistinctTexts c.dialect := by
  obtain ⟨-, -, -, -, halias, -⟩ := compileUpdate_eq_ok.mp h
  exact Row.distinctTexts_of_noAlias (find?_mentionsAlias_eq_none.mp halias)

end Query

/-- Quoting is undone: the segments of a dotted name are read back from its text, so that the
columns of a row that is inserted or assigned have different texts. A column that is written to has
the text of its name, and the text of an alias is read back as its two sides and never the text of
a name without one. -/
theorem readBack_names (c : Config) :
    (∀ s, readPath? c.dialect (pathText c.dialect s) = some (s.toList.splitOn '.')) ∧
    Function.Injective (pathText c.dialect) ∧
    (∀ (q : Query) rows st, q.compileInsert c rows = .ok st →
      ∀ r ∈ rows.toList, r.DistinctTexts c.dialect) ∧
    (∀ (q : Query) row st, q.compileUpdate c row = .ok st → row.DistinctTexts c.dialect) ∧
    (∀ s text, columnText c.dialect s = .ok text → nameText c.dialect s = .ok text) ∧
    (∀ s, ¬[' ', 'a', 's', ' '] <:+: s.toLower.toList →
      nameText c.dialect s = .ok (pathText c.dialect s)) ∧
    ∀ s text, [' ', 'a', 's', ' '] <:+: s.toLower.toList → nameText c.dialect s = .ok text →
      ∃ expr keyword label, words s.toList = [expr, keyword, label] ∧
        (String.ofList keyword).toLower = "as" ∧
        text = pathText c.dialect (String.ofList expr) ++ " AS "
          ++ pathText c.dialect (String.ofList label) ∧
        readName? c.dialect text = some (.aliased (expr.splitOn '.') (label.splitOn '.')) ∧
        ∀ s', text ≠ pathText c.dialect s' := by
  refine ⟨readPath?_pathText, pathText_injective c.dialect,
    fun q rows st h r hr => Query.distinctTexts_of_compileInsert h hr,
    fun q row st h => Query.distinctTexts_of_compileUpdate h, fun s text => nameText_of_columnText,
    fun s h => nameText_of_not_mentionsAlias (not_mentionsAlias_iff.mpr h), ?_⟩
  intro s text halias htext
  obtain ⟨expr, keyword, label, hwords, hkeyword, rfl⟩ :=
    exists_of_nameText (mentionsAlias_eq_true_iff.mpr halias) htext
  have hread := readName?_alias (d := c.dialect) (String.ofList expr) (String.ofList label)
  rw [String.toList_ofList, String.toList_ofList] at hread
  refine ⟨expr, keyword, label, hwords, hkeyword, rfl, hread, ?_⟩
  intro s' heq
  rw [heq, readName?_pathText] at hread
  cases hread

/-- A row whose columns differ only in dots, marks and stars. -/
def quotedRow : Row :=
  ⟨[("a.b", .param .null), ("a`.`b", .param (.int 1)), ("a``b", .expr ⟨"now()"⟩),
    ("*", .param .null), ("", .param .null)], by decide⟩

/-- The same row in the opposite order. -/
def reversedRow : Row := ⟨quotedRow.entries.reverse, by decide⟩

/-- Marks at the edges of segments are told from those that enclose them, an alias may have more
blanks around its keyword than are written, and a word that ends in `as` makes no alias. -/
theorem readBack_quotedRow :
    (∃ st, ({ table := .name "t" } : Query).compileInsert { dialect := .mysql }
      (.batch [quotedRow, reversedRow]) = .ok st) ∧
    reversedRow.DistinctTexts .mysql ∧
    (∃ st, ({ table := .name "t" } : Query).compileUpdate { dialect := .mysql } quotedRow
      = .ok st) ∧
    quotedRow.DistinctTexts .mysql ∧
    pathText .mysql "a`.`b.*." = "`a```.```b`.*.``" ∧
    readPath? .mysql "`a```.```b`.*.``" = some [['a', '`'], ['`', 'b'], ['*'], []] ∧
    columnText .mysql "a`.`b.*." = .ok "`a```.```b`.*.``" ∧
    nameText .mysql "a`.`b.*." = .ok "`a```.```b`.*.``" ∧
    nameText .mysql "alas poor" = .ok "`alas poor`" ∧
    nameText .mysql "a`.*  aS n" = .ok "`a```.* AS `n`" ∧
    readName? .mysql "`a```.* AS `n`" = some (.aliased [['a', '`'], ['*']] [['n']]) ∧
    ∀ s, pathText .mysql s ≠ "`a```.* AS `n`" := by
  obtain ⟨hread, -, hinsert, hupdate, hcolumn, hplain, halias⟩ :=
    readBack_names { dialect := .mysql }
  obtain ⟨inserted, hinserted⟩ : ∃ st, ({ table := .name "t" } : Query).compileInsert
      { dialect := .mysql } (.batch [quotedRow, reversedRow]) = .ok st := ⟨_, by cbv⟩
  obtain ⟨updated, hupdated⟩ : ∃ st, ({ table := .name "t" } : Query).compileUpdate
      { dialect := .mysql } quotedRow = .ok st := ⟨_, by cbv⟩
  have hpath : pathText .mysql "a`.`b.*." = "`a```.```b`.*.``" := by cbv
  have hsegments : "a`.`b.*.".toList.splitOn '.' = [['a', '`'], ['`', 'b'], ['*'], []] := by cbv
  have hwritten : columnText .mysql "a`.`b.*." = .ok "`a```.```b`.*.``" := by cbv
  have hpoor : pathText .mysql "alas poor" = "`alas poor`" := by cbv
  have hnone : mentionsAlias "alas poor" = false := by cbv
  have hname : nameText .mysql "a`.*  aS n" = .ok "`a```.* AS `n`" := by cbv
  have hmentions : mentionsAlias "a`.*  aS n" = true := by cbv
  have hwords : words "a`.*  aS n".toList = [['a', '`', '.', '*'], ['a', 'S'], ['n']] := by cbv
  obtain ⟨expr, keyword, label, hparts, -, -, hsides, hne⟩ :=
    halias _ _ (mentionsAlias_eq_true_iff.mp hmentions) hname
  simp only [hwords, List.cons.injEq, and_true] at hparts
  obtain ⟨rfl, rfl, rfl⟩ := hparts
  refine ⟨⟨inserted, hinserted⟩, ?_, ⟨updated, hupdated⟩, hupdate _ _ _ hupdated, hpath, ?_,
    hwritten, hcolumn _ _ hwritten, ?_, hname, hsides, fun s => (hne s).symm⟩
  · exact hinsert _ _ _ hinserted reversedRow (List.mem_cons_of_mem _ List.mem_cons_self)
  · rw [← hpath, hread, hsegments]
  · rw [← hpoor]
    exact hplain _ (not_mentionsAlias_iff.mp hnone)

end BoundSql
