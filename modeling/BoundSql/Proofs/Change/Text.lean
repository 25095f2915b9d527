import BoundSql.Proofs.Insertion.Batch

/-!
# The texts of updates and deletions

An update and a deletion are each a start, which names the table and what is assigned, and the
`WHERE` clause of the query behind it. The values assigned are bound first, so that the clause of
an update is written with the placeholders after theirs. What is cut at the end of the text is
white space, and the pieces of the statement are cut as their text is.
-/

namespace BoundSql

open Template

/-! ### Cutting a text -/

namespace Text

/-- A text is cut in its second part, and in the first only if nothing is left of the second. -/
lemma trimEnd_append (cs ds : List Char) :
    trimEnd (cs ++ ds) = if trimEnd ds = [] then trimEnd cs else cs ++ trimEnd ds := by
  rw [trimEnd, List.reverse_append, List.dropWhile_append]
  by_cases hds : ds.reverse.dropWhile isBlank = []
  · simp [trimEnd, hds]
  · simp [trimEnd, hds]

/-- A text with a last character, which is not white space. -/
def Solid (cs : List Char) : Prop := cs.getLast?.any (fun c => !isBlank c) = true

instance (cs : List Char) : Decidable (Solid cs) := inferInstanceAs (Decidable (_ = true))

namespace Solid

variable {cs : List Char}

lemma exists_eq_concat (h : Solid cs) : ∃ init c, cs = init ++ [c] ∧ isBlank c = false := by
  obtain ⟨c, hc, hblank⟩ := (Option.any_eq_true _ _).mp h
  obtain ⟨init, rfl⟩ := List.getLast?_eq_some_iff.mp hc
  exact ⟨init, c, rfl, by simpa using hblank⟩

lemma ne_nil (h : Solid cs) : cs ≠ [] := by
  rintro rfl
  simp [Solid] at h

/-- Whatever stands before it. -/
lemma append (h : Solid cs) (before : List Char) : Solid (before ++ cs) := by
  rw [Solid, List.getLast?_append_of_ne_nil _ h.ne_nil]
  exact h

/-- Nothing is cut from it. -/
lemma trimEnd_eq (h : Solid cs) : trimEnd cs = cs := by
  obtain ⟨init, c, rfl, hblank⟩ := h.exists_eq_concat
  exact List.rdropWhile_concat_neg _ _ _ (by simp [hblank])

lemma of_forall (hne : cs ≠ []) (h : ∀ c ∈ cs, isBlank c = false) : Solid cs := by
  simp [Solid, List.getLast?_eq_some_getLast hne, h _ (List.getLast_mem hne)]

end Solid

/-- What does not end in white space is kept, whatever stands behind it. -/
lemma isPrefix_trimEnd_append {cs : List Char} (h : trimEnd cs = cs) (ds : List Char) :
    cs <+: trimEnd (cs ++ ds) := by
  rw [trimEnd_append, h]
  split_ifs
  · exact List.prefix_rfl
  · exact List.prefix_append _ _

/-- Only white space is cut. -/
lemma exists_eq_trimEnd_append (cs : List Char) :
    ∃ blanks, (∀ c ∈ blanks, isBlank c = true) ∧ cs = trimEnd cs ++ blanks :=
  ⟨cs.rtakeWhile isBlank, fun _ => List.mem_rtakeWhile_imp,
    List.rdropWhile_append_rtakeWhile.symm⟩

end Text

/-! ### Cutting a template -/

namespace Dialect

lemma solid_quote (d : Dialect) (s : String) : Text.Solid (d.quote s).toList := by
  have hmark : Text.Solid [d.quoteMark] := by cases d <;> decide
  rw [quote, String.toList_ofList]
  exact hmark.append _

lemma solid_placeholder (d : Dialect) (n : Nat) : Text.Solid (d.placeholder n).toList := by
  have hdigit : ∀ c : Char, c.isDigit = true → Text.isBlank c = false := by
    intro c hc
    have hrange : 48 ≤ c.toNat ∧ c.toNat ≤ 57 := by
      simpa [Char.isDigit, UInt32.le_iff_toNat_le] using hc
    simp [Text.isBlank]
    omega
  cases d with
  | postgres =>
    have hrepr : Text.Solid n.repr.toList := by
      rw [Nat.toList_repr]
      exact .of_forall Nat.toDigits_ne_nil fun c hc =>
        hdigit c (Nat.isDigit_of_mem_toDigits (by decide) (by decide) hc)
    rw [placeholder, String.toList_append]
    exact hrepr.append _
  | generic | mysql | sqlite => simp only [placeholder]; decide

end Dialect

namespace Template

variable {d : Dialect} {bound : Nat}

/-- White space is cut from the text of a template as it is from its last texts. -/
lemma chars_trimEnd (t : Template) :
    chars d bound (trimEnd t) = Text.trimEnd (chars d bound t) := by
  induction t using List.reverseRecOn with
  | nil => rfl
  | append_singleton t p ih =>
    cases p with
    | text s =>
      have htext : ∀ n, chars d n [.text s] = s.toList := fun n => by simp [chars]
      rw [trimEnd_concat_text, chars_append, htext, Text.trimEnd_append]
      split_ifs
      · exact ih
      · simp [chars_append, chars, trimmed]
    | name s =>
      rw [trimEnd_concat_name, chars_append, chars, chars, List.append_nil,
        ((d.solid_quote s).append _).trimEnd_eq]
    | slot v =>
      rw [trimEnd_concat_slot, chars_append, chars, chars, List.append_nil,
        ((d.solid_placeholder _).append _).trimEnd_eq]

lemma render_trimEnd (t : Template) : (trimEnd t).render d bound = trimmed (t.render d bound) := by
  rw [render, render, chars_trimEnd, trimmed, String.toList_ofList]

end Template

/-! ### The statements -/

/-- What compiles as a whole is written behind the values that are bound already. -/
lemma Outcome.write_of_toExcept {o : Outcome} {t : Template} (h : o.toExcept = .ok t) (d : Dialect)
    (b : Bindings) : o.write d b = (.ok (t.render d b.size), b.append t.params) := by
  obtain ⟨herror, rfl⟩ := Outcome.toExcept_eq_ok.mp h
  rw [write, herror]

/-- The assignments of a row, one for each column in their order. -/
def Row.assignmentTexts (d : Dialect) (r : Row) : List String :=
  List.zipWith (fun column value => column ++ " = " ++ value)
    (r.columns.map fun column => (path column.toList).render d 0) (Value.texts d 0 r.values)

/-- What an update starts with. -/
def updateStart (d : Dialect) (table : Template) (row : Row) : String :=
  "UPDATE " ++ table.render d 0 ++ " SET " ++ ", ".intercalate (row.assignmentTexts d)

/-- What a deletion starts with. -/
def deletionStart (d : Dialect) (table : Template) : String :=
  "DELETE FROM " ++ table.render d 0

/-- Assignments are written one by one, up to the first column with an alias. -/
lemma mapM_assignment (entries : List (String × Value)) :
    entries.mapM assignment = match (entries.map Prod.fst).find? mentionsAlias with
      | some column => .error (.aliasNotAllowed column)
      | none => .ok (entries.map fun e => path e.1.toList ++ .text " = " :: e.2.template) := by
  induction entries with
  | nil => rfl
  | cons e entries ih =>
    rw [List.mapM_cons, ih, List.map_cons, List.find?_cons, assignment, columnReference]
    cases mentionsAlias e.1 with
    | true => rfl
    | false => cases (entries.map Prod.fst).find? mentionsAlias <;> rfl

lemma renderEach_assignments {d : Dialect} (bound : Nat) (entries : List (String × Value)) :
    renderEach d bound (entries.map fun e => path e.1.toList ++ .text " = " :: e.2.template)
      = List.zipWith (fun column value => column ++ " = " ++ value)
        ((entries.map Prod.fst).map fun column => (path column.toList).render d 0)
        (Value.texts d bound (entries.map Prod.snd)) := by
  induction entries generalizing bound with
  | nil => rfl
  | cons e entries ih =>
    have hpath : render d bound (path e.1.toList) = render d 0 (path e.1.toList) :=
      render_of_params_eq_nil (params_path e.1.toList)
    simp [renderEach, Value.texts, render_append, hpath, ih, String.append_assoc]

lemma params_assignments (entries : List (String × Value)) :
    (entries.map fun e => path e.1.toList ++ .text " = " :: e.2.template).flatMap params
      = (entries.map Prod.snd).filterMap Value.bound? := by
  induction entries with
  | nil => rfl
  | cons e entries ih =>
    rw [List.map_cons, List.flatMap_cons, ih, List.map_cons, List.filterMap_cons]
    cases h : e.2 <;> simp [Value.bound?, Value.template]

namespace Query

variable {c : Config} {q : Query} {row : Row} {s : Statement} {table clause : Template}

/-- A deletion is its start with the `WHERE` clause behind it. -/
lemma statement_deleteTemplate (d : Dialect) (ht : q.table.template = .ok table) :
    Template.statement d (trimEnd (.text "DELETE FROM " :: table ++ .text " " :: clause))
      = { sql := trimmed (deletionStart d table ++ " " ++ clause.render d 0)
          params := clause.params } := by
  simp [statement, deletionStart, render_trimEnd, render_append, q.table.params_template ht,
    String.append_assoc]

/-- An update is its start with the `WHERE` clause behind it, whose placeholders come after those
of the assignments. -/
lemma statement_updateTemplate (d : Dialect) (ht : q.table.template = .ok table) :
    Template.statement d (trimEnd (.text "UPDATE " :: table ++ .text " SET " ::
        Template.join ", " (row.entries.map fun e => path e.1.toList ++ .text " = " :: e.2.template)
        ++ .text " " :: clause))
      = { sql := trimmed (updateStart d table row ++ " " ++ clause.render d row.bound.length)
          params := row.bound ++ clause.params } := by
  have hparams : (row.entries.map fun e => path e.1.toList ++ .text " = " :: e.2.template).flatMap
      params = row.bound := params_assignments row.entries
  simp [statement, updateStart, Row.assignmentTexts, render_trimEnd, render_append, render_join,
    renderEach_assignments, hparams, q.table.params_template ht, Row.columns, Row.values,
    String.append_assoc]

lemma compileDelete_eq_ok :
    q.compileDelete c = .ok s ↔ ∃ table clause, q.table.template = .ok table ∧
      (whereClause q.clauses).toExcept = .ok clause ∧
      s = { sql := trimmed (deletionStart c.dialect table ++ " " ++ clause.render c.dialect 0)
            params := clause.params } := by
  rw [compileDelete, map_eq_ok, deleteTemplate]
  simp only [bind_eq_ok, pure_eq_ok]
  constructor
  · rintro ⟨_, ⟨table, ht, clause, hc, rfl⟩, rfl⟩
    exact ⟨table, clause, ht, hc, statement_deleteTemplate c.dialect ht⟩
  · rintro ⟨table, clause, ht, hc, rfl⟩
    exact ⟨_, ⟨table, ht, clause, hc, rfl⟩, statement_deleteTemplate c.dialect ht⟩

lemma compileUpdate_eq_ok :
    q.compileUpdate c row = .ok s ↔ row.columns ≠ [] ∧
      ∃ table clause, q.table.template = .ok table ∧ row.columns.find? mentionsAlias = none ∧
        (whereClause q.clauses).toExcept = .ok clause ∧
        s = { sql := trimmed (updateStart c.dialect table row ++ " "
                ++ clause.render c.dialect row.bound.length)
              params := row.bound ++ clause.params } := by
  rw [compileUpdate, map_eq_ok, updateTemplate]
  by_cases hcolumns : row.columns = []
  · simp [Row.isEmpty_iff.mpr hcolumns, hcolumns]
  · rw [if_neg (Row.isEmpty_iff.not.mpr hcolumns)]
    simp only [bind_eq_ok, pure_eq_ok, mapM_assignment]
    constructor
    · rintro ⟨_, ⟨table, ht, ts, hts, clause, hc, rfl⟩, rfl⟩
      cases halias : (row.entries.map Prod.fst).find? mentionsAlias with
      | some column => simp [halias] at hts
      | none =>
        rw [halias] at hts
        obtain rfl := Except.ok.inj hts
        exact ⟨hcolumns, table, clause, ht, halias, hc, statement_updateTemplate c.dialect ht⟩
    · rintro ⟨-, table, clause, ht, halias, hc, rfl⟩
      refine ⟨_, ⟨table, ht, _, ?_, clause, hc, rfl⟩, statement_updateTemplate c.dialect ht⟩
      rw [Row.columns] at halias
      rw [halias]

end Query

end BoundSql
