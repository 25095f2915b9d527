import BoundSql.Proofs.Insertion.Batch

/-!
# Compound inserts

Writing rows as a compound select instead of groups of values changes the text of the statement
and nothing else, and nothing but inserting several rows on sqlite depends on that choice.
-/

namespace BoundSql

/-- Only sqlite writes rows as a compound select, and only several rows. -/
lemma Config.insertsCompound_eq_false {c : Config} {rows : List Row}
    (h : ¬(c.dialect = .sqlite ∧ 2 ≤ rows.length)) : c.insertsCompound rows = false := by
  rw [insertsCompound, Bool.and_eq_false_iff, Bool.and_eq_false_iff, decide_eq_false_iff_not,
    decide_eq_false_iff_not]
  rw [not_and_or] at h
  obtain hdialect | hlength := h
  · exact Or.inl (Or.inl hdialect)
  · exact Or.inr hlength

/-- The texts of an insertion have an item for each row and column. -/
lemma Insertion.length_text {d : Dialect} {i : Insertion} (h : i.Regular) :
    (i.text d).groups.length = i.groups.length ∧
      ∀ items ∈ (i.text d).groups, items.length = (i.text d).columns.length := by
  have hlengths : (i.text d).groups.map List.length = i.groups.map List.length :=
    Value.map_length_groupTexts i.groups
  constructor
  · simpa using congrArg List.length hlengths
  · intro items hitems
    have hmem : items.length ∈ i.groups.map List.length := by
      rw [← hlengths]
      exact List.mem_map_of_mem hitems
    obtain ⟨vs, hvs, hlength⟩ := List.mem_map.mp hmem
    rw [← hlength, h.lengths vs hvs, text, List.length_map]

namespace Query

/-- With and without compound inserts the same rows are refused, for the same reason, and those that
are inserted are inserted with the same parameters. The texts have the same opening and the same
items: as groups of values, or as selects of which the first names the columns. Nothing else
depends on the choice. -/
theorem compileInsert_compound (q : Query) (rows : Rows) :
    (∀ e, q.compileInsert { dialect := .sqlite } rows = .error e ↔
      q.compileInsert { dialect := .sqlite, compoundInsert := true } rows = .error e) ∧
    (∀ s, q.compileInsert { dialect := .sqlite } rows = .ok s → ∃ text : InsertionText,
      s.sql = text.plain ∧
      text.groups.length = rows.toList.length ∧
      (∀ items ∈ text.groups, items.length = text.columns.length) ∧
      (∃ i, Insertion.ofRows q.table rows.toList = .ok i ∧ text = i.text .sqlite) ∧
      q.compileInsert { dialect := .sqlite, compoundInsert := true } rows = .ok
        { sql := if 2 ≤ rows.toList.length then text.compound else s.sql, params := s.params }) ∧
    ∀ d compound compound',
      q.compileSelect ⟨d, compound⟩ = q.compileSelect ⟨d, compound'⟩ ∧
      (∀ row, q.compileUpdate ⟨d, compound⟩ row = q.compileUpdate ⟨d, compound'⟩ row) ∧
      q.compileDelete ⟨d, compound⟩ = q.compileDelete ⟨d, compound'⟩ ∧
      (¬(d = .sqlite ∧ 2 ≤ rows.toList.length) →
        q.compileInsert ⟨d, compound⟩ rows = q.compileInsert ⟨d, compound'⟩ rows) := by
  refine ⟨?_, ?_, ?_⟩
  · intro e
    rw [compileInsert_eq_error, compileInsert_eq_error]
  · intro s hs
    obtain ⟨i, hi, rfl⟩ := compileInsert_eq_ok.mp hs
    obtain ⟨hgroups, hitems⟩ :=
      Insertion.length_text (d := .sqlite) (Insertion.regular_of_ofRows hi)
    have hrows : i.groups.length = rows.toList.length := by
      obtain ⟨first, rest, -, -, -, hgs⟩ := Insertion.ofRows_eq_ok hi
      exact hgs.length_eq.symm
    refine ⟨i.text .sqlite, rfl, hgroups.trans hrows, hitems, ⟨i, hi, rfl⟩, ?_⟩
    apply compileInsert_eq_ok.mpr
    refine ⟨i, hi, ?_⟩
    rw [Insertion.statement, Insertion.statement]
    by_cases hseveral : 2 ≤ rows.toList.length
    · simp [Config.insertsCompound, hseveral]
    · simp [Config.insertsCompound, hseveral]
  · intro d compound compound'
    refine ⟨rfl, fun row => rfl, rfl, ?_⟩
    intro h
    rw [compileInsert_eq, compileInsert_eq, Config.insertsCompound_eq_false h,
      Config.insertsCompound_eq_false h]

/-- Two rows as a compound select, of which the second has its columns in another order. -/
theorem compileInsert_compound_permutedRow :
    compileInsert { dialect := .sqlite } { table := .name "t" } (.batch [headRow, permutedRow])
      = .ok
        { sql := "INSERT INTO \"t\" (\"a\", \"b\", \"c\") VALUES (?, now(), ?), (2 * 3, ?, ?)"
          params := [.int 1, .null, .text "x", .bool true] } ∧
    compileInsert { dialect := .sqlite, compoundInsert := true } { table := .name "t" }
      (.batch [headRow, permutedRow]) = .ok
        { sql := "INSERT INTO \"t\" (\"a\", \"b\", \"c\") SELECT ? AS \"a\", now() AS \"b\", "
            ++ "? AS \"c\" UNION ALL SELECT 2 * 3, ?, ?"
          params := [.int 1, .null, .text "x", .bool true] } := by
  have hplain : compileInsert { dialect := .sqlite } { table := .name "t" }
      (.batch [headRow, permutedRow]) = .ok
        { sql := "INSERT INTO \"t\" (\"a\", \"b\", \"c\") VALUES (?, now(), ?), (2 * 3, ?, ?)"
          params := [.int 1, .null, .text "x", .bool true] } := by cbv
  have hrows : Insertion.ofRows (.name "t") [headRow, permutedRow] = .ok
      { table := [.name "t"]
        columns := [[.name "a"], [.name "b"], [.name "c"]]
        groups := [[.param (.int 1), .expr ⟨"now()"⟩, .param .null],
          [.expr ⟨"2 * 3"⟩, .param (.text "x"), .param (.bool true)]] } := by cbv
  obtain ⟨text, -, -, -, ⟨i, hi, rfl⟩, hcompound⟩ := (compileInsert_compound _ _).2.1 _ hplain
  obtain rfl := Except.ok.inj (hrows.symm.trans hi)
  refine ⟨hplain, hcompound.trans ?_⟩
  cbv

end Query

end BoundSql
