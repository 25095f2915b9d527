import BoundSql.Proofs.Selection.Reading
import BoundSql.Proofs.Selection.Unique

/-!
# Selecting loses nothing

A `SELECT` statement determines the query that it was compiled from, up to what the canonical form
of a query leaves out.
-/

namespace BoundSql

open Template Text

lemma Query.Plain.composed {d : Dialect} {q : Query} {t : Template} (hq : q.Plain)
    (h : q.selectTemplate d = .ok t) : Composed (Unmarked d) t :=
  composed_selectTemplate (admits_unmarked d) (by simp [hq.rawTexts])
    (fun a ha => unmarked_call
      (unmarked_of_markFree (markFree_of_isPlainName (hq.function a ha).2))) h

/-- What a statement is read as, the query that it was compiled from is read as. -/
lemma Query.Plain.exists_readsAs_statement {c : Config} {q : Query} {s : Statement} (hq : q.Plain)
    (h : q.compileSelect c = .ok s) :
    ∃ x : Selection, q.ReadsAs c.dialect x ∧ x.tokens = readTokens c.dialect s.params 0 s.sql := by
  obtain ⟨t, ht, rfl⟩ := map_eq_ok.mp h
  obtain ⟨x, hx, htokens⟩ := exists_readsAs hq ht
  have hread := readTokens_render (hq.composed ht) {}
  exact ⟨x, hx, htokens.trans hread.symm⟩

/-- Two plain queries compile to one statement if and only if they have one canonical form. -/
theorem Query.statement_eq_iff_canonical_eq {c : Config} {q q' : Query} {s s' : Statement}
    (hq : q.Plain) (hq' : q'.Plain) (h : q.compileSelect c = .ok s)
    (h' : q'.compileSelect c = .ok s') :
    s = s' ↔ q.canonical c.dialect = q'.canonical c.dialect := by
  constructor
  · rintro rfl
    obtain ⟨x, hx, htokens⟩ := hq.exists_readsAs_statement h
    obtain ⟨x', hx', htokens'⟩ := hq'.exists_readsAs_statement h'
    obtain rfl : x = x' := Selection.tokens_injective (htokens.trans htokens'.symm)
    exact hx.canonical_eq hx'
  · intro hcanonical
    rw [compileSelect_congr hcanonical, h'] at h
    exact (Except.ok.inj h).symm

/-- A count of everything behind the fifth row. -/
def terseCount : Query where
  table := .name "users  as u"
  columns := [.name "x"]
  distinct := true
  aggregate? := some ⟨"count", .name "u.id"⟩
  clauses := [{ predicate := .isIn (.name "a") [] },
    { connector := .or, predicate := .compare (.name "a, b") .eq (.param (.int 1)) }]
  offset? := some 5

/-- The same count with an explicit limit, spelled another way. -/
def explicitCount : Query where
  table := .name "users AS u"
  aggregate? := some ⟨"Count", .name "u.id"⟩
  clauses := [{ predicate := .isIn (.name "b") [] },
    { connector := .or, predicate := .compare (.name "a, b") .eq (.param (.int 1)) }]
  limit? := some 18446744073709551615
  offset? := some 5

/-- On mysql the counts are one query, on sqlite they are two. -/
theorem Query.canonical_terseCount :
    terseCount.Plain ∧ explicitCount.Plain ∧ terseCount ≠ explicitCount ∧
    (∃ s, terseCount.compileSelect { dialect := .mysql } = .ok s ∧
      explicitCount.compileSelect { dialect := .mysql } = .ok s ∧
      s.sql = "SELECT COUNT(`u`.`id`) FROM `users` AS `u` WHERE 1 = 1 AND 0 = 1 OR `a, b` = ? "
        ++ "LIMIT 18446744073709551615 OFFSET 5") ∧
    terseCount.canonical .mysql = explicitCount.canonical .mysql ∧
    terseCount.canonical .sqlite ≠ explicitCount.canonical .sqlite := by
  have hterse : terseCount.Plain := ⟨rfl, by simp [terseCount]; decide⟩
  have hexplicit : explicitCount.Plain := ⟨rfl, by simp [explicitCount]; decide⟩
  have hwritten : terseCount.compileSelect { dialect := .mysql } = .ok
      { sql := "SELECT COUNT(`u`.`id`) FROM `users` AS `u` WHERE 1 = 1 AND 0 = 1 OR `a, b` = ? "
          ++ "LIMIT 18446744073709551615 OFFSET 5",
        params := [.int 1] } := by cbv
  have hwritten' : explicitCount.compileSelect { dialect := .mysql } = .ok
      { sql := "SELECT COUNT(`u`.`id`) FROM `users` AS `u` WHERE 1 = 1 AND 0 = 1 OR `a, b` = ? "
          ++ "LIMIT 18446744073709551615 OFFSET 5",
        params := [.int 1] } := by cbv
  refine ⟨hterse, hexplicit, by decide, ⟨_, hwritten, hwritten', rfl⟩, ?_, ?_⟩
  · exact (statement_eq_iff_canonical_eq hterse hexplicit hwritten hwritten').mp rfl
  · intro h
    have hlimit : (none : Option UInt64) = some 18446744073709551615 :=
      congrArg (fun q : Query => q.limit?) h
    simp at hlimit

end BoundSql
