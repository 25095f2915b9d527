import BoundSql.Proofs.Building.Interleaving
import BoundSql.Proofs.Change.Filter
import BoundSql.Proofs.Condition.OnePass

/-!
# Queries that are built further

Further steps append to the filter of a query and never go back: what was bound before stays bound
in its place, what was written of the `WHERE` clause stays as it is, and a new condition is written
behind it with the next placeholders.
-/

namespace BoundSql

open Template

/-- The start of a `WHERE` clause that a condition is added to. -/
def seeded (clause : String) : String := if clause = "" then "WHERE 1 = 1" else clause

lemma isPrefix_seeded_append (clause text : String) :
    clause.toList <+: (seeded clause ++ text).toList := by
  rw [seeded]
  split_ifs with hempty
  · rw [hempty]
    exact List.nil_prefix
  · rw [String.toList_append]
    exact List.prefix_append _ _

variable {d : Dialect} {cs ds : List Clause} {t u : Template}

/-- Clauses that are added are written behind those that are there. -/
lemma exists_clauseChain_of_append (ht : (whereClause cs).toExcept = .ok t)
    (hu : (whereClause (cs ++ ds)).toExcept = .ok u) :
    ∃ v, (clauseChain ds).toExcept = .ok v ∧ u.params = t.params ++ v.params ∧
      u.render d 0 = (if ds = [] then t.render d 0 else seeded (t.render d 0))
        ++ v.render d t.params.length := by
  by_cases hds : ds = []
  · subst hds
    rw [List.append_nil, ht] at hu
    obtain rfl := Except.ok.inj hu
    exact ⟨[], rfl, by simp, by simp⟩
  · obtain ⟨hnil, -⟩ | ⟨-, w, hw, rfl⟩ := whereClause_eq_ok.mp hu
    · exact absurd (List.append_eq_nil_iff.mp hnil).2 hds
    rw [if_neg hds, seeded]
    obtain ⟨rfl, rfl⟩ | ⟨hcs, x, hx, rfl⟩ := whereClause_eq_ok.mp ht
    · exact ⟨w, hw, by simp, by simp⟩
    · rw [clauseChain_append hx, Outcome.toExcept_eq_ok] at hw
      obtain ⟨herror, rfl⟩ := hw
      exact ⟨_, Outcome.toExcept_eq_ok.mpr ⟨herror, rfl⟩, by simp,
        by simp [render_append, String.append_assoc]⟩

@[simp] lemma write_clauseChain_nil (b : Bindings) : (clauseChain []).write d b = (.ok "", b) := by
  simp [clauseChain, Outcome.write]

/-- One clause is written behind its connector. -/
lemma write_clauseChain_singleton {c : Clause} {b b' : Bindings} {text : String}
    (h : (clauseChain [c]).write d b = (.ok text, b')) :
    ∃ condition, (Outcome.ofExcept c.predicate.template).write d b = (.ok condition, b') ∧
      b' = b.append c.predicate.bound ∧
      text = " " ++ c.connector.keyword ++ " " ++ condition := by
  cases hc : c.predicate.template with
  | error e => simp [clauseChain, hc, Outcome.write] at h
  | ok t =>
    obtain ⟨rfl, rfl⟩ : " " ++ c.connector.keyword ++ " " ++ t.render d b.size = text ∧
        b.append t.params = b' := by
      simpa [clauseChain, hc, Outcome.write, String.append_assoc] using h
    exact ⟨_, Outcome.write_ofExcept_ok t, by rw [c.predicate.params_template hc], rfl⟩

namespace Query

variable {c : Config} {q q' : Query} {s s' : Statement}

/-- What clauses add to a selection, whatever else changes. -/
lemma exists_extension (hclauses : q'.clauses = q.clauses ++ ds)
    (h : q.compileSelect c = .ok s) (h' : q'.compileSelect c = .ok s') :
    ∃ part part' text, JoinedOf c.dialect q s part ∧ JoinedOf c.dialect q' s' part' ∧
      (clauseChain ds).write c.dialect ⟨s.params⟩ = (.ok text, ⟨s'.params⟩) ∧
      part' .clauses = (if ds = [] then part .clauses else seeded (part .clauses)) ++ text := by
  obtain ⟨part, hpart, hjoined, hparams⟩ := exists_joinedOf h
  obtain ⟨part', hpart', hjoined', hparams'⟩ := exists_joinedOf h'
  have hclause : (whereClause (q.clauses ++ ds)).toExcept = .ok (part' .clauses) := by
    rw [← hclauses]
    exact hpart' .clauses
  obtain ⟨v, hv, hbound, hrender⟩ := exists_clauseChain_of_append (hpart .clauses) hclause
  refine ⟨_, _, _, hjoined, hjoined', ?_, hrender⟩
  rw [Outcome.write_of_toExcept hv, hparams', hbound, hparams]
  rfl

lemma clauses_build_append (table : Identifier) (steps more : List Step) :
    (build table (steps ++ more)).clauses
      = (build table steps).clauses ++ more.filterMap Step.clause? := by
  simp only [clauses_build, List.filterMap_append]

/-- Whatever steps follow, the parameters of a selection and the text of its `WHERE` clause stay and
others come behind them. A step that is not a filter changes neither; a filter adds its connector
and its condition, with the placeholders that come next. -/
theorem build_extends (c : Config) (table : Identifier) (steps : List Step) {s : Statement}
    (h : (build table steps).compileSelect c = .ok s) :
    (∀ more s', (build table (steps ++ more)).compileSelect c = .ok s' →
      ∃ part part', JoinedOf c.dialect (build table steps) s part ∧
        JoinedOf c.dialect (build table (steps ++ more)) s' part' ∧
        s.params <+: s'.params ∧ (part .clauses).toList <+: (part' .clauses).toList) ∧
    ∀ step s', (build table (steps ++ [step])).compileSelect c = .ok s' →
      ∃ part part', JoinedOf c.dialect (build table steps) s part ∧
        JoinedOf c.dialect (build table (steps ++ [step])) s' part' ∧
        ((∀ added, step ≠ .filter added) →
          s'.params = s.params ∧ part' .clauses = part .clauses) ∧
        ∀ added, step = .filter added → ∃ condition,
          (Outcome.ofExcept added.predicate.template).write c.dialect ⟨s.params⟩
            = (.ok condition, ⟨s'.params⟩) ∧
          s'.params = s.params ++ added.predicate.bound ∧
          part' .clauses
            = seeded (part .clauses) ++ " " ++ added.connector.keyword ++ " " ++ condition := by
  refine ⟨fun more s' h' => ?_, fun step s' h' => ?_⟩
  · obtain ⟨part, part', text, hjoined, hjoined', hwrite, htext⟩ :=
      exists_extension (clauses_build_append table steps more) h h'
    refine ⟨part, part', hjoined, hjoined', ?_, ?_⟩
    · have hparams : s.params ++ _ = s'.params :=
        congrArg Bindings.values (Prod.ext_iff.mp hwrite).2
      exact ⟨_, hparams⟩
    · rw [htext]
      split_ifs
      · rw [String.toList_append]
        exact List.prefix_append _ _
      · exact isPrefix_seeded_append _ _
  · obtain ⟨part, part', text, hjoined, hjoined', hwrite, htext⟩ :=
      exists_extension (clauses_build_append table steps [step]) h h'
    refine ⟨part, part', hjoined, hjoined', fun hstep => ?_, ?_⟩
    · have hnone : [step].filterMap Step.clause? = [] := by
        cases step with
        | filter added => exact absurd rfl (hstep added)
        | _ => rfl
      rw [hnone, write_clauseChain_nil] at hwrite
      obtain ⟨rfl, hparams⟩ : "" = text ∧ s.params = s'.params := by simpa using hwrite
      exact ⟨hparams.symm, by rw [htext, hnone, if_pos rfl, String.append_empty]⟩
    · rintro added rfl
      obtain ⟨condition, hcondition, hparams, rfl⟩ := write_clauseChain_singleton hwrite
      refine ⟨condition, hcondition, congrArg Bindings.values hparams, ?_⟩
      rw [htext]
      simp [Step.clause?, String.append_assoc]

/-- Steps that select from two tables under a condition with two values. -/
def boundSteps : List Step :=
  [.andWhere (.isIn (.name "a") [.param (.int 1), .param (.int 2)]), .crossJoin (.name "u")]

/-- The placeholder of the next condition has the next number, and the others keep theirs. -/
theorem build_extends_boundSteps :
    ∃ s s', ∃ part part' : Component → String,
      (build (.name "t") boundSteps).compileSelect { dialect := .postgres } = .ok s ∧
      s.sql = "SELECT * FROM \"t\" CROSS JOIN \"u\" WHERE 1 = 1 AND \"a\" IN ($1, $2)" ∧
      (build (.name "t") (boundSteps ++ [.orWhere (.compare (.name "b") .gt (.param .null))])
        ).compileSelect { dialect := .postgres } = .ok s' ∧
      JoinedOf .postgres (build (.name "t") boundSteps) s part ∧
      s'.params = s.params ++ [.null] ∧
      part' .clauses = seeded (part .clauses) ++ " " ++ "OR" ++ " " ++ "\"b\" > $3" ∧
      s'.sql = s.sql ++ " OR \"b\" > $3" := by
  have h : (build (.name "t") boundSteps).compileSelect { dialect := .postgres } = .ok
      { sql := "SELECT * FROM \"t\" CROSS JOIN \"u\" WHERE 1 = 1 AND \"a\" IN ($1, $2)"
        params := [.int 1, .int 2] } := by cbv
  have h' : (build (.name "t") (boundSteps ++ [.orWhere (.compare (.name "b") .gt (.param .null))])
      ).compileSelect { dialect := .postgres } = .ok
      { sql := "SELECT * FROM \"t\" CROSS JOIN \"u\" WHERE 1 = 1 AND \"a\" IN ($1, $2) "
          ++ "OR \"b\" > $3"
        params := [.int 1, .int 2, .null] } := by cbv
  obtain ⟨-, hstep⟩ := build_extends { dialect := .postgres } (.name "t") boundSteps h
  obtain ⟨part, part', hjoined, -, -, hfilter⟩ := hstep _ _ h'
  obtain ⟨condition, hwrite, hparams, htext⟩ := hfilter _ rfl
  have hcondition : (Outcome.ofExcept (Predicate.template (.compare (.name "b") .gt
      (.param .null)))).write .postgres ⟨[.int 1, .int 2]⟩
        = (.ok "\"b\" > $3", ⟨[.int 1, .int 2, .null]⟩) := by cbv
  obtain rfl : "\"b\" > $3" = condition := by simpa using hcondition.symm.trans hwrite
  exact ⟨_, _, part, part', h, rfl, h', hjoined, rfl, htext, rfl⟩

end Query

end BoundSql
