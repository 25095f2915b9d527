import BoundSql.Statement.OnePass
import BoundSql.Proofs.Change.Text
import BoundSql.Proofs.Dialects

/-!
# Binding in one pass

A condition that is written in one pass over a list of bindings comes out as its template does. In
every predicate the columns, which can fail but bind nothing, come before the values, which bind
but cannot fail: so a predicate binds all of its values or none, and what is bound before it only
moves the numbers of its placeholders.
-/

namespace BoundSql

open Template

/-! ### Passes -/

namespace Pass

variable {α β : Type} (b : Bindings)

@[simp] lemma runFrom_pure (a : α) : (pure a : Pass α).runFrom b = (.ok a, b) := rfl

@[simp] lemma runFrom_get : (get : Pass Bindings).runFrom b = (.ok b, b) := rfl

@[simp] lemma runFrom_modify (f : Bindings → Bindings) :
    (modify f : Pass PUnit).runFrom b = (.ok ⟨⟩, f b) := rfl

/-- The second step starts where the first one ends, unless that fails. -/
@[simp] lemma runFrom_bind (w : Pass α) (k : α → Pass β) :
    (w >>= k).runFrom b = match w.runFrom b with
      | (.ok a, b') => (k a).runFrom b'
      | (.error e, b') => (.error e, b') := by
  simp only [runFrom, ExceptT.run_bind, StateT.run_bind]
  rcases w.run.run b with ⟨r, b'⟩
  cases r <;> rfl

@[simp] lemma runFrom_map (w : Pass α) (f : α → β) :
    (f <$> w).runFrom b = match w.runFrom b with
      | (.ok a, b') => (.ok (f a), b')
      | (.error e, b') => (.error e, b') := by
  rw [map_eq_pure_bind, runFrom_bind]
  rfl

end Pass

namespace Bindings

@[simp] lemma append_nil (b : Bindings) : b.append [] = b := by
  simp [append]

@[simp] lemma append_append (b : Bindings) (vs ws : List SqlValue) :
    (b.append vs).append ws = b.append (vs ++ ws) := by
  simp [append]

end Bindings

variable {d : Dialect} {b : Bindings}

namespace Outcome

@[simp] lemma write_ofExcept_ok (t : Template) :
    (ofExcept (.ok t)).write d b = (.ok (t.render d b.size), b.append t.params) := rfl

@[simp] lemma write_ofExcept_pure (t : Template) :
    (ofExcept (pure t)).write d b = (.ok (t.render d b.size), b.append t.params) := rfl

@[simp] lemma write_ofExcept_error (e : Error) :
    (ofExcept (.error e)).write d b = (.error e, b) := by
  simp [write, ofExcept]

end Outcome

/-! ### References and values -/

/-- A reference binds nothing, so a pass that starts with one fails before it has bound anything. -/
lemma Identifier.runFrom_emit_bind {i : Identifier} {k : String → Pass String}
    {u : Template → Except Error Template}
    (hk : ∀ t, t.params = [] →
      (k (t.render d b.size)).runFrom b = (Outcome.ofExcept (u t)).write d b) :
    (i.emit d >>= k).runFrom b = (Outcome.ofExcept (i.template >>= u)).write d b := by
  rw [emit]
  cases ht : i.template with
  | error e => exact (Outcome.write_ofExcept_error e).symm
  | ok t =>
    have hparams : t.params = [] := i.params_template ht
    have h := hk t hparams
    rw [render_of_params_eq_nil hparams] at h
    exact h

/-- A value is bound after those before it, and its placeholder has the next number. -/
@[simp] lemma Value.runFrom_emit (v : Value) :
    (v.emit d).runFrom b = (.ok (v.text d b.size), b.append v.bound?.toList) := by
  cases v with
  | expr e => simp [emit, text, bound?]
  | param v =>
    rw [emit, Pass.runFrom_bind, Pass.runFrom_modify]
    simp only [Pass.runFrom_bind, Pass.runFrom_get, Pass.runFrom_pure, Bindings.size_push]
    rfl

@[simp] lemma runFrom_emitValues (vs : List Value) :
    (emitValues d vs).runFrom b
      = (.ok ((valueList vs).render d b.size), b.append (vs.filterMap Value.bound?)) := by
  have htexts : (vs.mapM (Value.emit d)).runFrom b
      = (.ok (Value.texts d b.size vs), b.append (vs.filterMap Value.bound?)) := by
    induction vs generalizing b with
    | nil => simp [Value.texts]
    | cons v vs ih =>
      simp only [List.mapM_cons, Pass.runFrom_bind, Value.runFrom_emit, ih, Pass.runFrom_pure]
      cases v <;> simp [Value.texts, Value.bound?, List.filterMap_cons]
  rw [emitValues, Pass.runFrom_bind, htexts]
  simp

/-! ### Predicates -/

lemma runFrom_emitRange (column : Identifier) (keyword : String) (low high : Value) :
    (emitRange d column keyword low high).runFrom b
      = (Outcome.ofExcept (rangeComparison column keyword low high)).write d b := by
  apply Identifier.runFrom_emit_bind
  intro t ht
  simp [render_append, ht, String.append_assoc]

lemma runFrom_emitMembership (column : Identifier) (keyword : String) (values : List Value) :
    (emitMembership d column keyword values).runFrom b
      = (Outcome.ofExcept (listMembership column keyword values)).write d b := by
  apply Identifier.runFrom_emit_bind
  intro t ht
  simp [render_append, ht, String.append_assoc]

/-- A predicate is written in one pass as its template is. -/
lemma Predicate.runFrom_emit (p : Predicate) :
    (p.emit d).runFrom b = (Outcome.ofExcept p.template).write d b := by
  cases p with
  | compare column op value =>
    apply Identifier.runFrom_emit_bind
    intro t ht
    simp [render_append, ht, String.append_assoc]
  | isIn column values =>
    cases values with
    | nil => simp [emit, template]
    | cons v vs => exact runFrom_emitMembership column _ _
  | notIn column values =>
    cases values with
    | nil => simp [emit, template]
    | cons v vs => exact runFrom_emitMembership column _ _
  | isNull column | notNull column =>
    apply Identifier.runFrom_emit_bind
    intro t ht
    simp [render_append, ht]
  | between column low high | notBetween column low high => exact runFrom_emitRange column _ _ _
  | compareColumns first op second =>
    apply Identifier.runFrom_emit_bind
    intro t ht
    apply Identifier.runFrom_emit_bind
    intro u hu
    simp [render_append, ht, hu, String.append_assoc]
  | raw sql => simp [emit, template]

/-! ### Clauses -/

lemma runFrom_emitClauses (cs : List Clause) (sql : String) (b : Bindings) :
    (emitClauses d cs sql).runFrom b
      = (match (clauseChain cs).error? with
          | none => .ok (sql ++ (clauseChain cs).template.render d b.size)
          | some e => .error e,
         b.append (clauseChain cs).template.params) := by
  induction cs generalizing sql b with
  | nil => simp [emitClauses, clauseChain]
  | cons c cs ih =>
    rw [emitClauses, Pass.runFrom_bind, Predicate.runFrom_emit, clauseChain]
    cases hc : c.predicate.template with
    | error e => simp
    | ok t =>
      simp only [Outcome.write_ofExcept_ok, ih]
      simp [String.append_assoc, render_append]

/-- The `WHERE` clause is written in one pass as its template is, also where that is cut off by an
error. -/
lemma runFrom_emitWhere (cs : List Clause) :
    (emitWhere d cs).runFrom b = (whereClause cs).write d b := by
  rw [emitWhere, whereClause]
  split_ifs
  · simp [Outcome.write]
  · rw [runFrom_emitClauses, Outcome.write]
    cases (clauseChain cs).error? <;> simp

/-- What can be written in front of other clauses is written as it is alone. -/
lemma clauseChain_append {before : List Clause} {t : Template}
    (h : (clauseChain before).toExcept = .ok t) (cs : List Clause) :
    clauseChain (before ++ cs)
      = { template := t ++ (clauseChain cs).template, error? := (clauseChain cs).error? } := by
  obtain ⟨ts, hts, rfl⟩ := clauseChain_eq_ok.mp h
  clear h
  induction hts with
  | nil => rfl
  | cons hc _ ih => simp [clauseChain, hc, ih]

lemma exists_clauseChain_of_forall {cs : List Clause}
    (h : ∀ c ∈ cs, ∃ t, c.predicate.template = .ok t) : ∃ t, (clauseChain cs).toExcept = .ok t := by
  rw [← failure?_eq_none, Outcome.failure?_toExcept, error?_clauseChain, List.findSome?_eq_none_iff]
  exact fun c hc => failure?_eq_none.mpr (h c hc)

/-- Clauses that fail at one of them have bound the values of those before it. -/
lemma write_whereClause_of_error {before after : List Clause} {c : Clause} {e : Error}
    (hbefore : ∀ c ∈ before, ∃ t, c.predicate.template = .ok t)
    (hc : c.predicate.template = .error e) :
    (whereClause (before ++ c :: after)).write d b
      = (.error e, b.append (before.flatMap fun c => c.predicate.bound)) := by
  obtain ⟨t, ht⟩ := exists_clauseChain_of_forall hbefore
  simp [whereClause, clauseChain_append ht, clauseChain, hc, Outcome.write, params_clauseChain ht]

/-! ### What is bound -/

namespace Predicate

variable {p : Predicate} {b' : Bindings}

/-- A predicate that fails has bound nothing, and fails in the same way whatever is bound. -/
lemma runFrom_emit_of_error {e : Error} (h : (p.emit d).runFrom b = (.error e, b')) :
    b' = b ∧ ∀ b₀, (p.emit d).runFrom b₀ = (.error e, b₀) := by
  rw [runFrom_emit] at h
  simp only [runFrom_emit]
  cases hp : p.template with
  | ok t => simp [hp] at h
  | error e' =>
    obtain ⟨rfl, rfl⟩ : e' = e ∧ b = b' := by simpa [hp] using h
    exact ⟨rfl, fun b₀ => Outcome.write_ofExcept_error e'⟩

/-- A predicate that can be written binds its values, and the numbers of its placeholders are those
that they have in an empty list, raised by what was bound before. -/
lemma runFrom_emit_of_ok {text : String} (h : (p.emit d).runFrom b = (.ok text, b')) :
    b' = b.append p.bound ∧ ∃ t first, p.template = .ok t ∧ t.params = p.bound ∧
      (p.emit d).runFrom {} = (.ok first, ⟨p.bound⟩) ∧
      t.write d.quoteMark (d.placeholdersFrom 0 p.bound.length) = some first ∧
      t.write d.quoteMark (d.placeholdersFrom b.size p.bound.length) = some text ∧
      (d ≠ .postgres → text = first) := by
  rw [runFrom_emit] at h
  cases hp : p.template with
  | error e => simp [hp] at h
  | ok t =>
    obtain ⟨rfl, rfl⟩ : t.render d b.size = text ∧ b.append t.params = b' := by simpa [hp] using h
    have hparams : t.params = p.bound := p.params_template hp
    have hfirst := write_placeholdersFrom d 0 t
    have htext := write_placeholdersFrom d b.size t
    rw [hparams] at hfirst htext
    refine ⟨by rw [hparams], t, t.render d 0, rfl, hparams, ?_, hfirst, htext, ?_⟩
    · rw [runFrom_emit, hp, ← hparams]
      rfl
    · intro hd
      rw [Dialect.placeholdersFrom_eq_questions hd] at hfirst htext
      exact Option.some.inj (htext.symm.trans hfirst)

end Predicate

/-- A pass over clauses stops at the first that fails, with the values of those before it bound. -/
lemma runFrom_emitWhere_eq_error_iff {cs : List Clause} {b' : Bindings} {e : Error} :
    (emitWhere d cs).runFrom b = (.error e, b') ↔ ∃ before c after, cs = before ++ c :: after ∧
      (∀ c ∈ before, ∃ t, c.predicate.template = .ok t) ∧ c.predicate.template = .error e ∧
      b' = b.append (before.flatMap fun c => c.predicate.bound) := by
  rw [runFrom_emitWhere]
  constructor
  · intro h
    have herror : (whereClause cs).error? = some e := by
      cases hcs : (whereClause cs).error? with
      | none => simp [Outcome.write, hcs] at h
      | some e' =>
        obtain ⟨rfl, -⟩ : e' = e ∧ _ := by simpa [Outcome.write, hcs] using h
        rfl
    rw [error?_whereClause] at herror
    obtain ⟨before, c, after, rfl, hc, hbefore⟩ := List.findSome?_eq_some_iff.mp herror
    have hbefore : ∀ c ∈ before, ∃ t, c.predicate.template = .ok t :=
      fun c hc => failure?_eq_none.mp (hbefore c hc)
    rw [failure?_eq_some] at hc
    rw [write_whereClause_of_error hbefore hc] at h
    exact ⟨before, c, after, rfl, hbefore, hc, (Prod.ext_iff.mp h).2.symm⟩
  · rintro ⟨before, c, after, rfl, hbefore, hc, rfl⟩
    exact write_whereClause_of_error hbefore hc

/-- Predicates and `WHERE` clauses come out of one pass as their templates do. A predicate binds
all of its values or, if it fails, none; how it fails does not depend on what is bound, and where
it can be written, that only raises the numbers of its placeholders. Clauses that fail leave bound
what the clauses before the first fault bind. -/
theorem emit_bindings (d : Dialect) :
    (∀ (p : Predicate) (b : Bindings),
      (p.emit d).runFrom b = (Outcome.ofExcept p.template).write d b) ∧
    (∀ (p : Predicate) (b b' : Bindings) (e : Error), (p.emit d).runFrom b = (.error e, b') →
      b' = b ∧ ∀ b₀, (p.emit d).runFrom b₀ = (.error e, b₀)) ∧
    (∀ (p : Predicate) (b b' : Bindings) (text : String), (p.emit d).runFrom b = (.ok text, b') →
      b' = b.append p.bound ∧ ∃ t first, p.template = .ok t ∧ t.params = p.bound ∧
        (p.emit d).runFrom {} = (.ok first, ⟨p.bound⟩) ∧
        t.write d.quoteMark (d.placeholdersFrom 0 p.bound.length) = some first ∧
        t.write d.quoteMark (d.placeholdersFrom b.size p.bound.length) = some text ∧
        (d ≠ .postgres → text = first)) ∧
    (∀ (cs : List Clause) (b : Bindings), (emitWhere d cs).runFrom b = (whereClause cs).write d b) ∧
    ∀ (cs : List Clause) (b b' : Bindings) (e : Error),
      (emitWhere d cs).runFrom b = (.error e, b') ↔ ∃ before c after, cs = before ++ c :: after ∧
        (∀ c ∈ before, ∃ t, c.predicate.template = .ok t) ∧ c.predicate.template = .error e ∧
        b' = b.append (before.flatMap fun c => c.predicate.bound) :=
  ⟨fun p _ => p.runFrom_emit, fun _ _ _ _ => Predicate.runFrom_emit_of_error,
    fun _ _ _ _ => Predicate.runFrom_emit_of_ok, fun cs _ => runFrom_emitWhere cs,
    fun _ _ _ _ => runFrom_emitWhere_eq_error_iff⟩

/-- A list of values with an expression among them that looks like a placeholder. -/
def mixedList : Predicate :=
  .notIn (.name "t.n") [.param (.int 5), .expr ⟨"$1"⟩, .param (.text "x")]

/-- Clauses of which the second fails at its second column. -/
def brokenClauses : List Clause :=
  [⟨.or, mixedList⟩, ⟨.and, .compareColumns (.name "a") .lt (.name "b as ")⟩,
    ⟨.and, .compare (.name "c") .eq (.param .null)⟩]

/-- Behind two values the placeholders of the list start with the third, while the expression
stays; the clauses fail with the values of the list bound, and no others. -/
theorem emit_bindings_brokenClauses :
    (mixedList.emit .postgres).runFrom ⟨[.null, .bool true]⟩
      = (.ok "\"t\".\"n\" NOT IN ($3, $1, $4)", ⟨[.null, .bool true, .int 5, .text "x"]⟩) ∧
    (mixedList.emit .postgres).runFrom {}
      = (.ok "\"t\".\"n\" NOT IN ($1, $1, $2)", ⟨[.int 5, .text "x"]⟩) ∧
    (emitWhere .postgres brokenClauses).runFrom ⟨[.null]⟩
      = (.error (.malformedAlias "b as "), ⟨[.null, .int 5, .text "x"]⟩) := by
  obtain ⟨htemplate, -, -, -, hfault⟩ := emit_bindings .postgres
  refine ⟨?_, ?_, (hfault _ _ _ _).mpr ⟨[⟨.or, mixedList⟩], _, _, rfl, ?_, by cbv, by decide⟩⟩
  · rw [htemplate]
    cbv
  · rw [htemplate]
    cbv
  · intro c hc
    rw [List.mem_singleton.mp hc]
    exact ⟨_, show mixedList.template = .ok _ by cbv⟩

end BoundSql
