import BoundSql.Proofs.Command

/-!
# What fails first

A statement is compiled step by step and fails with the error of the first step that fails. For
each part of a statement this says which steps there are, in order: references, columns that are
written to, predicates, clauses, and the statements made of them.
-/

namespace BoundSql

/-- What a result fails with, if it does. -/
def failure? {ε α : Type} : Except ε α → Option ε
  | .ok _ => none
  | .error e => some e

section Except

variable {ε α β : Type}

@[simp] lemma failure?_pure (a : α) : failure? (pure a : Except ε α) = none := rfl

@[simp] lemma failure?_ok (a : α) : failure? (.ok a : Except ε α) = none := rfl

@[simp] lemma failure?_error (e : ε) : failure? (.error e : Except ε α) = some e := rfl

lemma failure?_eq_none {x : Except ε α} : failure? x = none ↔ ∃ a, x = .ok a := by
  cases x <;> simp [failure?]

lemma failure?_eq_some {x : Except ε α} {e : ε} : failure? x = some e ↔ x = .error e := by
  cases x <;> simp [failure?]

/-- Where the second step fails in the same way after every first one, the first failure counts. -/
lemma failure?_bind {x : Except ε α} {k : α → Except ε β} {e? : Option ε}
    (hk : ∀ a, failure? (k a) = e?) : failure? (x >>= k) = (failure? x).or e? := by
  cases x with
  | error e => rfl
  | ok a => exact hk a

/-- A last step that cannot fail does not count. -/
@[simp] lemma failure?_bind_pure (x : Except ε α) (k : α → β) :
    failure? (do let a ← x; pure (k a)) = failure? x := by
  cases x <;> rfl

lemma failure?_mapM (k : α → Except ε β) (xs : List α) :
    failure? (xs.mapM k) = xs.findSome? fun x => failure? (k x) := by
  induction xs with
  | nil => rfl
  | cons x xs ih =>
    have hrest : ∀ y, failure? (do let ys ← xs.mapM k; pure (y :: ys))
        = xs.findSome? fun x => failure? (k x) := by
      intro y
      rw [failure?_bind_pure, ih]
    rw [List.mapM_cons, failure?_bind hrest, List.findSome?_cons]
    cases failure? (k x) <;> rfl

end Except

/-! ### References -/

/-- A reference that cannot be written is a name with a malformed alias. -/
lemma Identifier.template_eq_error {i : Identifier} {e : Error} (h : i.template = .error e) :
    ∃ s, i = .name s ∧ e = .malformedAlias s := by
  cases i with
  | expr x => simp [template] at h
  | name s =>
    rw [template, nameReference] at h
    refine ⟨s, rfl, ?_⟩
    split at h
    · split at h
      · simp at h
      · exact (Except.error.inj h).symm
    · simp at h

lemma Identifier.eq_malformedAlias {i : Identifier} {e : Error} (h : failure? i.template = some e) :
    ∃ s, e = .malformedAlias s := by
  obtain ⟨s, -, hs⟩ := template_eq_error (failure?_eq_some.mp h)
  exact ⟨s, hs⟩

/-- A column that cannot be written to has an alias. -/
lemma eq_aliasNotAllowed {s : String} {e : Error} (h : failure? (columnReference s) = some e) :
    e = .aliasNotAllowed s := by
  rw [failure?_eq_some, columnReference] at h
  split_ifs at h
  exact (Except.error.inj h).symm

lemma failure?_columnList (is : List Identifier) :
    failure? (columnList is) = is.findSome? fun i => failure? i.template := by
  rw [columnList, failure?_bind_pure, failure?_mapM]

lemma failure?_columnComparison (first second : Identifier) (op : Operator) :
    failure? (columnComparison first op second)
      = [first, second].findSome? fun i => failure? i.template := by
  rw [columnComparison, failure?_bind fun _ => failure?_bind_pure _ _]
  simp only [List.findSome?_cons, List.findSome?_nil]
  cases failure? first.template <;> cases failure? second.template <;> rfl

/-! ### Clauses -/

/-- The references that are written for a predicate: none for an empty list. -/
def Predicate.references : Predicate → List Identifier
  | .isIn _ [] | .notIn _ [] => []
  | p => p.identifiers

lemma Predicate.failure?_template (p : Predicate) :
    failure? p.template = p.references.findSome? fun i => failure? i.template := by
  have hcolumn : ∀ (i : Identifier) (k : Template → Template),
      failure? (do let c ← i.template; pure (k c))
        = [i].findSome? fun i => failure? i.template := by
    intro i k
    rw [failure?_bind_pure, List.findSome?_singleton]
  cases p with
  | compare column op value => exact hcolumn column _
  | isIn column values | notIn column values =>
    cases values with
    | nil => rfl
    | cons v vs => exact hcolumn column _
  | isNull column | notNull column => exact hcolumn column _
  | between column low high | notBetween column low high => exact hcolumn column _
  | compareColumns first op second => exact failure?_columnComparison first second op
  | raw sql => rfl

/-- A predicate that cannot be written has a malformed alias. -/
lemma Predicate.eq_malformedAlias {p : Predicate} {e : Error} (h : failure? p.template = some e) :
    ∃ s, e = .malformedAlias s := by
  rw [failure?_template] at h
  obtain ⟨i, -, hi⟩ := List.exists_of_findSome?_eq_some h
  exact i.eq_malformedAlias hi

@[simp] lemma Outcome.failure?_toExcept (o : Outcome) : failure? o.toExcept = o.error? := by
  obtain ⟨t, error?⟩ := o
  cases error? <;> rfl

lemma error?_clauseChain (cs : List Clause) :
    (clauseChain cs).error? = cs.findSome? fun c => failure? c.predicate.template := by
  induction cs with
  | nil => rfl
  | cons c cs ih =>
    rw [List.findSome?_cons, ← ih, clauseChain]
    cases c.predicate.template <;> rfl

lemma error?_whereClause (cs : List Clause) :
    (whereClause cs).error? = cs.findSome? fun c => failure? c.predicate.template := by
  cases cs with
  | nil => rfl
  | cons c cs => exact error?_clauseChain (c :: cs)

/-! ### Statements -/

/-- Rows that cannot be aligned have one that does not match the first. -/
lemma Row.eq_mismatchedRow {first : Row} {index : Nat} {rows : List Row} {e : Error}
    (h : failure? (first.alignedFrom index rows) = some e) :
    ∃ row column, e = .mismatchedRow row column := by
  induction rows generalizing index with
  | nil => simp [alignedFrom] at h
  | cons r rs ih =>
    rw [alignedFrom] at h
    cases hr : first.aligned index r with
    | ok vs =>
      rw [hr] at h
      change failure? (do let rest ← first.alignedFrom (index + 1) rs; pure (vs :: rest)) = _ at h
      rw [failure?_bind_pure] at h
      exact ih h
    | error e' =>
      rw [hr] at h
      have he : e' = e := by simpa [bind, Except.bind] using h
      subst he
      rw [← failure?_eq_some, aligned] at hr
      split at hr
      · next extra _ => exact ⟨index, extra, (Option.some.inj hr).symm⟩
      · rw [failure?_mapM] at hr
        obtain ⟨column, -, hcolumn⟩ := List.exists_of_findSome?_eq_some hr
        cases hvalue : r.get? column with
        | some v => simp [hvalue] at hcolumn
        | none =>
          rw [hvalue] at hcolumn
          exact ⟨index, column, (Option.some.inj hcolumn).symm⟩

namespace Query

/-- An insertion fails on nothing to insert, on the table, on a column, or on a row. -/
lemma failure?_insertTemplate (c : Config) (q : Query) (rows : Rows) :
    failure? (q.insertTemplate c rows) = match rows.toList with
      | [] => some .emptyBatch
      | first :: rest =>
        if first.isEmpty then some .emptyBatch
        else (failure? q.table.template).or
          ((first.columns.findSome? fun s => failure? (columnReference s)).or
            (failure? (first.alignedFrom 0 (first :: rest)))) := by
  rw [insertTemplate, failure?_bind_pure, Insertion.ofRows.eq_def]
  cases rows.toList with
  | nil => rfl
  | cons first rest =>
    simp only
    split_ifs
    · rfl
    · rw [failure?_bind fun _ => failure?_bind fun _ => failure?_bind_pure _ _, failure?_mapM]

/-- An update fails on nothing to assign, on the table, on a column, or on a clause. -/
lemma failure?_updateTemplate (q : Query) (row : Row) :
    failure? (q.updateTemplate row) =
      if row.isEmpty then some .emptyAssignments
      else (failure? q.table.template).or
        ((row.columns.findSome? fun s => failure? (columnReference s)).or
          (q.clauses.findSome? fun c => failure? c.predicate.template)) := by
  have hassignment : ∀ e, failure? (assignment e) = failure? (columnReference e.1) :=
    fun e => failure?_bind_pure _ _
  rw [updateTemplate]
  split_ifs
  · rfl
  · rw [failure?_bind fun _ => failure?_bind fun _ => failure?_bind_pure _ _, failure?_mapM,
      Outcome.failure?_toExcept, error?_whereClause, Row.columns, List.findSome?_map]
    simp only [hassignment, Function.comp_def]

/-- A deletion fails on the table or on a clause. -/
lemma failure?_deleteTemplate (q : Query) :
    failure? q.deleteTemplate = (failure? q.table.template).or
      (q.clauses.findSome? fun c => failure? c.predicate.template) := by
  rw [deleteTemplate, failure?_bind fun _ => failure?_bind_pure _ _, Outcome.failure?_toExcept,
    error?_whereClause]

end Query

/-- A command fails as its template does. -/
lemma Command.failure?_compile (r : Command) (c : Config) :
    failure? (r.compile c) = failure? (r.template c) := by
  rw [compile_eq_statement]
  cases r.template c <;> rfl

/-- A command fails to compile where its template fails. -/
lemma Command.compile_eq_error {r : Command} {c : Config} {e : Error} :
    r.compile c = .error e ↔ r.template c = .error e := by
  rw [← failure?_eq_some, failure?_compile, failure?_eq_some]

/-- Only a `SELECT` fails on a join. -/
lemma Command.ne_invalidJoin {r : Command} {c : Config} {e : Error} (hr : ∀ q, r ≠ .select q)
    (h : failure? (r.template c) = some e) (kind : JoinKind) (table : String) (fault : JoinFault) :
    e ≠ .invalidJoin kind table fault := by
  have hreference : ∀ {i : Identifier}, failure? i.template = some e →
      e ≠ .invalidJoin kind table fault := by
    intro i hi
    obtain ⟨s, rfl⟩ := i.eq_malformedAlias hi
    simp
  have hcolumns : ∀ {ss : List String},
      (ss.findSome? fun s => failure? (columnReference s)) = some e →
        e ≠ .invalidJoin kind table fault := by
    intro ss hss
    obtain ⟨s, -, hs⟩ := List.exists_of_findSome?_eq_some hss
    rw [eq_aliasNotAllowed hs]
    simp
  have hclauses : ∀ {cs : List Clause},
      (cs.findSome? fun c => failure? c.predicate.template) = some e →
        e ≠ .invalidJoin kind table fault := by
    intro cs hcs
    obtain ⟨c, -, hc⟩ := List.exists_of_findSome?_eq_some hcs
    obtain ⟨s, rfl⟩ := c.predicate.eq_malformedAlias hc
    simp
  cases r with
  | select q => exact absurd rfl (hr q)
  | insert q rows =>
    rw [template, Query.failure?_insertTemplate] at h
    cases hrows : rows.toList with
    | nil =>
      rw [hrows] at h
      simp [← Option.some.inj h]
    | cons first rest =>
      simp only [hrows] at h
      split_ifs at h
      · simp [← Option.some.inj h]
      · obtain htable | ⟨-, h⟩ := Option.or_eq_some_iff.mp h
        · exact hreference htable
        obtain hkeys | ⟨-, hvalues⟩ := Option.or_eq_some_iff.mp h
        · exact hcolumns hkeys
        · obtain ⟨row, column, rfl⟩ := Row.eq_mismatchedRow hvalues
          simp
  | update q row =>
    rw [template, Query.failure?_updateTemplate] at h
    split_ifs at h
    · simp [← Option.some.inj h]
    · obtain htable | ⟨-, h⟩ := Option.or_eq_some_iff.mp h
      · exact hreference htable
      obtain hkeys | ⟨-, hwheres⟩ := Option.or_eq_some_iff.mp h
      · exact hcolumns hkeys
      · exact hclauses hwheres
  | delete q =>
    rw [template, Query.failure?_deleteTemplate] at h
    obtain htable | ⟨-, hwheres⟩ := Option.or_eq_some_iff.mp h
    · exact hreference htable
    · exact hclauses hwheres

end BoundSql
