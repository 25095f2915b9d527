import BoundSql.Proofs.Selection.Canonical

/-!
# Invariance under canonical forms

Queries with one canonical form compile to one statement, or fail with one error: whatever is read
of a query when it is compiled is found in its canonical form.
-/

namespace BoundSql

open Template Text

/-! ### Names -/

lemma notBlank_of_mem_words {cs w : List Char} (h : w ∈ words cs) :
    w ≠ [] ∧ ∀ c ∈ w, isBlank c = false := by
  have hsplit : ∀ ds : List Char, ∀ v ∈ ds.splitOnP isBlank, ∀ c ∈ v, isBlank c = false := by
    intro ds
    induction ds with
    | nil => simp
    | cons d ds ih =>
      intro v hv c hc
      rw [List.splitOnP_cons_eq_if_modifyHead] at hv
      obtain ⟨u, us, hus⟩ := List.exists_cons_of_ne_nil (List.splitOnP_ne_nil isBlank ds)
      rw [hus] at ih hv
      split_ifs at hv with hd
      · rcases List.mem_cons.mp hv with rfl | hv
        · simp at hc
        · exact ih v hv c hc
      · rw [List.modifyHead_cons] at hv
        rcases List.mem_cons.mp hv with rfl | hv
        · rcases List.mem_cons.mp hc with rfl | hc
          · exact Bool.eq_false_iff.mpr hd
          · exact ih u List.mem_cons_self c hc
        · exact ih v (List.mem_cons_of_mem _ hv) c hc
  rw [words, List.mem_filter] at h
  exact ⟨by simpa using h.2, hsplit cs w h.1⟩

lemma words_append {e l : List Char} (he : e ≠ [] ∧ ∀ c ∈ e, isBlank c = false)
    (hl : l ≠ [] ∧ ∀ c ∈ l, isBlank c = false) :
    words (e ++ " AS ".toList ++ l) = [e, ['A', 'S'], l] := by
  have hkeyword : e ++ " AS ".toList ++ l = e ++ ' ' :: (['A', 'S'] ++ ' ' :: l) := by simp
  have hAS : ∀ c ∈ ['A', 'S'], isBlank c = false := by
    intro c hc
    simp only [List.mem_cons, List.not_mem_nil, or_false] at hc
    rcases hc with rfl | rfl <;> rfl
  rw [words, hkeyword, List.splitOnP_append_cons_of_forall_mem he.2 ' ' rfl,
    List.splitOnP_append_cons_of_forall_mem hAS ' ' rfl, List.splitOnP_eq_singleton hl.2]
  simp [he.1, hl.1]

/-- An alias is three words with the keyword in the middle. -/
lemma aliasParts?_eq_some_iff {s : String} {e l : List Char} :
    aliasParts? s = some (e, l) ↔
      ∃ keyword, words s.toList = [e, keyword, l] ∧ (String.ofList keyword).toLower = "as" := by
  rw [aliasParts?.eq_def]
  split
  · next e' keyword l' hwords => simp [hwords, and_comm]
  · next hwords => simpa using fun keyword h => absurd h (hwords e keyword l)

lemma mem_words_of_aliasParts? {s : String} {e l : List Char} (h : aliasParts? s = some (e, l)) :
    e ∈ words s.toList ∧ l ∈ words s.toList := by
  obtain ⟨keyword, hwords, -⟩ := aliasParts?_eq_some_iff.mp h
  simp [hwords]

lemma aliasParts?_ofList {s : String} {e l : List Char} (h : aliasParts? s = some (e, l)) :
    aliasParts? (String.ofList (e ++ " AS ".toList ++ l)) = some (e, l) := by
  obtain ⟨he, hl⟩ := mem_words_of_aliasParts? h
  have hkeyword : (String.ofList ['A', 'S']).toLower = "as" := by cbv
  rw [aliasParts?, String.toList_ofList,
    words_append (notBlank_of_mem_words he) (notBlank_of_mem_words hl)]
  simp only [hkeyword, if_true]

lemma occursIn_iff_infix {cs ds : List Char} : occursIn cs ds = true ↔ cs <:+: ds := by
  induction ds with
  | nil => rw [occursIn, List.isEmpty_iff, List.infix_nil]
  | cons d ds ih =>
    rw [occursIn, Bool.or_eq_true, List.isPrefixOf_iff_prefix, ih, List.infix_cons_iff]

lemma mentionsAlias_ofList (e l : List Char) :
    mentionsAlias (String.ofList (e ++ " AS ".toList ++ l)) = true := by
  have hlower : (String.ofList (e ++ " AS ".toList ++ l)).toLower.toList
      = e.map Char.toLower ++ [' ', 'a', 's', ' '] ++ l.map Char.toLower := by
    rw [String.toLower, String.toList_map, String.toList_ofList, List.map_append, List.map_append]
    rfl
  rw [mentionsAlias, hlower, occursIn_iff_infix]
  exact List.infix_append _ _ _

@[simp] lemma mentionsAlias_canonicalName (s : String) :
    mentionsAlias (canonicalName s) = mentionsAlias s := by
  rw [canonicalName]
  split
  · next hs =>
    split
    · rw [mentionsAlias_ofList, hs]
    · rfl
  · rfl

lemma aliasParts?_canonicalName (s : String) : aliasParts? (canonicalName s) = aliasParts? s := by
  rw [canonicalName]
  split
  · split
    · next e l hparts => rw [aliasParts?_ofList hparts, hparts]
    · rfl
  · rfl

/-- Names have one canonical form if they are the same, or the same parts with an alias. -/
theorem canonicalName_eq_iff {s s' : String} :
    canonicalName s = canonicalName s' ↔
      s = s' ∨ mentionsAlias s = true ∧ mentionsAlias s' = true ∧
        ∃ parts, aliasParts? s = some parts ∧ aliasParts? s' = some parts := by
  constructor
  · intro h
    have hmentions : mentionsAlias s = mentionsAlias s' := by
      rw [← mentionsAlias_canonicalName s, h, mentionsAlias_canonicalName]
    have hparts : aliasParts? s = aliasParts? s' := by
      rw [← aliasParts?_canonicalName s, h, aliasParts?_canonicalName]
    cases hs : mentionsAlias s with
    | false => simpa [canonicalName, hs, ← hmentions] using h
    | true =>
      cases hp : aliasParts? s with
      | none =>
        left
        simpa [canonicalName, hs, ← hmentions, hp, ← hparts] using h
      | some p => exact Or.inr ⟨rfl, hmentions ▸ hs, p, rfl, hparts ▸ hp⟩
  · rintro (rfl | ⟨hs, hs', p, hp, hp'⟩)
    · rfl
    · rw [canonicalName, canonicalName, if_pos hs, if_pos hs', hp, hp']

lemma nameReference_canonicalName (s : String) :
    nameReference (canonicalName s) = nameReference s := by
  rw [nameReference, nameReference, mentionsAlias_canonicalName, aliasParts?_canonicalName]
  split
  · next hs =>
    split
    · rfl
    · next hparts => simp [canonicalName, hs, hparts]
  · next hs => simp [canonicalName, hs]

/-! ### Parts of queries -/

@[simp] lemma Identifier.template_canonical (i : Identifier) :
    i.canonical.template = i.template := by
  cases i with
  | expr e => rfl
  | name s => exact nameReference_canonicalName s

lemma columnList_map_canonical (is : List Identifier) :
    columnList (is.map Identifier.canonical) = columnList is := by
  simp only [columnList, List.mapM_map, Function.comp_def, Identifier.template_canonical]

@[simp] lemma Predicate.template_canonical (p : Predicate) :
    p.canonical.template = p.template := by
  cases p with
  | isIn i vs | notIn i vs =>
    cases vs with
    | nil => rfl
    | cons v vs => simp [canonical, Predicate.template, listMembership]
  | compare i op v | isNull i | notNull i | between i low high | notBetween i low high =>
    simp [canonical, Predicate.template, rangeComparison]
  | compareColumns i op j => simp [canonical, Predicate.template, columnComparison]
  | raw sql => rfl

lemma clauseChain_map_canonical (cs : List Clause) :
    clauseChain (cs.map Clause.canonical) = clauseChain cs := by
  induction cs with
  | nil => rfl
  | cons c cs ih =>
    rw [List.map_cons, clauseChain, clauseChain, ih, Clause.canonical, Predicate.template_canonical]

lemma whereClause_map_canonical (cs : List Clause) :
    whereClause (cs.map Clause.canonical) = whereClause cs := by
  rw [whereClause, whereClause, clauseChain_map_canonical, List.isEmpty_map]

lemma Join.template_canonical (d : Dialect) (j : Join) :
    j.canonical.template d = j.template d := by
  obtain ⟨kind, table, on?⟩ := j
  cases on? with
  | none => simp [canonical, Join.template]
  | some on =>
    cases kind <;> simp [canonical, Join.template, JoinCondition.canonical, columnComparison]

lemma joinsTemplate_map_canonical (d : Dialect) (js : List Join) :
    Query.joinsTemplate d (js.map Join.canonical) = Query.joinsTemplate d js := by
  simp only [Query.joinsTemplate, List.mapM_map, Function.comp_def, Join.template_canonical]

lemma sortKeyTemplate_canonical (k : SortKey) :
    Query.sortKeyTemplate k.canonical = Query.sortKeyTemplate k := by
  simp only [Query.sortKeyTemplate, SortKey.canonical, Identifier.template_canonical]

lemma aggregateTemplate_eq_of_canonical {a a' : Aggregate} (h : a.canonical = a'.canonical) :
    Query.aggregateTemplate a = Query.aggregateTemplate a' := by
  obtain ⟨hf, hcolumn⟩ := Aggregate.mk.inj h
  rw [Query.aggregateTemplate, Query.aggregateTemplate, hf, ← a.column.template_canonical, hcolumn,
    a'.column.template_canonical]

/-! ### Limits -/

/-- What is joined last is written last. -/
lemma exists_join_concat (l : String) (ts : List Template) :
    ∃ s, ∀ t, join l (ts ++ [t]) = s ++ t := by
  induction ts with
  | nil => exact ⟨[], fun t => by simp⟩
  | cons u us ih =>
    obtain ⟨s, hs⟩ := ih
    refine ⟨u ++ .text l :: s, ?_⟩
    intro t
    rw [List.cons_append, join_cons_of_ne_nil l u (by simp), hs, List.append_assoc,
      List.cons_append]

lemma join_concat_concat (l : String) (ts : List Template) (t u : Template) :
    join l (ts ++ [t, u]) = join l (ts ++ [t ++ .text l :: u]) := by
  induction ts with
  | nil => simp
  | cons v vs ih =>
    rw [List.cons_append, List.cons_append, join_cons_of_ne_nil l v (by simp),
      join_cons_of_ne_nil l v (by simp), ih]

/-- The components in front of the limit. -/
def Component.body : List Component :=
  [.aggregate, .columns, .table, .joins, .clauses, .groups, .sortKeys]

/-- The last components are written behind the others. -/
lemma Query.compileSelect_eq (c : Config) (q : Query) {l o : Template}
    (hl : (q.component c.dialect .limit).toExcept = .ok l)
    (ho : (q.component c.dialect .offset).toExcept = .ok o) :
    q.compileSelect c
      = (fun parts => (join " " ((parts ++ [l, o]).filter fun t => !t.isEmpty)).statement c.dialect)
        <$> Component.body.mapM fun x => (q.component c.dialect x).toExcept := by
  have hall : Component.all = Component.body ++ [.limit, .offset] := rfl
  rw [compileSelect, selectTemplate, hall, List.mapM_append]
  cases Component.body.mapM fun x => (q.component c.dialect x).toExcept with
  | error e => rfl
  | ok parts =>
    rw [List.mapM_cons, List.mapM_cons, List.mapM_nil, hl, ho]
    rfl

/-- On mysql an offset without a limit is written with the limit that lets everything pass. -/
lemma Query.compileSelect_of_noLimit {c : Config} {q : Query} {n : UInt64}
    (hd : c.dialect = .mysql) (hlimit : q.limit? = none) (hoffset : q.offset? = some n) :
    q.compileSelect c = { q with limit? := some 18446744073709551615 }.compileSelect c := by
  let q' : Query := { q with limit? := some 18446744073709551615 }
  let bare : Template := offsetTemplate .mysql none n
  let limit : Template := [.text ("LIMIT " ++ Nat.repr 18446744073709551615)]
  let offset : Template := [.text ("" ++ "OFFSET " ++ n.toNat.repr)]
  have hq : q.compileSelect c = _ := q.compileSelect_eq c (l := []) (o := bare)
    (by simp [component, hlimit, Outcome.toExcept])
    (by simp [component, hlimit, hoffset, hd, Outcome.toExcept, bare])
  have hq' : q'.compileSelect c = _ := q'.compileSelect_eq c (l := limit) (o := offset) rfl
    (by simp [component, hoffset, offsetTemplate, Outcome.toExcept, q', offset])
  have hbody : (Component.body.mapM fun x => (q'.component c.dialect x).toExcept)
      = Component.body.mapM fun x => (q.component c.dialect x).toExcept := rfl
  have hchars : ∀ k, chars c.dialect k bare = chars c.dialect k (limit ++ .text " " :: offset) := by
    have hwritten : Dialect.mysql.beforeBareOffset.toList
        = ("LIMIT " ++ Nat.repr 18446744073709551615).toList ++ " ".toList := by decide
    intro k
    simp only [bare, limit, offset, offsetTemplate, Option.isSome_none, Bool.false_eq_true,
      if_false, List.singleton_append, chars]
    rw [String.toList_append, String.toList_append, hwritten, String.toList_append,
      String.toList_append, List.append_assoc, List.append_assoc, List.append_assoc]
    rfl
  change _ = q'.compileSelect c
  rw [hq, hq', hbody]
  congr 1
  funext parts
  obtain ⟨s, hs⟩ := exists_join_concat " " (parts.filter fun t => !t.isEmpty)
  have hbare : [[], bare].filter (fun t => !t.isEmpty) = [bare] := rfl
  have hlimited : [limit, offset].filter (fun t => !t.isEmpty) = [limit, offset] := rfl
  rw [List.filter_append, List.filter_append, hbare, hlimited, join_concat_concat, hs, hs,
    statement, statement, render, render, chars_append, chars_append, hchars, params_append,
    params_append]
  rfl

/-- A query with the limit that its dialect requires. -/
def Query.withLimit (d : Dialect) (q : Query) : Query :=
  { q with limit? := d.canonicalLimit? q.limit? q.offset? }

lemma Query.canonical_withLimit (d : Dialect) (q : Query) :
    (q.withLimit d).canonical d = q.canonical d := by
  have hlimit : d.canonicalLimit? (d.canonicalLimit? q.limit? q.offset?) q.offset?
      = d.canonicalLimit? q.limit? q.offset? := by
    cases d <;> cases q.limit? <;> cases q.offset? <;> rfl
  rw [canonical, canonical, Query.mk.injEq]
  exact ⟨rfl, rfl, rfl, rfl, rfl, rfl, rfl, rfl, hlimit, rfl⟩

lemma Query.compileSelect_withLimit (c : Config) (q : Query) :
    (q.withLimit c.dialect).compileSelect c = q.compileSelect c := by
  by_cases h : c.dialect = .mysql ∧ q.limit? = none ∧ ∃ n, q.offset? = some n
  · obtain ⟨hd, hlimit, n, hoffset⟩ := h
    rw [compileSelect_of_noLimit hd hlimit hoffset, withLimit, hd, hlimit, hoffset]
    rfl
  · have hlimit : c.dialect.canonicalLimit? q.limit? q.offset? = q.limit? := by
      rw [Dialect.canonicalLimit?.eq_def]
      split
      · simp_all
      · rfl
    rw [withLimit, hlimit]

/-! ### Queries -/

section

variable {d : Dialect} {q q' : Query}

lemma Query.component_aggregate_congr (h : q.canonical d = q'.canonical d) :
    q.component d .aggregate = q'.component d .aggregate := by
  have haggregate := congrArg Query.aggregate? h
  simp only [canonical] at haggregate
  simp only [component]
  cases ha : q.aggregate? with
  | none =>
    cases ha' : q'.aggregate? with
    | none => rfl
    | some a' => simp [ha, ha'] at haggregate
  | some a =>
    cases ha' : q'.aggregate? with
    | none => simp [ha, ha'] at haggregate
    | some a' =>
      simp only [ha, ha', Option.map_some, Option.some.injEq] at haggregate
      simp only [aggregateTemplate_eq_of_canonical haggregate]

lemma Query.component_columns_congr (h : q.canonical d = q'.canonical d) :
    q.component d .columns = q'.component d .columns := by
  have haggregate : q.aggregate?.isSome = q'.aggregate?.isSome := by
    simpa [canonical] using congrArg (fun q => q.aggregate?.isSome) h
  have hcolumns := congrArg Query.columns h
  have hdistinct := congrArg Query.distinct h
  simp only [canonical, haggregate] at hcolumns
  simp only [canonical, ← Option.not_isSome, haggregate] at hdistinct
  simp only [component, haggregate]
  cases hsome : q'.aggregate?.isSome with
  | true => rfl
  | false =>
    simp only [hsome, Bool.false_eq_true, if_false] at hcolumns ⊢
    simp only [hsome, Bool.not_false, Bool.true_and] at hdistinct
    rw [columnsTemplate_eq_selected, columnsTemplate_eq_selected, hdistinct,
      ← columnList_map_canonical, hcolumns, columnList_map_canonical]

/-- A component is found in the canonical form, but for a limit that it adds. -/
lemma Query.component_congr (h : q.canonical d = q'.canonical d) (hlimit : q.limit? = q'.limit?)
    (x : Component) : q.component d x = q'.component d x := by
  have hoffset : q.offset? = q'.offset? := by
    change (q.canonical d).offset? = (q'.canonical d).offset?
    rw [h]
  cases x with
  | aggregate => exact component_aggregate_congr h
  | columns => exact component_columns_congr h
  | table =>
    have htable : q.table.canonical = q'.table.canonical := congrArg Query.table h
    simp only [component]
    rw [← q.table.template_canonical, htable, q'.table.template_canonical]
  | joins =>
    have hjoins : q.joins.map Join.canonical = q'.joins.map Join.canonical := congrArg Query.joins h
    simp only [component]
    rw [← joinsTemplate_map_canonical, hjoins, joinsTemplate_map_canonical]
  | clauses =>
    have hclauses : q.clauses.map Clause.canonical = q'.clauses.map Clause.canonical :=
      congrArg Query.clauses h
    simp only [component]
    rw [← whereClause_map_canonical, hclauses, whereClause_map_canonical]
  | groups =>
    have hgroups : q.groups.map Identifier.canonical = q'.groups.map Identifier.canonical :=
      congrArg Query.groups h
    have hempty : q.groups.isEmpty = q'.groups.isEmpty := by
      rw [← List.isEmpty_map (f := Identifier.canonical), hgroups, List.isEmpty_map]
    simp only [component, hempty]
    rw [← columnList_map_canonical, hgroups, columnList_map_canonical]
  | sortKeys =>
    have hkeys : q.sortKeys.map SortKey.canonical = q'.sortKeys.map SortKey.canonical :=
      congrArg Query.sortKeys h
    have hempty : q.sortKeys.isEmpty = q'.sortKeys.isEmpty := by
      rw [← List.isEmpty_map (f := SortKey.canonical), hkeys, List.isEmpty_map]
    have htemplates : q.sortKeys.mapM sortKeyTemplate = q'.sortKeys.mapM sortKeyTemplate := by
      have hmap : ∀ ks : List SortKey,
          (ks.map SortKey.canonical).mapM sortKeyTemplate = ks.mapM sortKeyTemplate := by
        intro ks
        simp only [List.mapM_map, Function.comp_def, sortKeyTemplate_canonical]
      rw [← hmap, hkeys, hmap]
    simp only [component, hempty, htemplates]
  | limit => simp only [component, hlimit]
  | offset => simp only [component, hlimit, hoffset]

/-- Queries with one canonical form compile to one statement, or fail with one error. -/
theorem Query.compileSelect_congr {c : Config}
    (h : q.canonical c.dialect = q'.canonical c.dialect) :
    q.compileSelect c = q'.compileSelect c := by
  have hlimit : (q.withLimit c.dialect).limit? = (q'.withLimit c.dialect).limit? := by
    change (q.canonical c.dialect).limit? = (q'.canonical c.dialect).limit?
    rw [h]
  have hcanonical : (q.withLimit c.dialect).canonical c.dialect
      = (q'.withLimit c.dialect).canonical c.dialect := by
    rw [canonical_withLimit, canonical_withLimit, h]
  rw [← compileSelect_withLimit, ← q'.compileSelect_withLimit, compileSelect, compileSelect,
    selectTemplate, selectTemplate]
  simp only [component_congr hcanonical hlimit]

end

end BoundSql
