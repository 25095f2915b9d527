import BoundSql.Proofs.Change.Text

/-!
# The filter of a statement

A selection, a deletion and an update of the same query filter alike: all of them have the text of
its `WHERE` clause in them. A deletion and an update are cut at their end, which reaches into the
clause only where that ends in a raw text, and never as far as its first connector.
-/

namespace BoundSql

open Template

/-! ### The end of a clause -/

/-- The raw text that a predicate ends in, if it ends in one. -/
def Predicate.rawEnd : Predicate → List String
  | .compare _ _ value | .between _ _ value | .notBetween _ _ value => value.rawTexts
  | .compareColumns _ _ second => second.rawTexts
  | .raw sql => [sql]
  | .isIn .. | .notIn .. | .isNull _ | .notNull _ => []

/-- A template whose text does not end in white space, nor is empty, in any place. -/
def Template.Solid (d : Dialect) (t : Template) : Prop := ∀ bound, Text.Solid (chars d bound t)

namespace Template.Solid

variable {d : Dialect} {s t : Template}

lemma append (ht : Solid d t) (s : Template) : Solid d (s ++ t) := by
  intro bound
  rw [chars_append]
  exact (ht _).append _

lemma cons (ht : Solid d t) (p : Piece) : Solid d (p :: t) := ht.append [p]

lemma text {s : String} (h : Text.Solid s.toList) : Solid d [.text s] := by
  intro bound
  rwa [chars, chars, List.append_nil]

lemma name (s : String) : Solid d [.name s] := by
  intro bound
  rw [chars, chars, List.append_nil]
  exact d.solid_quote s

lemma slot (v : SqlValue) : Solid d [.slot v] := by
  intro bound
  rw [chars, chars, List.append_nil]
  exact d.solid_placeholder _

lemma join {ts : List Template} (l : String) (hne : ts ≠ []) (hts : ∀ t ∈ ts, Solid d t) :
    Solid d (Template.join l ts) := by
  induction ts with
  | nil => exact absurd rfl hne
  | cons t ts ih =>
    cases ts with
    | nil =>
      rw [join_singleton]
      exact hts t List.mem_cons_self
    | cons u us =>
      rw [join_cons_cons]
      have hrest := ih (List.cons_ne_nil u us) fun v hv => hts v (List.mem_cons_of_mem _ hv)
      exact (hrest.cons _).append t

end Template.Solid

variable {d : Dialect} {t : Template}

lemma solid_path (cs : List Char) : Solid d (path cs) := by
  refine .join "." (by simp [List.splitOn_ne_nil]) ?_
  intro t ht
  obtain ⟨s, -, rfl⟩ := List.mem_map.mp ht
  rw [segment]
  split_ifs
  · exact .text (by decide)
  · exact .name _

lemma Identifier.solid_template {i : Identifier} (hraw : ∀ s ∈ i.rawTexts, Text.Solid s.toList)
    (h : i.template = .ok t) : Solid d t := by
  cases i with
  | expr e =>
    obtain rfl := Except.ok.inj h
    exact .text (hraw _ (by simp [rawTexts]))
  | name s =>
    rw [template, nameReference] at h
    split at h
    · split at h
      · obtain rfl := Except.ok.inj h
        exact ((solid_path _).cons _).append _
      · simp at h
    · obtain rfl := Except.ok.inj h
      exact solid_path _

lemma Value.solid_template {v : Value} (hraw : ∀ s ∈ v.rawTexts, Text.Solid s.toList) :
    Solid d v.template := by
  cases v with
  | expr e => exact .text (hraw _ (by simp [rawTexts]))
  | param v => exact .slot v

/-- Only in a raw text can a predicate end in white space. -/
lemma Predicate.solid_template {p : Predicate} (hraw : ∀ s ∈ p.rawEnd, Text.Solid s.toList)
    (h : p.template = .ok t) : Solid d t := by
  cases p with
  | compare column op value =>
    simp only [template, bind_eq_ok, pure_eq_ok] at h
    obtain ⟨c, -, rfl⟩ := h
    exact ((value.solid_template hraw).cons _).append c
  | isIn column values | notIn column values =>
    cases values with
    | nil =>
      obtain rfl := Except.ok.inj h
      exact .text (by decide)
    | cons v vs =>
      simp only [template, listMembership, bind_eq_ok, pure_eq_ok] at h
      obtain ⟨c, -, rfl⟩ := h
      exact Solid.append (.text (by decide)) _
  | isNull column | notNull column =>
    simp only [template, bind_eq_ok, pure_eq_ok] at h
    obtain ⟨c, -, rfl⟩ := h
    exact Solid.append (.text (by decide)) c
  | between column low high | notBetween column low high =>
    simp only [template, rangeComparison, bind_eq_ok, pure_eq_ok] at h
    obtain ⟨c, -, rfl⟩ := h
    exact ((high.solid_template hraw).cons _).append _
  | compareColumns first op second =>
    simp only [template, columnComparison, bind_eq_ok, pure_eq_ok] at h
    obtain ⟨a, -, b, hb, rfl⟩ := h
    exact ((second.solid_template hraw hb).cons _).append a
  | raw sql =>
    obtain rfl := Except.ok.inj h
    exact .text (hraw _ (by simp [rawEnd]))

/-- Clauses end as the last of them does. -/
lemma solid_clauseChain {cs : List Clause} (hne : cs ≠ [])
    (hlast : ∀ last ∈ cs.getLast?, ∀ s ∈ last.predicate.rawEnd, Text.Solid s.toList)
    (h : (clauseChain cs).toExcept = .ok t) : Solid d t := by
  obtain ⟨ts, hts, rfl⟩ := clauseChain_eq_ok.mp h
  clear h
  induction hts with
  | nil => exact absurd rfl hne
  | @cons c u cs us hcu hrest ih =>
    rw [List.zipWith_cons_cons, List.flatten_cons]
    cases cs with
    | nil =>
      have hu : Solid d u := c.predicate.solid_template (hlast c rfl) hcu
      cases hrest
      simpa using hu.cons _
    | cons c' cs =>
      exact (ih (List.cons_ne_nil c' cs) hlast).append _

lemma solid_whereClause {cs : List Clause} (hne : cs ≠ [])
    (hlast : ∀ last ∈ cs.getLast?, ∀ s ∈ last.predicate.rawEnd, Text.Solid s.toList)
    (h : (whereClause cs).toExcept = .ok t) : Solid d t := by
  obtain ⟨hnil, -⟩ | ⟨-, u, hu, rfl⟩ := whereClause_eq_ok.mp h
  · exact absurd hnil hne
  · exact (solid_clauseChain hne hlast hu).cons _

/-! ### What is kept -/

/-- A text that is its start with a `WHERE` clause behind it, cut at the end. Of the clause it keeps
the first connector, and all but white space in a raw text at the end. -/
structure KeepsFilter (cs : List Clause) (start clause sql : String) : Prop where
  text : sql = trimmed (start ++ " " ++ clause)
  cut : ∃ blanks : List Char, (∀ c ∈ blanks, Text.isBlank c = true) ∧
    (start ++ " " ++ clause).toList = sql.toList ++ blanks
  connected : ∀ first ∈ cs.head?,
    (start ++ " WHERE 1 = 1 " ++ first.connector.keyword).toList <+: sql.toList
  whole : ∀ last ∈ cs.getLast?, (∀ s ∈ last.predicate.rawEnd, Text.Solid s.toList) →
    sql = start ++ " " ++ clause
  unfiltered : cs = [] → sql = trimmed start

/-- The clause starts with its first connector, behind a condition that always holds. -/
lemma exists_render_whereClause {c : Clause} {cs : List Clause}
    (h : (whereClause (c :: cs)).toExcept = .ok t) (bound : Nat) :
    ∃ rest, t.render d bound = "WHERE 1 = 1 " ++ c.connector.keyword ++ rest := by
  obtain ⟨hnil, -⟩ | ⟨-, u, hu, rfl⟩ := whereClause_eq_ok.mp h
  · cases hnil
  obtain ⟨ts, hts, rfl⟩ := clauseChain_eq_ok.mp hu
  obtain ⟨u, us, -, -, rfl⟩ := List.forall₂_cons_left_iff.mp hts
  exact ⟨_, by simp [render_append, String.append_assoc]; rfl⟩

/-- However a statement starts, cutting it keeps its filter. -/
lemma keepsFilter_trimmed {cs : List Clause} (h : (whereClause cs).toExcept = .ok t)
    (start : String) (bound : Nat) :
    KeepsFilter cs start (t.render d bound) (trimmed (start ++ " " ++ t.render d bound)) where
  text := rfl
  cut := by
    obtain ⟨blanks, hblanks, heq⟩ :=
      Text.exists_eq_trimEnd_append (start ++ " " ++ t.render d bound).toList
    exact ⟨blanks, hblanks, by rw [trimmed, String.toList_ofList, ← heq]⟩
  connected := by
    intro first hfirst
    obtain ⟨cs, rfl⟩ := List.head?_eq_some_iff.mp hfirst
    obtain ⟨rest, hrest⟩ := exists_render_whereClause (d := d) h bound
    have hkeyword : Text.Solid first.connector.keyword.toList := by
      cases first.connector <;> decide
    have hkept : Text.Solid (start ++ " WHERE 1 = 1 " ++ first.connector.keyword).toList := by
      rw [String.toList_append]
      exact hkeyword.append _
    have hsplit : (start ++ " " ++ t.render d bound).toList
        = (start ++ " WHERE 1 = 1 " ++ first.connector.keyword).toList ++ rest.toList := by
      simp [hrest]
    rw [trimmed, String.toList_ofList, hsplit]
    exact Text.isPrefix_trimEnd_append hkept.trimEnd_eq _
  whole := by
    intro last hlast hraw
    have hne : cs ≠ [] := List.ne_nil_of_mem (List.mem_of_getLast? hlast)
    have hraw' : ∀ c ∈ cs.getLast?, ∀ s ∈ c.predicate.rawEnd, Text.Solid s.toList := by
      intro c hc
      rw [Option.mem_unique hc hlast]
      exact hraw
    have hclause : Text.Solid (t.render d bound).toList := by
      rw [render, String.toList_ofList]
      exact solid_whereClause hne hraw' h bound
    rw [trimmed, String.toList_append, (hclause.append _).trimEnd_eq, ← String.toList_append,
      String.ofList_toList]
  unfiltered := by
    rintro rfl
    obtain ⟨-, rfl⟩ | ⟨hne, -⟩ := whereClause_eq_ok.mp h
    · have hblank : Text.trimEnd [' '] = [] := by decide
      simp [trimmed, Text.trimEnd_append, hblank]
    · exact absurd rfl hne

/-! ### The components of a selection -/

/-- Of templates of which at most one binds values, each is written as if it were the first. -/
lemma renderEach_of_pairwise {ts : List Template}
    (h : ts.Pairwise fun t u => t.params = [] ∨ u.params = []) (bound : Nat) :
    renderEach d bound ts = ts.map (render d bound) := by
  induction h with
  | nil => rfl
  | @cons t ts ht _ ih =>
    rw [renderEach, List.map_cons]
    by_cases hparams : t.params = []
    · rw [hparams, List.length_nil, Nat.add_zero, ih]
    · have hrest : ∀ u ∈ ts, u.params = [] := fun u hu => (ht u hu).resolve_left hparams
      rw [← ih, renderEach_of_params_eq_nil hrest, renderEach_of_params_eq_nil hrest]

namespace Query

variable {c : Config} {q : Query} {s : Statement} {x : Component}

/-- A component that is there starts with a word. -/
lemma Compiled.exists_text_cons (h : q.Compiled d x t) (hne : t ≠ []) :
    ∃ word rest, t = .text word :: rest ∧ word ≠ "" := by
  cases h with
  | noAggregate | noColumns | noGroups | noSortKeys | noLimit | noOffset => exact absurd rfl hne
  | aggregate ha hc => exact ⟨_, _, rfl, by simp⟩
  | columns ha hts => exact ⟨_, _, rfl, by split_ifs <;> decide⟩
  | table ht | groups hgroups hts | sortKeys hkeys hts => exact ⟨_, _, rfl, by decide⟩
  | @joins ts hts =>
    generalize q.joins = joins at hts
    cases hts with
    | nil => exact absurd rfl hne
    | @cons j u js us hu _ =>
      rw [join_cons]
      obtain ⟨v, -, ⟨-, -, rfl⟩ | ⟨on, w, -, -, rfl⟩⟩ := j.template_eq_ok hu
      · exact ⟨_, _, rfl, by decide⟩
      · exact ⟨_, _, rfl, by simp⟩
  | clauses hclauses =>
    obtain ⟨-, rfl⟩ | ⟨-, u, -, rfl⟩ := whereClause_eq_ok.mp hclauses
    · exact absurd rfl hne
    · exact ⟨_, _, rfl, by decide⟩
  | limit hlimit => exact ⟨_, _, rfl, by simp⟩
  | offset hoffset => exact ⟨_, _, rfl, by simp⟩

/-- A component is there where it has a text. -/
lemma Compiled.isEmpty_eq (h : q.Compiled d x t) (bound : Nat) :
    t.isEmpty = decide (t.render d bound = "") := by
  by_cases hne : t = []
  · simp [hne]
  · obtain ⟨word, rest, rfl, hword⟩ := h.exists_text_cons hne
    simp [hword]

/-- What a selection is made of: the texts of its components, of which only the clauses bind
values, and which leave no trace where they are empty. -/
structure JoinedOf (d : Dialect) (q : Query) (s : Statement) (part : Component → String) :
    Prop where
  unbound : ∀ x, x ≠ .clauses → ∀ b, (q.component d x).write d b = (.ok (part x), b)
  clauses : (q.component d .clauses).write d {} = (.ok (part .clauses), ⟨s.params⟩)
  joined : s.sql = " ".intercalate ((Component.all.map part).filter fun text => text ≠ "")

/-- Of two components one binds nothing. -/
lemma pairwise_components {part : Component → Template}
    (hpart : ∀ x, (q.component d x).toExcept = .ok (part x)) :
    (Component.all.map part).Pairwise fun t u => t.params = [] ∨ u.params = [] := by
  have hnodup : Component.all.Pairwise (· ≠ ·) := by decide
  refine List.pairwise_map.mpr (hnodup.imp fun {x y} hxy => ?_)
  rw [params_component (hpart x), params_component (hpart y)]
  by_cases hx : x = .clauses
  · exact Or.inr (if_neg fun hy => hxy (hx.trans hy.symm))
  · exact Or.inl (if_neg hx)

/-- What compiles is joined of its components. -/
lemma exists_joinedOf (h : q.compileSelect c = .ok s) :
    ∃ part : Component → Template, (∀ x, (q.component c.dialect x).toExcept = .ok (part x)) ∧
      JoinedOf c.dialect q s (fun x => (part x).render c.dialect 0) ∧
      s.params = (part .clauses).params := by
  obtain ⟨t, ht, rfl⟩ := map_eq_ok.mp h
  obtain ⟨part, hpart, rfl⟩ := exists_components ht
  have hparams : ∀ x, (part x).params = if x = .clauses then q.bound else [] := fun x =>
    params_component (hpart x)
  have hbound : (Template.join " " ((Component.all.map part).filter fun u => !u.isEmpty)).params
      = (part .clauses).params := by
    rw [params_selectTemplate ht, hparams, if_pos rfl]
  refine ⟨part, hpart, ⟨?_, ?_, ?_⟩, hbound⟩
  · intro x hx b
    have hnil : (part x).params = [] := by rw [hparams, if_neg hx]
    rw [Outcome.write_of_toExcept (hpart x), hnil, render_of_params_eq_nil hnil]
    simp [Bindings.append]
  · rw [Outcome.write_of_toExcept (hpart .clauses), statement, hbound]
    rfl
  · have hempty : ∀ x, (part x).isEmpty = decide ((part x).render c.dialect 0 = "") := fun x =>
      (compiled_of_component (hpart x)).isEmpty_eq 0
    rw [statement, render_join, renderEach_of_pairwise ((pairwise_components hpart).filter _),
      List.filter_map, List.filter_map, List.map_map]
    simp only [Function.comp_def, hempty, ne_eq, decide_not]

/-- Selections, deletions and updates filter alike: a deletion has the clause of the selection,
which is the text of one of its components, with the same parameters, and no cut drops the filter
of a deletion or of an update. -/
theorem compile_filter (c : Config) (q : Query) :
    (∀ s, q.compileSelect c = .ok s → ∃ table part, q.table.template = .ok table ∧
      JoinedOf c.dialect q s part ∧
      q.compileDelete c = .ok
        { sql := trimmed (deletionStart c.dialect table ++ " " ++ part .clauses)
          params := s.params }) ∧
    (∀ s, q.compileDelete c = .ok s → ∃ table clause, q.table.template = .ok table ∧
      (whereClause q.clauses).write c.dialect {} = (.ok clause, ⟨s.params⟩) ∧
      KeepsFilter q.clauses (deletionStart c.dialect table) clause s.sql) ∧
    ∀ row s, q.compileUpdate c row = .ok s → ∃ table clause, q.table.template = .ok table ∧
      (whereClause q.clauses).write c.dialect ⟨row.bound⟩ = (.ok clause, ⟨s.params⟩) ∧
      KeepsFilter q.clauses (updateStart c.dialect table row) clause s.sql := by
  refine ⟨fun s hs => ?_, fun s hs => ?_, fun row s hs => ?_⟩
  · obtain ⟨part, hpart, hjoined, hparams⟩ := exists_joinedOf hs
    have htable := compiled_of_component (hpart .table)
    generalize part .table = from_ at htable
    cases htable with
    | @table table ht =>
      refine ⟨table, _, ht, hjoined, compileDelete_eq_ok.mpr ⟨table, _, ht, hpart .clauses, ?_⟩⟩
      rw [hparams]
  · obtain ⟨table, clause, ht, hclause, rfl⟩ := compileDelete_eq_ok.mp hs
    exact ⟨table, _, ht, Outcome.write_of_toExcept hclause c.dialect {},
      keepsFilter_trimmed hclause _ 0⟩
  · obtain ⟨-, table, clause, ht, -, hclause, rfl⟩ := compileUpdate_eq_ok.mp hs
    exact ⟨table, _, ht, Outcome.write_of_toExcept hclause c.dialect ⟨row.bound⟩,
      keepsFilter_trimmed hclause _ _⟩

/-- A query of raw texts that end in white space, the last of them a condition. -/
def raggedQuery : Query :=
  { table := .expr ⟨"t\t"⟩
    clauses := [⟨.or, .compare (.name "a") .gt (.param (.int 1))⟩, ⟨.and, .raw " \n"⟩] }

/-- A row of a value and a raw text that ends in white space. -/
def raggedRow : Row := ⟨[("b", .param .null), ("c", .expr ⟨"now() "⟩)], by decide⟩

/-- The deletion and the update lose the white space of the last condition, and nothing else. -/
theorem compile_filter_raggedQuery :
    (∃ s part, raggedQuery.compileSelect { dialect := .postgres } = .ok s ∧
      s.sql = "SELECT * FROM t\t WHERE 1 = 1 OR \"a\" > $1 AND  \n" ∧
      JoinedOf .postgres raggedQuery s part) ∧
    (∃ s table clause, raggedQuery.compileDelete { dialect := .postgres } = .ok s ∧
      s.sql = "DELETE FROM t\t WHERE 1 = 1 OR \"a\" > $1 AND" ∧
      KeepsFilter raggedQuery.clauses (deletionStart .postgres table) clause s.sql) ∧
    ∃ s table clause, raggedQuery.compileUpdate { dialect := .postgres } raggedRow = .ok s ∧
      s.sql = "UPDATE t\t SET \"b\" = $1, \"c\" = now()  WHERE 1 = 1 OR \"a\" > $2 AND" ∧
      KeepsFilter raggedQuery.clauses (updateStart .postgres table raggedRow) clause s.sql := by
  have hselect : raggedQuery.compileSelect { dialect := .postgres } = .ok
      { sql := "SELECT * FROM t\t WHERE 1 = 1 OR \"a\" > $1 AND  \n", params := [.int 1] } := by
    cbv
  have hdelete : raggedQuery.compileDelete { dialect := .postgres } = .ok
      { sql := "DELETE FROM t\t WHERE 1 = 1 OR \"a\" > $1 AND", params := [.int 1] } := by cbv
  have hupdate : raggedQuery.compileUpdate { dialect := .postgres } raggedRow = .ok
      { sql := "UPDATE t\t SET \"b\" = $1, \"c\" = now()  WHERE 1 = 1 OR \"a\" > $2 AND"
        params := [.null, .int 1] } := by cbv
  obtain ⟨hselection, hdeletion, hchange⟩ := compile_filter { dialect := .postgres } raggedQuery
  obtain ⟨-, part, -, hjoined, -⟩ := hselection _ hselect
  obtain ⟨table, clause, -, -, hkept⟩ := hdeletion _ hdelete
  obtain ⟨table', clause', -, -, hkept'⟩ := hchange _ _ hupdate
  exact ⟨⟨_, part, hselect, rfl, hjoined⟩, ⟨_, table, clause, hdelete, rfl, hkept⟩,
    ⟨_, table', clause', hupdate, rfl, hkept'⟩⟩

end Query

end BoundSql
