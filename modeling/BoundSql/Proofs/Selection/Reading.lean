import BoundSql.Proofs.Selection.Invariance
import BoundSql.Proofs.Vocabulary

/-!
# Reading selections

The tokens of a compiled `SELECT` statement without raw texts are those of a selection, component
by component.
-/

namespace BoundSql

open Template Text

section

variable {d : Dialect}

/-! ### Lists -/

/-- A list whose elements are read one by one. -/
lemma exists_forall₂_readsAs {α γ : Type} {f : α → Except Error Template} {R : α → γ → Prop}
    {g : γ → List Token} {as : List α} {ts : List Template}
    (h : List.Forall₂ (fun a t => f a = .ok t) as ts)
    (hR : ∀ a ∈ as, ∀ t, f a = .ok t → ∃ c, R a c ∧ g c = t.tokens d) :
    ∃ cs, List.Forall₂ R as cs ∧ ts.map (Template.tokens d) = cs.map g := by
  induction h with
  | nil => exact ⟨[], .nil, rfl⟩
  | @cons a t as ts hat _ ih =>
    obtain ⟨cs, hcs, htokens⟩ := ih fun a ha => hR a (List.mem_cons_of_mem _ ha)
    obtain ⟨c, hc, hct⟩ := hR a List.mem_cons_self t hat
    exact ⟨c :: cs, .cons hc hcs, by rw [List.map_cons, List.map_cons, htokens, hct]⟩

lemma tokens_join_comma (ts : List Template) :
    (join ", " ts).tokens d = commas (ts.map (Template.tokens d)) := by
  rw [tokens_join, Piece.tokens_text d (l := [.mark ',']) (by decide) (by decide), commas]

lemma tokens_join_space (ts : List Template) :
    (join " " ts).tokens d = (ts.map (Template.tokens d)).flatten := by
  rw [tokens_join, Piece.tokens_text d (l := []) (by decide) (by decide)]
  induction ts.map (Template.tokens d) with
  | nil => rfl
  | cons us uss ih =>
    cases uss with
    | nil => simp
    | cons vs vss => simp [List.intercalate_cons_cons, ih]

lemma exists_readsAs_columns {is : List Identifier} {ts : List Template}
    (hraw : ∀ i ∈ is, i.rawTexts = [])
    (h : List.Forall₂ (fun i t => i.template = .ok t) is ts) :
    ∃ rs : List Reference, List.Forall₂ (Identifier.ReadsAs d) is rs ∧
      (join ", " ts).tokens d = commas (rs.map Reference.tokens) := by
  obtain ⟨rs, hrs, htokens⟩ := exists_forall₂_readsAs h fun i hi t ht =>
    i.exists_readsAs (d := d) (hraw i hi) ht
  refine ⟨rs, hrs, ?_⟩
  rw [tokens_join_comma, htokens]

/-! ### Joins and sort keys -/

lemma Join.exists_readsAs {j : Join} {t : Template} (hraw : ∀ i ∈ j.identifiers, i.rawTexts = [])
    (h : j.template d = .ok t) : ∃ s : JoinSyntax, j.ReadsAs d s ∧ s.tokens = t.tokens d := by
  obtain ⟨u, hu, hcases⟩ := Join.template_eq_ok h
  obtain ⟨kind, table, on?⟩ := j
  obtain ⟨r, htable, hr⟩ := table.exists_readsAs (d := d) (hraw _ List.mem_cons_self) hu
  rcases hcases with ⟨hkind, hon, rfl⟩ | ⟨on, v, hon, hv, rfl⟩
  · obtain rfl : kind = .cross := hkind
    obtain rfl : on? = none := hon
    have hkeyword : Piece.tokens d (.text "CROSS JOIN ") = [.word "CROSS", .word "JOIN"] :=
      Piece.tokens_text d (by decide) (by decide)
    refine ⟨_, .cross htable, ?_⟩
    simp [JoinSyntax.tokens, JoinSyntax.onTokens, hkeyword, hr, JoinKind.keyword]
  · obtain rfl : on? = some on := hon
    simp only [columnComparison, bind_eq_ok, pure_eq_ok] at hv
    obtain ⟨a, ha, b, hb, rfl⟩ := hv
    obtain ⟨ra, hfirst, hra⟩ := on.first.exists_readsAs (d := d)
      (hraw _ (by simp [Join.identifiers])) ha
    obtain ⟨rb, hsecond, hrb⟩ := on.second.exists_readsAs (d := d)
      (hraw _ (by simp [Join.identifiers])) hb
    have hkeyword : Piece.tokens d (.text (kind.keyword ++ " JOIN "))
        = [.word kind.keyword, .word "JOIN"] := by
      cases kind <;> exact Piece.tokens_text d (by decide) (by decide)
    have hword : Piece.tokens d (.text " ON ") = [.word "ON"] :=
      Piece.tokens_text d (by decide) (by decide)
    refine ⟨_, .on htable hfirst hsecond, ?_⟩
    simp [JoinSyntax.tokens, JoinSyntax.onTokens, hkeyword, hword, hr, hra, hrb,
      ← on.operator.tokens_text d]

lemma exists_readsAs_sortKeyTemplate {k : SortKey} {t : Template} (hraw : k.column.rawTexts = [])
    (h : Query.sortKeyTemplate k = .ok t) :
    ∃ p, k.ReadsAs d p ∧ Selection.keyTokens p = t.tokens d := by
  obtain ⟨r, c, hreads, hr, rfl⟩ := Identifier.exists_readsAs_bind (d := d) hraw h
  have hkeyword : Piece.tokens d (.text (" " ++ k.direction.keyword))
      = [.word k.direction.keyword] := by
    cases k.direction <;> exact Piece.tokens_text d (by decide) (by decide)
  refine ⟨(r, k.direction), ⟨hreads, rfl⟩, ?_⟩
  simp [Selection.keyTokens, hr, hkeyword]

/-! ### Heads -/

lemma upper_ne_empty {f : String} (h : isPlainName f = true) (hf : f ≠ "") :
    Text.upper f ≠ "" := by
  have hne : f.toList ≠ [] := by simpa using hf
  obtain ⟨c, cs, hcs⟩ := List.exists_cons_of_ne_nil hne
  have hc : c ∈ f.toList := by simp [hcs]
  rw [Text.upper, hcs, List.flatMap_cons,
    upperChar_of_lt (toNat_lt_of_isPlain (List.all_eq_true.mp h c hc))]
  simp

lemma tokens_call {f : String} (h : isPlainName f = true) (hf : f ≠ "") :
    Piece.tokens d (.text (call f)) = [.word "SELECT", .word (Text.upper f), .mark '('] := by
  have hplain : isPlainName (Text.upper f) = true := isPlainName_upper h
  have hquote : d.quoteMark ∉ (Text.upper f).toList :=
    (unmarked_of_markFree (markFree_of_isPlainName hplain)).notMem.1
  have hcall := lex_call_append (f := f) (isOpen_scan_of_notMem hquote) []
  rw [List.append_nil, lex_of_isPlainName d hplain (upper_ne_empty h hf)] at hcall
  exact hcall

lemma Query.exists_headReadsAs_call {q : Query} {a : Aggregate} {c : Template}
    (ha : q.aggregate? = some a) (hname : isPlainName a.function = true) (hne : a.function ≠ "")
    (hraw : a.column.rawTexts = []) (hc : a.column.template = .ok c) :
    ∃ x, q.HeadReadsAs d x ∧
      x.tokens = Template.tokens d (.text (call a.function) :: c ++ [.text ")"]) := by
  obtain ⟨r, hreads, hr⟩ := a.column.exists_readsAs (d := d) hraw hc
  have hclose : Piece.tokens d (.text ")") = [.mark ')'] :=
    Piece.tokens_text d (by decide) (by decide)
  refine ⟨_, .call ha hreads, ?_⟩
  simp [Head.tokens, tokens_call hname hne, hclose, hr]

lemma Query.exists_headReadsAs_columns {q : Query} {ts : List Template}
    (ha : q.aggregate? = none) (hraw : ∀ i ∈ q.columns, i.rawTexts = [])
    (hts : List.Forall₂ (fun i t => i.template = .ok t) q.selected ts) :
    ∃ x, q.HeadReadsAs d x ∧ x.tokens = Template.tokens d
      (.text (if q.distinct then "SELECT DISTINCT " else "SELECT ") :: join ", " ts) := by
  have hstart : Piece.tokens d (.text (if q.distinct then "SELECT DISTINCT " else "SELECT "))
      = .word "SELECT" :: if q.distinct then [.word "DISTINCT"] else [] := by
    cases q.distinct <;> exact Piece.tokens_text d (by decide) (by decide)
  have hselected : ∀ i ∈ q.selected, i.rawTexts = [] := by
    intro i hi
    rcases mem_selected hi with rfl | hi
    · rfl
    · exact hraw i hi
  obtain ⟨rs, hrs, hcolumns⟩ := exists_readsAs_columns (d := d) hselected hts
  have hne : q.selected ≠ [] := by
    rw [selected]
    split_ifs with hempty
    · simp
    · simpa using hempty
  obtain ⟨i, is, his⟩ := List.exists_cons_of_ne_nil hne
  rw [his] at hrs
  obtain ⟨r, rs, hir, hisrs, rfl⟩ := List.forall₂_cons_left_iff.mp hrs
  refine ⟨.columns q.distinct r rs, .columns ha (his ▸ .cons hir hisrs), ?_⟩
  rw [tokens_cons, hstart, hcolumns]
  rfl

lemma Query.exists_headReadsAs {q : Query} {t u : Template}
    (hraw : ∀ i ∈ q.identifiers, i.rawTexts = [])
    (hname : ∀ a ∈ q.aggregate?, a.function ≠ "" ∧ isPlainName a.function = true)
    (ht : q.Compiled d .aggregate t) (hu : q.Compiled d .columns u) :
    ∃ x, q.HeadReadsAs d x ∧ x.tokens = t.tokens d ++ u.tokens d := by
  cases ht with
  | noAggregate ha =>
    cases hu with
    | noColumns ha' => simp [ha] at ha'
    | columns _ hts =>
      apply exists_headReadsAs_columns ha _ hts
      intro i hi
      exact hraw i (by simp [identifiers, hi])
  | @aggregate a c ha hc =>
    cases hu with
    | columns ha' => simp [ha] at ha'
    | noColumns =>
      obtain ⟨hne, hplain⟩ := hname a ha
      rw [tokens_nil, List.append_nil]
      exact exists_headReadsAs_call ha hplain hne (hraw _ (by simp [identifiers, ha])) hc

/-! ### Limits and offsets -/

lemma tokens_limit (n : UInt64) :
    Piece.tokens d (.text ("LIMIT " ++ n.toNat.repr)) = [.word "LIMIT", .word n.toNat.repr] := by
  have hstart : Piece.tokens d (.text "LIMIT ") = [.word "LIMIT"] :=
    Piece.tokens_text d (by decide) (by decide)
  have hquote : d.quoteMark ∉ "LIMIT ".toList := (unmarked_of_markFree (by decide)).notMem.1
  rw [Piece.tokens] at hstart
  rw [Piece.tokens, String.toList_append, lex_append_repr hquote rfl, hstart]
  rfl

/-- What an offset is read as, behind the limit that the dialect may require. -/
lemma tokens_offset (start : String) (ts : List Token)
    (hfree : markFree (start ++ "OFFSET ") = true)
    (hbreak : (start ++ "OFFSET ").toList.getLast?.any isBreak = true)
    (hstart : lex '"' (start ++ "OFFSET ").toList = ts ++ [.word "OFFSET"]) (n : UInt64) :
    Piece.tokens d (.text (start ++ "OFFSET " ++ n.toNat.repr))
      = ts ++ [.word "OFFSET", .word n.toNat.repr] := by
  have hquote : d.quoteMark ∉ (start ++ "OFFSET ").toList := (unmarked_of_markFree hfree).notMem.1
  have htokens := Piece.tokens_text d hfree hstart
  rw [Piece.tokens] at htokens
  rw [Piece.tokens, String.toList_append, lex_append_repr hquote hbreak, htokens]
  simp

/-- The limit and the offset of a query. -/
lemma Query.tokens_limit_offset {q : Query} {t u : Template} (ht : q.Compiled d .limit t)
    (hu : q.Compiled d .offset u) :
    t.tokens d ++ u.tokens d
      = ((q.limitRead? d).toList.map (fun l => [Token.word "LIMIT", .word (limitWord l)])
        ++ (q.offset?.map UInt64.toNat).toList.map
          fun n => [Token.word "OFFSET", .word n.repr]).flatten := by
  cases ht with
  | @limit m hlimit =>
    have hread : q.limitRead? d = some (some m.toNat) := by
      cases d <;> simp [limitRead?, canonical, Dialect.canonicalLimit?, hlimit]
    cases hu with
    | noOffset hoffset => simp [hread, hoffset, tokens_limit, limitWord]
    | @offset n hoffset =>
      have htokens := tokens_offset (d := d) "" [] (by decide) (by decide) (by decide) n
      simpa [hread, hlimit, hoffset, offsetTemplate, tokens_limit, limitWord] using htokens
  | noLimit hlimit =>
    cases hu with
    | noOffset hoffset =>
      have hread : q.limitRead? d = none := by
        cases d <;> simp [limitRead?, canonical, Dialect.canonicalLimit?, hlimit, hoffset]
      simp [hread, hoffset]
    | @offset n hoffset =>
      have htokens := fun ts => tokens_offset (d := d) d.beforeBareOffset ts
        (by cases d <;> decide) (by cases d <;> decide)
      cases d with
      | generic | postgres =>
        simpa [limitRead?, canonical, Dialect.canonicalLimit?, hlimit, hoffset, offsetTemplate]
          using htokens [] (by decide) n
      | mysql =>
        have hrepr : Nat.repr 18446744073709551615 = "18446744073709551615" := by decide
        simpa [limitRead?, canonical, Dialect.canonicalLimit?, hlimit, hoffset, offsetTemplate,
          limitWord, hrepr]
          using htokens [.word "LIMIT", .word "18446744073709551615"] (by decide) n
      | sqlite =>
        simpa [limitRead?, canonical, Dialect.canonicalLimit?, hlimit, hoffset, offsetTemplate,
          limitWord] using htokens [.word "LIMIT", .word "-1"] (by decide) n

/-! ### Selections -/

lemma tokens_join_filter (ts : List Template) :
    (join " " (ts.filter fun t => !t.isEmpty)).tokens d = (ts.map (Template.tokens d)).flatten := by
  rw [tokens_join_space]
  induction ts with
  | nil => rfl
  | cons t ts ih =>
    cases t with
    | nil => simpa using ih
    | cons p t => simpa using ih

lemma Selection.sectionIf_of_forall₂ {α γ : Type} {R : α → γ → Prop} {as : List α} {cs : List γ}
    (hne : as ≠ []) (h : List.Forall₂ R as cs) (ts : List Token) : sectionIf cs ts = [ts] := by
  cases h with
  | nil => exact absurd rfl hne
  | cons => rfl

namespace Query

variable {q : Query} {t : Template}

lemma exists_readsAs_table (hraw : ∀ i ∈ q.identifiers, i.rawTexts = [])
    (h : q.Compiled d .table t) :
    ∃ r : Reference, q.table.ReadsAs d r ∧ t.tokens d = .word "FROM" :: r.tokens := by
  cases h with
  | table hc =>
    have htable : q.table.rawTexts = [] := hraw _ (by simp [identifiers])
    have hfrom : Piece.tokens d (.text "FROM ") = [.word "FROM"] :=
      Piece.tokens_text d (by decide) (by decide)
    obtain ⟨r, hr, htokens⟩ := q.table.exists_readsAs (d := d) htable hc
    refine ⟨r, hr, ?_⟩
    rw [tokens_cons, hfrom, htokens]
    rfl

lemma exists_readsAs_joins (hraw : ∀ i ∈ q.identifiers, i.rawTexts = [])
    (h : q.Compiled d .joins t) :
    ∃ ss, List.Forall₂ (Join.ReadsAs d) q.joins ss ∧
      t.tokens d = (ss.map JoinSyntax.tokens).flatten := by
  cases h with
  | joins hts =>
    have hjoins : ∀ j ∈ q.joins, ∀ i ∈ j.identifiers, i.rawTexts = [] := by
      intro j hj i hi
      apply hraw
      have hmem : i ∈ q.joins.flatMap Join.identifiers := List.mem_flatMap.mpr ⟨j, hj, hi⟩
      simp [identifiers, hmem]
    obtain ⟨ss, hss, htokens⟩ := exists_forall₂_readsAs hts fun j hj t ht =>
      j.exists_readsAs (d := d) (hjoins j hj) ht
    refine ⟨ss, hss, ?_⟩
    rw [tokens_join_space, htokens]

lemma exists_readsAs_groups (hraw : ∀ i ∈ q.identifiers, i.rawTexts = [])
    (h : q.Compiled d .groups t) :
    ∃ rs, List.Forall₂ (Identifier.ReadsAs d) q.groups rs ∧
      t.tokens d = (Selection.sectionIf rs
        (.word "GROUP" :: .word "BY" :: commas (rs.map Reference.tokens))).flatten := by
  cases h with
  | noGroups hgroups => exact ⟨[], hgroups ▸ .nil, rfl⟩
  | groups hne hts =>
    have hgroups : ∀ i ∈ q.groups, i.rawTexts = [] := by
      intro i hi
      apply hraw
      simp [identifiers, hi]
    have hkeyword : Piece.tokens d (.text "GROUP BY ") = [.word "GROUP", .word "BY"] :=
      Piece.tokens_text d (by decide) (by decide)
    obtain ⟨rs, hrs, htokens⟩ := exists_readsAs_columns (d := d) hgroups hts
    refine ⟨rs, hrs, ?_⟩
    rw [Selection.sectionIf_of_forall₂ hne hrs, tokens_cons, hkeyword, htokens]
    simp

lemma exists_readsAs_sortKeys (hraw : ∀ i ∈ q.identifiers, i.rawTexts = [])
    (h : q.Compiled d .sortKeys t) :
    ∃ ks, List.Forall₂ (SortKey.ReadsAs d) q.sortKeys ks ∧
      t.tokens d = (Selection.sectionIf ks
        (.word "ORDER" :: .word "BY" :: commas (ks.map Selection.keyTokens))).flatten := by
  cases h with
  | noSortKeys hkeys => exact ⟨[], hkeys ▸ .nil, rfl⟩
  | sortKeys hne hts =>
    have hkeys : ∀ k ∈ q.sortKeys, k.column.rawTexts = [] := by
      intro k hk
      apply hraw
      exact List.mem_append_right _ (List.mem_map_of_mem hk)
    have hkeyword : Piece.tokens d (.text "ORDER BY ") = [.word "ORDER", .word "BY"] :=
      Piece.tokens_text d (by decide) (by decide)
    obtain ⟨ks, hks, htokens⟩ := exists_forall₂_readsAs hts fun k hk t ht =>
      exists_readsAs_sortKeyTemplate (d := d) (hkeys k hk) ht
    refine ⟨ks, hks, ?_⟩
    rw [Selection.sectionIf_of_forall₂ hne hks, tokens_cons, hkeyword, tokens_join_comma, htokens]
    simp

lemma exists_readsAs_clauses (hraw : ∀ c ∈ q.clauses, c.predicate.rawTexts = [])
    (h : q.Compiled d .clauses t) :
    ∃ ps, List.Forall₂ (Clause.ReadsAs d) q.clauses ps ∧ t.tokens d
      = (Selection.sectionIf ps (.word "WHERE" :: joinedTokens (.equal 1 1) ps)).flatten := by
  cases h with
  | clauses hclauses =>
    rcases whereClause_eq_ok.mp hclauses with ⟨hnil, rfl⟩ | ⟨hne, u, hu, rfl⟩
    · exact ⟨[], hnil ▸ .nil, rfl⟩
    · have hkeyword : Piece.tokens d (.text "WHERE 1 = 1")
          = .word "WHERE" :: (Test.equal 1 1).tokens := Piece.tokens_text d (by decide) (by decide)
      obtain ⟨ps, hps, htokens⟩ := exists_readsAs_clauseChain (d := d) hraw hu
      refine ⟨ps, hps, ?_⟩
      rw [Selection.sectionIf_of_forall₂ hne hps, tokens_cons, hkeyword, htokens]
      simp [joinedTokens]

/-- A query without raw texts. If it calls a function, then by a plain name. -/
structure Plain (q : Query) : Prop where
  rawTexts : q.rawTexts = []
  function : ∀ a ∈ q.aggregate?, a.function ≠ "" ∧ isPlainName a.function = true

/-- The tokens of the statement of a plain query are those of a selection. -/
theorem exists_readsAs (hq : q.Plain) (h : q.selectTemplate d = .ok t) :
    ∃ s : Selection, q.ReadsAs d s ∧ s.tokens = t.tokens d := by
  have hraw := hq.rawTexts
  simp only [rawTexts, List.append_eq_nil_iff, List.flatMap_eq_nil_iff] at hraw
  obtain ⟨hraw, hclauses⟩ := hraw
  obtain ⟨part, hpart, rfl⟩ := exists_parts h
  obtain ⟨x, hx, hxtokens⟩ :=
    exists_headReadsAs hraw hq.function (hpart .aggregate) (hpart .columns)
  obtain ⟨r, hr, hrtokens⟩ := exists_readsAs_table hraw (hpart .table)
  obtain ⟨ss, hss, hsstokens⟩ := exists_readsAs_joins hraw (hpart .joins)
  obtain ⟨ps, hps, hpstokens⟩ := exists_readsAs_clauses hclauses (hpart .clauses)
  obtain ⟨gs, hgs, hgstokens⟩ := exists_readsAs_groups hraw (hpart .groups)
  obtain ⟨ks, hks, hkstokens⟩ := exists_readsAs_sortKeys hraw (hpart .sortKeys)
  have hlast := tokens_limit_offset (hpart .limit) (hpart .offset)
  refine ⟨⟨x, r, ss, ps, gs, ks, q.limitRead? d, q.offset?.map UInt64.toNat⟩,
    ⟨hx, hr, hss, hps, hgs, hks, rfl, rfl⟩, ?_⟩
  rw [tokens_join_filter]
  simp only [Component.all, List.map_cons, List.map_nil, List.flatten_cons, List.flatten_nil,
    List.append_nil, hlast, hrtokens, hsstokens, hpstokens, hgstokens, hkstokens]
  rw [Selection.tokens, hxtokens]
  simp [Selection.sections]

end Query

end

end BoundSql
