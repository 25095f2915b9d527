import BoundSql.Proofs.Composition

/-!
# How statements are composed

The four statements, and the white space that is cut at the end of two of them.
-/

namespace BoundSql

open Template

/-! ### Cutting white space -/

namespace Text

lemma trimEnd_isPrefix (cs : List Char) : trimEnd cs <+: cs :=
  List.rdropWhile_prefix isBlank cs

end Text

/-- A text without the white space at its end. -/
def trimmed (s : String) : String := String.ofList (Text.trimEnd s.toList)

namespace Template

@[simp] lemma trimEnd_nil : trimEnd [] = [] := rfl

lemma trimEnd_concat_text (t : Template) (s : String) :
    trimEnd (t ++ [.text s])
      = if Text.trimEnd s.toList = [] then trimEnd t else t ++ [.text (trimmed s)] := by
  simp only [trimEnd, List.reverse_append, List.reverse_cons, List.reverse_nil, List.nil_append,
    List.singleton_append, trimReversed]
  split
  · next h => rw [if_pos h]
  · next h => rw [if_neg h, trimmed]; simp

@[simp] lemma trimEnd_concat_name (t : Template) (s : String) :
    trimEnd (t ++ [.name s]) = t ++ [.name s] := by
  simp [trimEnd, trimReversed]

@[simp] lemma trimEnd_concat_slot (t : Template) (v : SqlValue) :
    trimEnd (t ++ [.slot v]) = t ++ [.slot v] := by
  simp [trimEnd, trimReversed]

/-- Cutting white space binds nothing and unbinds nothing. -/
@[simp] lemma params_trimEnd (t : Template) : params (trimEnd t) = params t := by
  induction t using List.reverseRecOn with
  | nil => rfl
  | append_singleton t p ih =>
    cases p with
    | text s =>
      rw [trimEnd_concat_text]
      split_ifs
      · simpa [params] using ih
      · simp [params]
    | name s => simp
    | slot v => simp

lemma startsApart_trimmed {s : String} (h : Text.trimEnd s.toList ≠ []) :
    (Piece.text (trimmed s)).startsApart = (Piece.text s).startsApart := by
  obtain ⟨rest, hrest⟩ := Text.trimEnd_isPrefix s.toList
  have hhead : (Text.trimEnd s.toList).head? = s.toList.head? := by
    conv_rhs => rw [← hrest, List.head?_append_of_ne_nil _ h]
  simp only [Piece.startsApart, trimmed, String.toList_ofList, hhead]

lemma Composed.trimEnd {P : String → Prop} {t : Template}
    (h : Composed (fun s => P s ∧ P (trimmed s)) t) : Composed P (trimEnd t) := by
  induction t using List.reverseRecOn with
  | nil => exact .nil
  | append_singleton t p ih =>
    obtain ⟨happart, -, hlast⟩ := List.isChain_append.mp h.apart
    have ht : Composed P t := ⟨happart, fun s hs => (h.texts s (List.mem_append_left _ hs)).1⟩
    cases p with
    | text s =>
      rw [trimEnd_concat_text]
      split_ifs with hs
      · exact ih ⟨happart, fun s hs => h.texts s (List.mem_append_left _ hs)⟩
      · refine .append ht (.text (h.texts s (by simp)).2) ?_
        intro p hp p' hp'
        simp only [List.head?_cons, Option.mem_some_iff] at hp'
        subst hp'
        have hapart : p.Apart (.text s) := hlast p hp _ (by simp)
        simpa only [Piece.Apart, startsApart_trimmed hs] using hapart
    | name s =>
      rw [trimEnd_concat_name]
      exact .append ht (.name s) hlast
    | slot v =>
      rw [trimEnd_concat_slot]
      exact .append ht (.slot v) hlast

end Template

/-! ### The statements -/

/-- What may stand before the keyword `OFFSET`. -/
def offsetStarts : List String := ["", "LIMIT -1 ", "LIMIT 18446744073709551615 "]

lemma offsetStart_mem (d : Dialect) (limit? : Option UInt64) :
    (if limit?.isSome then "" else d.beforeBareOffset) ∈ offsetStarts := by
  split_ifs
  · decide
  · cases d <;> decide

/-- A property of all texts that the compiler writes, also where white space is cut. -/
structure Admits (P : String → Prop) : Prop where
  literal : ∀ s ∈ literals, P s ∧ P (trimmed s)
  limit : ∀ n : Nat, P ("LIMIT " ++ n.repr)
  offset : ∀ start ∈ offsetStarts, ∀ n : Nat, P (start ++ "OFFSET " ++ n.repr)

section

variable {P : String → Prop} {t : Template}

section

variable (hP : ∀ s ∈ literals, P s)

include hP

lemma Join.composed_template {d : Dialect} {j : Join}
    (hraw : ∀ i ∈ j.identifiers, ∀ s ∈ i.rawTexts, P s) (h : j.template d = .ok t) :
    Composed P t := by
  obtain ⟨u, hu, hcases⟩ := Join.template_eq_ok h
  have htable : Composed P u := j.table.composed_template hP (hraw _ List.mem_cons_self) hu
  rcases hcases with ⟨-, -, rfl⟩ | ⟨on, v, hon, hv, rfl⟩
  · exact .text_cons (hP _ (by decide)) htable rfl
  · have hcondition : Composed P v := by
      apply composed_columnComparison hP (hraw _ _) (hraw _ _) hv
      · simp [Join.identifiers, hon]
      · simp [Join.identifiers, hon]
    have hstart : Composed P (.text (j.kind.keyword ++ " JOIN ") :: u) :=
      .text_cons (hP _ (by cases j.kind <;> decide)) htable (by cases j.kind <;> rfl)
    exact .append_text_append hstart (hP _ (by decide)) hcondition rfl rfl

lemma composed_sortKeyTemplate {k : SortKey} (hraw : ∀ s ∈ k.column.rawTexts, P s)
    (h : Query.sortKeyTemplate k = .ok t) : Composed P t := by
  obtain ⟨column, direction⟩ := k
  simp only [Query.sortKeyTemplate, bind_eq_ok, pure_eq_ok] at h
  obtain ⟨c, hc, rfl⟩ := h
  have hc : Composed P c := column.composed_template hP hraw hc
  cases direction with
  | asc => exact .append_text hc (.text (hP _ (by decide))) rfl
  | desc => exact .append_text hc (.text (hP _ (by decide))) rfl

lemma Insertion.composed_opening {i : Insertion} (htable : Composed P i.table)
    (hcolumns : ∀ u ∈ i.columns, Composed P u) : Composed P i.opening := by
  have hstart : Composed P (.text "INSERT INTO " :: i.table) :=
    .text_cons (hP _ (by decide)) htable rfl
  have hlist : Composed P (Template.join ", " i.columns) :=
    .join (hP _ (by decide)) rfl rfl hcolumns
  have hopen : Composed P
      (.text "INSERT INTO " :: i.table ++ .text " (" :: Template.join ", " i.columns) :=
    .append_text_append hstart (hP _ (by decide)) hlist rfl rfl
  exact .append_text hopen (.text (hP _ (by decide))) rfl

omit hP in
/-- The opening of an insertion ends in a break, so anything can stand after it. -/
lemma Insertion.append_opening {i : Insertion} (hopening : Composed P i.opening)
    (ht : Composed P t) : Composed P (i.opening ++ t) := by
  refine .append hopening ht fun p hp p' _ => Or.inl ?_
  simp only [Insertion.opening, List.getLast?_append, List.getLast?_singleton, Option.some_or,
    Option.mem_some_iff] at hp
  exact hp ▸ rfl

lemma Insertion.composed_plain {i : Insertion} (hopening : Composed P i.opening)
    (hgroups : ∀ vs ∈ i.groups, ∀ v ∈ vs, ∀ s ∈ v.rawTexts, P s) : Composed P i.plain := by
  refine Insertion.append_opening hopening (.text_cons (hP _ (by decide)) ?_ rfl)
  refine .join (hP _ (by decide)) rfl rfl ?_
  intro u hu
  obtain ⟨vs, hvs, rfl⟩ := List.mem_map.mp hu
  have hvalues : Composed P (valueList vs) := composed_valueList hP (hgroups vs hvs)
  have hstart : Composed P (.text "(" :: valueList vs) :=
    .text_cons (hP _ (by decide)) hvalues rfl
  exact .append_text hstart (.text (hP _ (by decide))) rfl

lemma Insertion.composed_namedItems {i : Insertion} {vs : List Value}
    (hcolumns : ∀ u ∈ i.columns, Composed P u) (hvs : ∀ v ∈ vs, ∀ s ∈ v.rawTexts, P s) :
    ∀ u ∈ i.namedItems vs, Composed P u := by
  intro u hu
  simp only [Insertion.namedItems, List.mem_iff_getElem?, List.getElem?_zipWith] at hu
  obtain ⟨k, hk⟩ := hu
  split at hk
  · next v c hv hc =>
    simp only [Option.some.injEq] at hk
    subst hk
    have hv : Composed P v.template := v.composed_template (hvs v (List.mem_of_getElem? hv))
    exact .append_text_append hv (hP _ (by decide)) (hcolumns c (List.mem_of_getElem? hc)) rfl rfl
  · simp at hk

lemma Insertion.composed_compound {i : Insertion} (hopening : Composed P i.opening)
    (hcolumns : ∀ u ∈ i.columns, Composed P u)
    (hgroups : ∀ vs ∈ i.groups, ∀ v ∈ vs, ∀ s ∈ v.rawTexts, P s) : Composed P i.compound := by
  apply Insertion.append_opening hopening
  refine .join (hP _ (by decide)) rfl rfl ?_
  intro u hu
  cases hgs : i.groups with
  | nil => simp [Insertion.selects, hgs] at hu
  | cons vs rest =>
    rw [hgs] at hgroups
    simp only [Insertion.selects, hgs, List.mem_cons, List.mem_map] at hu
    rcases hu with rfl | ⟨ws, hws, rfl⟩
    · have hitems : Composed P (Template.join ", " (i.namedItems vs)) :=
        .join (hP _ (by decide)) rfl rfl
          (Insertion.composed_namedItems hP hcolumns (hgroups vs List.mem_cons_self))
      exact .text_cons (hP _ (by decide)) hitems rfl
    · have hvalues : Composed P (valueList ws) :=
        composed_valueList hP (hgroups ws (List.mem_cons_of_mem _ hws))
      exact .text_cons (hP _ (by decide)) hvalues rfl

lemma Query.composed_insertTemplate {c : Config} {q : Query} {rows : Rows}
    (htable : ∀ s ∈ q.table.rawTexts, P s) (hrows : ∀ r ∈ rows.toList, ∀ s ∈ r.rawTexts, P s)
    (h : q.insertTemplate c rows = .ok t) : Composed P t := by
  simp only [Query.insertTemplate, bind_eq_ok, pure_eq_ok] at h
  obtain ⟨i, hi, rfl⟩ := h
  obtain ⟨first, rest, -, ht, hcs, hgs⟩ := Insertion.ofRows_eq_ok hi
  have hcolumns : ∀ u ∈ i.columns, Composed P u := by
    intro u hu
    obtain ⟨c, -, hcu⟩ := exists_of_mem_forall₂ hcs hu
    exact composed_columnReference hP hcu
  have hgroups : ∀ vs ∈ i.groups, ∀ v ∈ vs, ∀ s ∈ v.rawTexts, P s := by
    intro vs hvs v hv s hs
    obtain ⟨r, hr, hrvs⟩ := exists_of_mem_forall₂ hgs hvs
    obtain ⟨c, -, hcv⟩ := exists_of_mem_forall₂ hrvs hv
    exact hrows r hr s (List.mem_flatMap.mpr ⟨v, Row.mem_values_of_get? hcv, hs⟩)
  have hopening : Composed P i.opening :=
    Insertion.composed_opening hP (q.table.composed_template hP htable ht) hcolumns
  split_ifs
  · exact Insertion.composed_compound hP hopening hcolumns hgroups
  · exact Insertion.composed_plain hP hopening hgroups

lemma composed_assignment {e : String × Value} (hraw : ∀ s ∈ e.2.rawTexts, P s)
    (h : assignment e = .ok t) : Composed P t := by
  simp only [assignment, bind_eq_ok, pure_eq_ok] at h
  obtain ⟨c, hc, rfl⟩ := h
  exact .append_text_append (composed_columnReference hP hc) (hP _ (by decide))
    (e.2.composed_template hraw) rfl rfl

end

section

variable (hP : Admits P)

include hP

lemma Query.composed_updateTemplate {q : Query} {row : Row}
    (htable : ∀ s ∈ q.table.rawTexts, P s ∧ P (trimmed s))
    (hclauses : ∀ c ∈ q.clauses, ∀ s ∈ c.predicate.rawTexts, P s ∧ P (trimmed s))
    (hrow : ∀ s ∈ row.rawTexts, P s ∧ P (trimmed s)) (h : q.updateTemplate row = .ok t) :
    Composed P t := by
  simp only [Query.updateTemplate] at h
  split at h
  · simp at h
  simp only [bind_eq_ok, pure_eq_ok, mapM_eq_ok] at h
  obtain ⟨table, ht, assignments, has, clause, hc, rfl⟩ := h
  have hlist : Composed (fun s => P s ∧ P (trimmed s)) (Template.join ", " assignments) :=
    .join_forall₂ (hP.literal _ (by decide)) rfl rfl has fun e he u hu => by
      apply composed_assignment hP.literal _ hu
      intro s hs
      exact hrow s (List.mem_flatMap.mpr ⟨e.2, List.mem_map_of_mem he, hs⟩)
  have hstart : Composed _ (.text "UPDATE " :: table) :=
    .text_cons (hP.literal _ (by decide)) (q.table.composed_template hP.literal htable ht) rfl
  have hset : Composed _
      (.text "UPDATE " :: table ++ .text " SET " :: Template.join ", " assignments) :=
    .append_text_append hstart (hP.literal _ (by decide)) hlist rfl rfl
  exact .trimEnd (.append_text_append hset (hP.literal _ (by decide))
    (composed_whereClause hP.literal hclauses hc) rfl rfl)

lemma Query.composed_deleteTemplate {q : Query}
    (htable : ∀ s ∈ q.table.rawTexts, P s ∧ P (trimmed s))
    (hclauses : ∀ c ∈ q.clauses, ∀ s ∈ c.predicate.rawTexts, P s ∧ P (trimmed s))
    (h : q.deleteTemplate = .ok t) : Composed P t := by
  simp only [Query.deleteTemplate, bind_eq_ok, pure_eq_ok] at h
  obtain ⟨table, ht, clause, hc, rfl⟩ := h
  have hstart : Composed _ (.text "DELETE FROM " :: table) :=
    .text_cons (hP.literal _ (by decide)) (q.table.composed_template hP.literal htable ht) rfl
  exact .trimEnd (.append_text_append hstart (hP.literal _ (by decide))
    (composed_whereClause hP.literal hclauses hc) rfl rfl)

lemma Query.composed_component {d : Dialect} {q : Query} {c : Component}
    (hraw : ∀ s ∈ q.rawTexts, P s)
    (hfunction : ∀ a ∈ q.aggregate?, P ("SELECT " ++ Text.upper a.function ++ "("))
    (h : (q.component d c).toExcept = .ok t) : Composed P t := by
  have hliteral : ∀ s ∈ literals, P s := fun s hs => (hP.literal s hs).1
  have hidentifier : ∀ i ∈ q.identifiers, ∀ s ∈ i.rawTexts, P s := fun i hi s hs =>
    hraw s (List.mem_append_left _ (List.mem_flatMap.mpr ⟨i, hi, hs⟩))
  have hlisted : ∀ {is : List Identifier} {ts : List Template},
      List.Forall₂ (fun i t => i.template = .ok t) is ts → (∀ i ∈ is, ∀ s ∈ i.rawTexts, P s) →
      Composed P (Template.join ", " ts) := fun hts his =>
    .join_forall₂ (hliteral _ (by decide)) rfl rfl hts fun i hi _ =>
      i.composed_template hliteral (his i hi)
  cases compiled_of_component h with
  | noAggregate | noColumns | noGroups | noSortKeys | noLimit | noOffset => exact .nil
  | @aggregate a c ha hc =>
    have hcolumn : Composed P c :=
      a.column.composed_template hliteral (hidentifier _ (by simp [identifiers, ha])) hc
    have hends : (Piece.text ("SELECT " ++ Text.upper a.function ++ "(")).endsApart = true := by
      simp only [Piece.endsApart, String.toList_append]
      rw [show "(".toList = ['('] from rfl, List.getLast?_append]
      rfl
    exact .append_text (.text_cons (hfunction a ha) hcolumn hends)
      (.text (hliteral _ (by decide))) rfl
  | columns ha hts =>
    have hselected : ∀ i ∈ q.selected, ∀ s ∈ i.rawTexts, P s := by
      intro i hi
      rcases mem_selected hi with rfl | hi
      · simp [Identifier.rawTexts]
      · exact hidentifier i (by simp [identifiers, hi])
    refine .text_cons ?_ (hlisted hts hselected) ?_
    · cases q.distinct
      · exact hliteral _ (by decide)
      · exact hliteral _ (by decide)
    · cases q.distinct <;> rfl
  | table ht =>
    refine .text_cons (hliteral _ (by decide)) (q.table.composed_template hliteral ?_ ht) rfl
    exact hidentifier _ (by simp [identifiers])
  | joins hts =>
    refine .join_forall₂ (hliteral _ (by decide)) rfl rfl hts ?_
    intro j hj u hu
    refine j.composed_template hliteral (fun i hi => hidentifier i ?_) hu
    have hjoin : i ∈ q.joins.flatMap Join.identifiers := List.mem_flatMap.mpr ⟨j, hj, hi⟩
    simp only [identifiers, List.mem_append, hjoin, or_true, true_or]
  | clauses h =>
    exact composed_whereClause hliteral (fun c hc s hs => hraw s
      (List.mem_append_right _ (List.mem_flatMap.mpr ⟨c, hc, hs⟩))) h
  | groups hne hts =>
    have hgroups : ∀ i ∈ q.groups, ∀ s ∈ i.rawTexts, P s := fun i hi =>
      hidentifier i (by simp [identifiers, hi])
    exact .text_cons (hliteral _ (by decide)) (hlisted hts hgroups) rfl
  | sortKeys hne hts =>
    refine .text_cons (hliteral _ (by decide))
      (.join_forall₂ (hliteral _ (by decide)) rfl rfl hts fun k hk u hu => ?_) rfl
    refine composed_sortKeyTemplate hliteral (hidentifier _ ?_) hu
    exact List.mem_append_right _ (List.mem_map_of_mem hk)
  | limit => exact .text (hP.limit _)
  | offset => exact .text (hP.offset _ (offsetStart_mem _ _) _)

lemma Query.composed_selectTemplate {d : Dialect} {q : Query} (hraw : ∀ s ∈ q.rawTexts, P s)
    (hfunction : ∀ a ∈ q.aggregate?, P ("SELECT " ++ Text.upper a.function ++ "("))
    (h : q.selectTemplate d = .ok t) : Composed P t := by
  obtain ⟨parts, hparts, rfl⟩ := selectTemplate_eq_ok.mp h
  refine .join (hP.literal _ (by decide)).1 rfl rfl ?_
  intro u hu
  obtain ⟨c, -, hcu⟩ := exists_of_mem_forall₂ hparts (List.mem_of_mem_filter hu)
  exact Query.composed_component hP hraw hfunction hcu

/-- Every command has a composed template, whose texts are admitted when the caller's are. -/
lemma Command.composed_template {c : Config} {r : Command}
    (hraw : ∀ s ∈ r.rawTexts, P s ∧ P (trimmed s))
    (hfunction : ∀ f ∈ r.function?, P ("SELECT " ++ Text.upper f ++ "("))
    (h : r.template c = .ok t) : Composed P t := by
  have htable : ∀ q : Query, (∀ s ∈ q.rawTexts, P s ∧ P (trimmed s)) →
      ∀ s ∈ q.table.rawTexts, P s ∧ P (trimmed s) := fun q hq s hs =>
    hq s (List.mem_append_left _ (List.mem_flatMap.mpr ⟨q.table, by simp [Query.identifiers], hs⟩))
  have hclauses : ∀ q : Query, (∀ s ∈ q.rawTexts, P s ∧ P (trimmed s)) →
      ∀ c ∈ q.clauses, ∀ s ∈ c.predicate.rawTexts, P s ∧ P (trimmed s) := fun q hq c hc s hs =>
    hq s (List.mem_append_right _ (List.mem_flatMap.mpr ⟨c, hc, hs⟩))
  cases r with
  | select q =>
    apply Query.composed_selectTemplate hP (fun s hs => (hraw s hs).1) _ h
    intro a ha
    exact hfunction _ (by simp only [Command.function?, Option.mem_def.mp ha]; rfl)
  | insert q rows =>
    have hq : ∀ s ∈ q.rawTexts, P s ∧ P (trimmed s) := fun s hs =>
      hraw s (List.mem_append_left _ hs)
    refine Query.composed_insertTemplate (fun s hs => (hP.literal s hs).1)
      (fun s hs => (htable q hq s hs).1) (fun row hrow s hs => (hraw s ?_).1) h
    exact List.mem_append_right _ (List.mem_flatMap.mpr ⟨row, hrow, hs⟩)
  | update q row =>
    have hq : ∀ s ∈ q.rawTexts, P s ∧ P (trimmed s) := fun s hs =>
      hraw s (List.mem_append_left _ hs)
    exact Query.composed_updateTemplate hP (htable q hq) (hclauses q hq)
      (fun s hs => hraw s (List.mem_append_right _ hs)) h
  | delete q => exact Query.composed_deleteTemplate hP (htable q hraw) (hclauses q hraw) h

end

end

end BoundSql
