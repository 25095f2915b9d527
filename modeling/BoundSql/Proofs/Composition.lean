import BoundSql.Proofs.Command

/-!
# How templates are composed

Every template is put together in the same way: its texts are the compiler's own words and the
raw texts of the caller, and between any two neighbouring pieces there is a break, so that a
reader never runs a name, a placeholder or a word into what stands next to it.
-/

namespace BoundSql

/-- The characters that part the words of a statement. -/
def isBreak (c : Char) : Bool := c == ' ' || c == '(' || c == ')' || c == ',' || c == '.'

namespace Piece

/-- Whether a piece is a text that starts with a break. -/
def startsApart : Piece → Bool
  | .text s => s.toList.head?.any isBreak
  | .name _ | .slot _ => false

/-- Whether a piece is a text that ends in a break. -/
def endsApart : Piece → Bool
  | .text s => s.toList.getLast?.any isBreak
  | .name _ | .slot _ => false

/-- A piece and the next, with a break between them. -/
def Apart (p p' : Piece) : Prop := p.endsApart = true ∨ p'.startsApart = true

end Piece

/-- The texts that the compiler writes, numbers and names of functions apart. -/
def literals : List String :=
  ["*", ".", " AS ", ", ", " ", " AND ", ")", "0 = 1", "1 = 1", " IS NULL", " IS NOT NULL",
    " IN (", " NOT IN (", " BETWEEN ", " NOT BETWEEN ", "WHERE 1 = 1", "SELECT ",
    "SELECT DISTINCT ", "FROM ", "CROSS JOIN ", " ON ", "GROUP BY ", "ORDER BY ", "INSERT INTO ",
    " (", ") ", "VALUES ", "(", " UNION ALL ", "UPDATE ", " SET ", " = ", "DELETE FROM "]
  ++ Operator.all.map (fun op => " " ++ op.text ++ " ")
  ++ [Connector.and, Connector.or].map (fun c => " " ++ c.keyword ++ " ")
  ++ JoinKind.all.map (fun k => k.keyword ++ " JOIN ")
  ++ [Direction.asc, Direction.desc].map (fun d => " " ++ d.keyword)

namespace Template

/-- Texts have the property `P`, and neighbouring pieces stand apart. -/
structure Composed (P : String → Prop) (t : Template) : Prop where
  apart : t.IsChain Piece.Apart
  texts : ∀ s, .text s ∈ t → P s

/-! ### Joining templates -/

@[simp] lemma join_nil (l : String) : join l [] = [] := rfl

@[simp] lemma join_singleton (l : String) (t : Template) : join l [t] = t :=
  List.intercalate_singleton

@[simp] lemma join_cons_cons (l : String) (t u : Template) (ts : List Template) :
    join l (t :: u :: ts) = t ++ .text l :: join l (u :: ts) := by
  simp [join, List.intercalate_cons_cons]

lemma join_cons_of_ne_nil (l : String) (t : Template) {ts : List Template} (h : ts ≠ []) :
    join l (t :: ts) = t ++ .text l :: join l ts := by
  cases ts with
  | nil => exact absurd rfl h
  | cons u us => exact join_cons_cons l t u us

lemma join_cons (l : String) (t : Template) (ts : List Template) :
    join l (t :: ts) = t ++ if ts = [] then [] else .text l :: join l ts := by
  by_cases h : ts = []
  · simp [h]
  · rw [if_neg h, join_cons_of_ne_nil l t h]

namespace Composed

variable {P : String → Prop} {s t : Template} {l : String}

lemma nil : Composed P [] := ⟨.nil, by simp⟩

lemma name (s : String) : Composed P [.name s] := ⟨.singleton _, by simp⟩

lemma slot (v : SqlValue) : Composed P [.slot v] := ⟨.singleton _, by simp⟩

lemma text (h : P l) : Composed P [.text l] := ⟨.singleton _, by simpa using h⟩

lemma append (hs : Composed P s) (ht : Composed P t)
    (h : ∀ p ∈ s.getLast?, ∀ p' ∈ t.head?, p.Apart p') : Composed P (s ++ t) := by
  refine ⟨List.isChain_append.mpr ⟨hs.apart, ht.apart, h⟩, ?_⟩
  intro l hl
  rcases List.mem_append.mp hl with hl | hl
  · exact hs.texts l hl
  · exact ht.texts l hl

/-- A text that ends in a break can stand before anything. -/
lemma text_cons (hl : P l) (ht : Composed P t) (h : (Piece.text l).endsApart = true) :
    Composed P (.text l :: t) := by
  refine append (text hl) ht fun p hp p' _ => Or.inl ?_
  simp only [List.getLast?_singleton, Option.mem_some_iff] at hp
  exact hp ▸ h

/-- A text that starts with a break can stand after anything. -/
lemma append_text (hs : Composed P s) (ht : Composed P (.text l :: t))
    (h : (Piece.text l).startsApart = true) : Composed P (s ++ .text l :: t) := by
  refine append hs ht fun p _ p' hp' => Or.inr ?_
  simp only [List.head?_cons, Option.mem_some_iff] at hp'
  exact hp' ▸ h

/-- A text that starts and ends in a break can stand between any two templates. -/
lemma append_text_append (hs : Composed P s) (hl : P l) (ht : Composed P t)
    (h : (Piece.text l).startsApart = true) (h' : (Piece.text l).endsApart = true) :
    Composed P (s ++ .text l :: t) :=
  append_text hs (text_cons hl ht h') h

lemma join {ts : List Template} (hl : P l) (h : (Piece.text l).startsApart = true)
    (h' : (Piece.text l).endsApart = true) (hts : ∀ t ∈ ts, Composed P t) :
    Composed P (Template.join l ts) := by
  induction ts with
  | nil => exact nil
  | cons t ts ih =>
    have ht : Composed P t := hts t List.mem_cons_self
    have hjoin : Composed P (Template.join l ts) := ih fun u hu => hts u (List.mem_cons_of_mem _ hu)
    cases ts with
    | nil => simpa using ht
    | cons u us =>
      rw [join_cons_cons]
      exact append_text_append ht hl hjoin h h'

/-- A list is composed if each of its elements is. -/
lemma join_forall₂ {α : Type} {f : α → Except Error Template} {as : List α} {ts : List Template}
    (hl : P l) (hstarts : (Piece.text l).startsApart = true)
    (hends : (Piece.text l).endsApart = true) (hts : List.Forall₂ (fun a t => f a = .ok t) as ts)
    (hf : ∀ a ∈ as, ∀ t, f a = .ok t → Composed P t) : Composed P (Template.join l ts) := by
  apply join hl hstarts hends
  intro t ht
  obtain ⟨a, ha, hat⟩ := exists_of_mem_forall₂ hts ht
  exact hf a ha t hat

lemma tail {p : Piece} (h : Composed P (p :: t)) : Composed P t :=
  ⟨h.apart.tail, fun s hs => h.texts s (List.mem_cons_of_mem _ hs)⟩

lemma mono {Q : String → Prop} (h : ∀ s, P s → Q s) (ht : Composed P t) : Composed Q t :=
  ⟨ht.apart, fun s hs => h s (ht.texts s hs)⟩

end Composed

end Template

/-! ### References and values -/

section

variable {P : String → Prop} {t : Template} (hP : ∀ s ∈ literals, P s)

open Template

include hP

lemma composed_path (cs : List Char) : Composed P (path cs) := by
  apply Composed.join (hP _ (by decide)) rfl rfl
  intro t ht
  obtain ⟨s, -, rfl⟩ := List.mem_map.mp ht
  rw [segment]
  split_ifs
  · exact .text (hP _ (by decide))
  · exact .name _

lemma composed_nameReference {s : String} (h : nameReference s = .ok t) : Composed P t := by
  simp only [nameReference] at h
  split at h
  · split at h
    · simp only [Except.ok.injEq] at h
      subst h
      exact .append_text_append (composed_path hP _) (hP _ (by decide)) (composed_path hP _) rfl rfl
    · simp at h
  · simp only [Except.ok.injEq] at h
    subst h
    exact composed_path hP _

lemma composed_columnReference {s : String} (h : columnReference s = .ok t) : Composed P t := by
  simp only [columnReference] at h
  split at h
  · simp at h
  · simp only [Except.ok.injEq] at h
    subst h
    exact composed_path hP _

lemma Identifier.composed_template {i : Identifier} (hraw : ∀ s ∈ i.rawTexts, P s)
    (h : i.template = .ok t) : Composed P t := by
  cases i with
  | expr e =>
    simp only [Identifier.template, Except.ok.injEq] at h
    subst h
    exact .text (hraw _ (by simp [Identifier.rawTexts]))
  | name s => exact composed_nameReference hP h

omit hP in
lemma Value.composed_template {v : Value} (hraw : ∀ s ∈ v.rawTexts, P s) :
    Composed P v.template := by
  cases v with
  | expr e => exact .text (hraw _ (by simp [Value.rawTexts]))
  | param v => exact .slot v

lemma composed_valueList {values : List Value} (hraw : ∀ v ∈ values, ∀ s ∈ v.rawTexts, P s) :
    Composed P (valueList values) := by
  refine .join (hP _ (by decide)) rfl rfl ?_
  intro u hu
  obtain ⟨v, hv, rfl⟩ := List.mem_map.mp hu
  exact v.composed_template (hraw v hv)

/-! ### Conditions -/

lemma composed_rangeComparison {column : Identifier} {keyword : String} {low high : Value}
    (hk : keyword ∈ [" BETWEEN ", " NOT BETWEEN "]) (hcolumn : ∀ s ∈ column.rawTexts, P s)
    (hlow : ∀ s ∈ low.rawTexts, P s) (hhigh : ∀ s ∈ high.rawTexts, P s)
    (h : rangeComparison column keyword low high = .ok t) : Composed P t := by
  simp only [rangeComparison, bind_eq_ok, pure_eq_ok] at h
  obtain ⟨c, hc, rfl⟩ := h
  have hstart : Composed P (c ++ .text keyword :: low.template) := by
    have hc : Composed P c := column.composed_template hP hcolumn hc
    simp only [List.mem_cons, List.not_mem_nil, or_false] at hk
    rcases hk with rfl | rfl
    · exact .append_text_append hc (hP _ (by decide)) (low.composed_template hlow) rfl rfl
    · exact .append_text_append hc (hP _ (by decide)) (low.composed_template hlow) rfl rfl
  exact .append_text_append hstart (hP _ (by decide)) (high.composed_template hhigh) rfl rfl

lemma composed_listMembership {column : Identifier} {keyword : String} {values : List Value}
    (hk : keyword ∈ [" IN (", " NOT IN ("]) (hcolumn : ∀ s ∈ column.rawTexts, P s)
    (hvalues : ∀ v ∈ values, ∀ s ∈ v.rawTexts, P s)
    (h : listMembership column keyword values = .ok t) : Composed P t := by
  simp only [listMembership, bind_eq_ok, pure_eq_ok] at h
  obtain ⟨c, hc, rfl⟩ := h
  have hstart : Composed P (c ++ .text keyword :: valueList values) := by
    have hc : Composed P c := column.composed_template hP hcolumn hc
    simp only [List.mem_cons, List.not_mem_nil, or_false] at hk
    rcases hk with rfl | rfl
    · exact .append_text_append hc (hP _ (by decide)) (composed_valueList hP hvalues) rfl rfl
    · exact .append_text_append hc (hP _ (by decide)) (composed_valueList hP hvalues) rfl rfl
  exact .append_text hstart (.text (hP _ (by decide))) rfl

omit hP in
lemma Operator.text_mem_literals (op : Operator) : " " ++ op.text ++ " " ∈ literals := by
  cases op <;> decide

omit hP in
lemma Operator.apart_text (op : Operator) :
    (Piece.text (" " ++ op.text ++ " ")).startsApart = true ∧
      (Piece.text (" " ++ op.text ++ " ")).endsApart = true := by
  cases op <;> decide

lemma composed_columnComparison {first second : Identifier} {op : Operator}
    (hfirst : ∀ s ∈ first.rawTexts, P s) (hsecond : ∀ s ∈ second.rawTexts, P s)
    (h : columnComparison first op second = .ok t) : Composed P t := by
  simp only [columnComparison, bind_eq_ok, pure_eq_ok] at h
  obtain ⟨a, ha, b, hb, rfl⟩ := h
  exact .append_text_append (first.composed_template hP hfirst ha) (hP _ op.text_mem_literals)
    (second.composed_template hP hsecond hb) op.apart_text.1 op.apart_text.2

lemma Predicate.composed_template {p : Predicate} (hraw : ∀ s ∈ p.rawTexts, P s)
    (h : p.template = .ok t) : Composed P t := by
  have hcolumns : ∀ i ∈ p.identifiers, ∀ s ∈ i.rawTexts, P s := fun i hi s hs =>
    hraw s (List.mem_append_left _ (List.mem_append_left _ (List.mem_flatMap.mpr ⟨i, hi, hs⟩)))
  have hvalues : ∀ v ∈ p.values, ∀ s ∈ v.rawTexts, P s := fun v hv s hs =>
    hraw s (List.mem_append_left _ (List.mem_append_right _ (List.mem_flatMap.mpr ⟨v, hv, hs⟩)))
  cases p with
  | compare column op value =>
    simp only [Predicate.template, bind_eq_ok, pure_eq_ok] at h
    obtain ⟨c, hc, rfl⟩ := h
    have hc : Composed P c := column.composed_template hP (hcolumns _ List.mem_cons_self) hc
    exact .append_text_append hc (hP _ op.text_mem_literals)
      (value.composed_template (hvalues _ List.mem_cons_self)) op.apart_text.1 op.apart_text.2
  | isIn column values =>
    cases values with
    | nil =>
      simp only [Predicate.template, Except.ok.injEq] at h
      exact h ▸ .text (hP _ (by decide))
    | cons v vs =>
      exact composed_listMembership hP (by simp) (hcolumns _ List.mem_cons_self) hvalues h
  | notIn column values =>
    cases values with
    | nil =>
      simp only [Predicate.template, Except.ok.injEq] at h
      exact h ▸ .text (hP _ (by decide))
    | cons v vs =>
      exact composed_listMembership hP (by simp) (hcolumns _ List.mem_cons_self) hvalues h
  | isNull column | notNull column =>
    simp only [Predicate.template, bind_eq_ok, pure_eq_ok] at h
    obtain ⟨c, hc, rfl⟩ := h
    have hc : Composed P c := column.composed_template hP (hcolumns _ List.mem_cons_self) hc
    exact .append_text hc (.text (hP _ (by decide))) rfl
  | between column low high | notBetween column low high =>
    exact composed_rangeComparison hP (by simp) (hcolumns _ List.mem_cons_self)
      (hvalues low List.mem_cons_self) (hvalues high (List.mem_cons_of_mem _ List.mem_cons_self)) h
  | compareColumns first op second =>
    exact composed_columnComparison hP (hcolumns first List.mem_cons_self)
      (hcolumns second (List.mem_cons_of_mem _ List.mem_cons_self)) h
  | raw sql =>
    simp only [Predicate.template, Except.ok.injEq] at h
    exact h ▸ .text (hraw sql (by simp [Predicate.rawTexts]))

omit hP in
lemma Connector.text_mem_literals (c : Connector) : " " ++ c.keyword ++ " " ∈ literals := by
  cases c <;> decide

omit hP in
lemma Connector.apart_text (c : Connector) :
    (Piece.text (" " ++ c.keyword ++ " ")).startsApart = true ∧
      (Piece.text (" " ++ c.keyword ++ " ")).endsApart = true := by
  cases c <;> decide

/-- A chain of clauses starts with a connector, so it can stand after anything. -/
lemma composed_clauseChain {cs : List Clause} (hraw : ∀ c ∈ cs, ∀ s ∈ c.predicate.rawTexts, P s)
    (h : (clauseChain cs).toExcept = .ok t) :
    Composed P t ∧ ∀ p ∈ t.head?, p.startsApart = true := by
  obtain ⟨ts, hts, rfl⟩ := clauseChain_eq_ok.mp h
  clear h
  induction hts with
  | nil => exact ⟨.nil, by simp⟩
  | @cons c u cs us hcu _ ih =>
    obtain ⟨hrest, hhead⟩ := ih fun d hd => hraw d (List.mem_cons_of_mem _ hd)
    have hu : Composed P u := c.predicate.composed_template hP (hraw c List.mem_cons_self) hcu
    have hclause : Composed P (.text (" " ++ c.connector.keyword ++ " ") :: u) :=
      .text_cons (hP _ c.connector.text_mem_literals) hu c.connector.apart_text.2
    simp only [List.zipWith_cons_cons, List.flatten_cons]
    refine ⟨.append hclause hrest fun p _ p' hp' => Or.inr (hhead p' hp'), ?_⟩
    simpa using c.connector.apart_text.1

lemma composed_whereClause {cs : List Clause} (hraw : ∀ c ∈ cs, ∀ s ∈ c.predicate.rawTexts, P s)
    (h : (whereClause cs).toExcept = .ok t) : Composed P t := by
  rcases whereClause_eq_ok.mp h with ⟨-, rfl⟩ | ⟨-, u, hu, rfl⟩
  · exact .nil
  · obtain ⟨hchain, hhead⟩ := composed_clauseChain hP hraw hu
    have hseed : Composed P [.text "WHERE 1 = 1"] := .text (hP _ (by decide))
    exact .append hseed hchain fun p _ p' hp' => Or.inr (hhead p' hp')

end

end BoundSql
