import BoundSql.Proofs.Placeholders
import BoundSql.Proofs.Vocabulary

/-!
# Spacing

Outside its quoted names the text of a selection without raw texts has single blanks only, and none
at its ends. What stands between two words of the compiler never starts or ends in a blank, so that
each separator brings the only blanks there are.
-/

namespace BoundSql

open Template

/-! ### Texts -/

namespace Text

/-- Whether no two blanks stand side by side. -/
def Spaced (cs : List Char) : Prop := cs.IsChain fun a b => a ≠ ' ' ∨ b ≠ ' '

instance (cs : List Char) : Decidable (Spaced cs) := inferInstanceAs (Decidable (cs.IsChain _))

/-- Whether a text starts in something else than a blank. -/
def startsTight (cs : List Char) : Bool := cs.head?.any (· != ' ')

/-- Whether a text ends in something else than a blank. -/
def endsTight (cs : List Char) : Bool := cs.getLast?.any (· != ' ')

/-- A text without blanks at its ends, and without two of them side by side. -/
structure Tight (cs : List Char) : Prop where
  starts : startsTight cs = true
  ends : endsTight cs = true
  spaced : Spaced cs

variable {cs ds : List Char}

lemma startsTight_append (h : startsTight cs = true) (ds : List Char) :
    startsTight (cs ++ ds) = true := by
  cases cs with
  | nil => cases h
  | cons c cs => exact h

lemma endsTight_append (h : endsTight ds = true) (cs : List Char) :
    endsTight (cs ++ ds) = true := by
  have hne : ds ≠ [] := by
    rintro rfl
    cases h
  rw [endsTight, List.getLast?_append_of_ne_nil _ hne]
  exact h

/-- Where two texts meet, one of them has no blank. -/
lemma Spaced.append (hcs : Spaced cs) (hds : Spaced ds)
    (h : endsTight cs = true ∨ startsTight ds = true) : Spaced (cs ++ ds) := by
  refine List.isChain_append.mpr ⟨hcs, hds, fun a ha b hb => h.imp (fun h => ?_) fun h => ?_⟩
  · simpa [endsTight, Option.mem_def.mp ha] using h
  · simpa [startsTight, Option.mem_def.mp hb] using h

namespace Tight

/-- Whatever single blanks stand between two tight texts, these stay tight. -/
lemma append_append {ms : List Char} (hcs : Tight cs) (hms : Spaced ms) (hds : Tight ds) :
    Tight (cs ++ (ms ++ ds)) where
  starts := startsTight_append hcs.starts _
  ends := endsTight_append (endsTight_append hds.ends _) _
  spaced := hcs.spaced.append (hms.append hds.spaced (.inr hds.starts)) (.inl hcs.ends)

lemma spaced_append (hcs : Spaced cs) (hstarts : startsTight cs = true) (hds : Tight ds) :
    Tight (cs ++ ds) where
  starts := startsTight_append hstarts _
  ends := endsTight_append hds.ends _
  spaced := hcs.append hds.spaced (.inr hds.starts)

lemma append_spaced (hcs : Tight cs) (hds : Spaced ds) (hends : endsTight ds = true) :
    Tight (cs ++ ds) where
  starts := startsTight_append hcs.starts _
  ends := endsTight_append hends _
  spaced := hcs.spaced.append hds (.inl hcs.ends)

lemma of_forall (hne : cs ≠ []) (h : ∀ c ∈ cs, c ≠ ' ') : Tight cs where
  starts := by simp [startsTight, List.head?_eq_some_head hne, h _ (List.head_mem hne)]
  ends := by simp [endsTight, List.getLast?_eq_some_getLast hne, h _ (List.getLast_mem hne)]
  spaced := (List.pairwise_of_forall_mem_list fun a ha _ _ => .inl (h a ha)).isChain

end Tight

/-! ### Outside the quotes -/

lemma outsideFrom_append (q : Char) (odd : Bool) (cs ds : List Char) :
    outsideFrom q odd (cs ++ ds)
      = outsideFrom q odd cs ++ outsideFrom q (odd ^^ decide (cs.count q % 2 = 1)) ds := by
  induction cs generalizing odd with
  | nil => simp [outsideFrom]
  | cons c cs ih =>
    by_cases hc : c = q
    · have hcount : decide ((cs.count q + 1) % 2 = 1) = !decide (cs.count q % 2 = 1) := by
        rw [← decide_not]
        exact decide_eq_decide.mpr (by omega)
      cases odd <;> simp [outsideFrom, hc, ih, hcount]
    · have heq : (c == q) = false := by simpa using hc
      cases odd <;> simp [outsideFrom, bne, heq, hc, ih]

/-- Behind closed quotes a text is outside of them. -/
lemma outside_append {q : Char} (h : cs.count q % 2 = 0) (ds : List Char) :
    outside q (cs ++ ds) = outside q cs ++ outside q ds := by
  simp [outside, outsideFrom_append, h]

lemma outside_eq_self {q : Char} (h : q ∉ cs) : outside q cs = cs := by
  have happend := outsideFrom_append_of_notMem h []
  simpa [outside, outsideFrom] using happend

end Text

/-! ### Templates -/

namespace Dialect

variable (d : Dialect)

lemma tight_outside_quote (s : String) :
    Text.Tight (Text.outside d.quoteMark (d.quote s).toList) := by
  obtain ⟨k, hk⟩ := Text.outsideFrom_quote d s []
  have hreplicate : Text.outside d.quoteMark (d.quote s).toList = List.replicate k d.quoteMark := by
    simpa [Text.outside, Text.outsideFrom] using hk
  refine .of_forall (by simp [Text.outside, Text.outsideFrom, quote]) fun c hc => ?_
  rw [hreplicate] at hc
  rw [List.eq_of_mem_replicate hc]
  cases d <;> decide

lemma tight_placeholder (n : Nat) : Text.Tight (d.placeholder n).toList := by
  cases d with
  | postgres =>
    refine .of_forall (by simp [placeholder]) fun c hc => ?_
    rw [placeholder, String.toList_append, Nat.toList_repr, List.mem_append] at hc
    rcases hc with hc | hc
    · rw [List.mem_singleton.mp hc]
      decide
    · rintro rfl
      exact absurd (Nat.isDigit_of_mem_toDigits (by decide) (by decide) hc) (by decide)
  | generic | mysql | sqlite =>
    simp only [placeholder]
    exact ⟨by decide, by decide, by decide⟩

end Dialect

/-- A template behind which no quote is open. -/
lemma count_quoteMark_chars {d : Dialect} {t : Template}
    (h : ∀ s, .text s ∈ t → d.quoteMark ∉ s.toList) (bound : Nat) :
    (chars d bound t).count d.quoteMark % 2 = 0 := by
  induction t generalizing bound with
  | nil => rfl
  | cons p t ih =>
    have ht := ih fun s hs => h s (List.mem_cons_of_mem _ hs)
    cases p with
    | text s =>
      rw [chars, List.count_append, List.count_eq_zero.mpr (h s List.mem_cons_self), Nat.zero_add]
      exact ht bound
    | name s =>
      rw [chars, List.count_append, count_quote]
      have := ht bound
      omega
    | slot v =>
      rw [chars, List.count_append,
        List.count_eq_zero.mpr (quoteMark_notMem_placeholder d _), Nat.zero_add]
      exact ht (bound + 1)

/-- A text without marks of which the blanks are single. -/
def isLink (l : String) : Bool := markFree l && decide (Text.Spaced l.toList)

/-- Whether such a text can stand in front: it does not start in a blank. -/
def isOpening (l : String) : Bool := isLink l && Text.startsTight l.toList

/-- Whether such a text can stand at the end: it does not end in a blank. -/
def isClosing (l : String) : Bool := isLink l && Text.endsTight l.toList

lemma isLink_iff {l : String} : isLink l = true ↔ markFree l = true ∧ Text.Spaced l.toList := by
  simp [isLink]

lemma isOpening_iff {l : String} :
    isOpening l = true ↔ isLink l = true ∧ Text.startsTight l.toList = true := by
  simp [isOpening]

lemma isClosing_iff {l : String} :
    isClosing l = true ↔ isLink l = true ∧ Text.endsTight l.toList = true := by
  simp [isClosing]

variable {d : Dialect} {P : String → Prop} {s t : Template} {l : String}

lemma quoteMark_notMem_of_isLink (h : isLink l = true) : d.quoteMark ∉ l.toList :=
  (unmarked_of_markFree (isLink_iff.mp h).1).notMem.1

lemma outside_chars_append (h : ∀ s, .text s ∈ t → d.quoteMark ∉ s.toList) (u : Template)
    (bound : Nat) : Text.outside d.quoteMark (chars d bound (t ++ u))
      = Text.outside d.quoteMark (chars d bound t)
        ++ Text.outside d.quoteMark (chars d (bound + t.params.length) u) := by
  rw [chars_append, Text.outside_append (count_quoteMark_chars h bound)]

lemma outside_chars_text_cons (h : isLink l = true) (t : Template) (bound : Nat) :
    Text.outside d.quoteMark (chars d bound (.text l :: t))
      = l.toList ++ Text.outside d.quoteMark (chars d bound t) :=
  Text.outsideFrom_append_of_notMem (quoteMark_notMem_of_isLink h) _

/-- A template whose texts have the property `P`, and which outside its names is tight. -/
structure Template.Tidy (d : Dialect) (P : String → Prop) (t : Template) : Prop where
  texts : ∀ x, .text x ∈ t → P x ∧ d.quoteMark ∉ x.toList
  tight : ∀ bound, Text.Tight (Text.outside d.quoteMark (chars d bound t))

namespace Template.Tidy

lemma name (s : String) : Tidy d P [.name s] where
  texts := by simp
  tight _ := by
    rw [chars, chars, List.append_nil]
    exact d.tight_outside_quote s

lemma slot (v : SqlValue) : Tidy d P [.slot v] where
  texts := by simp
  tight _ := by
    rw [chars, chars, List.append_nil, Text.outside_eq_self (quoteMark_notMem_placeholder d _)]
    exact d.tight_placeholder _

lemma text (hl : P l) (hopen : isOpening l = true) (hclose : isClosing l = true) :
    Tidy d P [.text l] where
  texts := by simpa using ⟨hl, quoteMark_notMem_of_isLink (isOpening_iff.mp hopen).1⟩
  tight _ := by
    obtain ⟨hlink, hstarts⟩ := isOpening_iff.mp hopen
    rw [chars, chars, List.append_nil, Text.outside_eq_self (quoteMark_notMem_of_isLink hlink)]
    exact ⟨hstarts, (isClosing_iff.mp hclose).2, (isLink_iff.mp hlink).2⟩

/-- Nothing in between. -/
lemma append (hs : Tidy d P s) (ht : Tidy d P t) : Tidy d P (s ++ t) where
  texts x hx := (List.mem_append.mp hx).elim (hs.texts x) (ht.texts x)
  tight bound := by
    rw [outside_chars_append fun x hx => (hs.texts x hx).2]
    exact .spaced_append (hs.tight bound).spaced (hs.tight bound).starts (ht.tight _)

/-- A text in front, which does not start in a blank. -/
lemma text_cons (hl : P l) (hopen : isOpening l = true) (ht : Tidy d P t) :
    Tidy d P (.text l :: t) where
  texts x hx := by
    rcases List.mem_cons.mp hx with hx | hx
    · exact Piece.text.inj hx ▸ ⟨hl, quoteMark_notMem_of_isLink (isOpening_iff.mp hopen).1⟩
    · exact ht.texts x hx
  tight bound := by
    obtain ⟨hlink, hstarts⟩ := isOpening_iff.mp hopen
    rw [outside_chars_text_cons hlink]
    exact .spaced_append (isLink_iff.mp hlink).2 hstarts (ht.tight bound)

/-- A text behind, which does not end in a blank. -/
lemma append_text (hs : Tidy d P s) (hl : P l) (hclose : isClosing l = true) :
    Tidy d P (s ++ [.text l]) where
  texts x hx := by
    rcases List.mem_append.mp hx with hx | hx
    · exact hs.texts x hx
    · exact Piece.text.inj (List.mem_singleton.mp hx) ▸
        ⟨hl, quoteMark_notMem_of_isLink (isClosing_iff.mp hclose).1⟩
  tight bound := by
    obtain ⟨hlink, hends⟩ := isClosing_iff.mp hclose
    rw [outside_chars_append fun x hx => (hs.texts x hx).2, outside_chars_text_cons hlink]
    simpa [chars, Text.outside, Text.outsideFrom]
      using (hs.tight bound).append_spaced (isLink_iff.mp hlink).2 hends

/-- A text in between, whatever blanks it has at its ends. -/
lemma append_text_append (hs : Tidy d P s) (hl : P l) (hlink : isLink l = true)
    (ht : Tidy d P t) : Tidy d P (s ++ .text l :: t) where
  texts x hx := by
    rcases List.mem_append.mp hx with hx | hx
    · exact hs.texts x hx
    rcases List.mem_cons.mp hx with hx | hx
    · exact Piece.text.inj hx ▸ ⟨hl, quoteMark_notMem_of_isLink hlink⟩
    · exact ht.texts x hx
  tight bound := by
    rw [outside_chars_append fun x hx => (hs.texts x hx).2, outside_chars_text_cons hlink]
    exact (hs.tight bound).append_append (isLink_iff.mp hlink).2 (ht.tight _)

lemma join {ts : List Template} (hl : P l) (hlink : isLink l = true) (hne : ts ≠ [])
    (hts : ∀ t ∈ ts, Tidy d P t) : Tidy d P (Template.join l ts) := by
  induction ts with
  | nil => exact absurd rfl hne
  | cons t ts ih =>
    have ht : Tidy d P t := hts t List.mem_cons_self
    cases ts with
    | nil => rwa [join_singleton]
    | cons u us =>
      rw [join_cons_cons]
      exact ht.append_text_append hl hlink
        (ih (List.cons_ne_nil u us) fun v hv => hts v (List.mem_cons_of_mem _ hv))

/-- A list that is not empty is tidy if each of its elements is. -/
lemma join_forall₂ {α : Type} {f : α → Except Error Template} {as : List α} {ts : List Template}
    (hl : P l) (hlink : isLink l = true) (hne : as ≠ [])
    (hts : List.Forall₂ (fun a t => f a = .ok t) as ts)
    (hf : ∀ a ∈ as, ∀ t, f a = .ok t → Tidy d P t) : Tidy d P (Template.join l ts) := by
  refine join hl hlink ?_ fun t ht => ?_
  · rintro rfl
    exact hne (List.forall₂_nil_right_iff.mp hts)
  · obtain ⟨a, ha, hat⟩ := exists_of_mem_forall₂ hts ht
    exact hf a ha t hat

end Template.Tidy

/-! ### References and conditions -/

/-- The texts in references and conditions. -/
def fillers : List String :=
  ["*", ".", " AS ", ", ", " AND ", ")", "0 = 1", "1 = 1", " IS NULL", " IS NOT NULL", " IN (",
    " NOT IN (", " BETWEEN ", " NOT BETWEEN ", " ON ", " ASC", " DESC", " OR "]
  ++ Operator.all.map fun op => " " ++ op.text ++ " "

section

variable (hP : ∀ l ∈ fillers, P l)

include hP

lemma tidy_path (cs : List Char) : Tidy d P (path cs) := by
  refine .join (hP _ (by decide)) (by decide) (by simp [List.splitOn_ne_nil]) fun t ht => ?_
  obtain ⟨s, -, rfl⟩ := List.mem_map.mp ht
  rw [segment]
  split_ifs
  · exact .text (hP _ (by decide)) (by decide) (by decide)
  · exact .name _

lemma Identifier.tidy_template {i : Identifier} (hraw : i.rawTexts = [])
    (h : i.template = .ok t) : Tidy d P t := by
  cases i with
  | expr e => simp [rawTexts] at hraw
  | name s =>
    rw [template, nameReference] at h
    split at h
    · split at h
      · obtain rfl := Except.ok.inj h
        exact (tidy_path hP _).append_text_append (hP _ (by decide)) (by decide) (tidy_path hP _)
      · simp at h
    · obtain rfl := Except.ok.inj h
      exact tidy_path hP _

omit hP in
lemma Value.tidy_template {v : Value} (hraw : v.rawTexts = []) : Tidy d P v.template := by
  cases v with
  | expr e => simp [rawTexts] at hraw
  | param v => exact .slot v

lemma tidy_rangeComparison {column : Identifier} {keyword : String} {low high : Value}
    (hk : keyword ∈ [" BETWEEN ", " NOT BETWEEN "]) (hcolumn : column.rawTexts = [])
    (hlow : low.rawTexts = []) (hhigh : high.rawTexts = [])
    (h : rangeComparison column keyword low high = .ok t) : Tidy d P t := by
  simp only [rangeComparison, bind_eq_ok, pure_eq_ok] at h
  obtain ⟨c, hc, rfl⟩ := h
  have hc : Tidy d P c := column.tidy_template hP hcolumn hc
  have hstart : Tidy d P (c ++ .text keyword :: low.template) := by
    simp only [List.mem_cons, List.not_mem_nil, or_false] at hk
    rcases hk with rfl | rfl <;>
    exact hc.append_text_append (hP _ (by decide)) (by decide) (low.tidy_template hlow)
  exact hstart.append_text_append (hP _ (by decide)) (by decide) (high.tidy_template hhigh)

lemma tidy_listMembership {column : Identifier} {keyword : String} {values : List Value}
    (hk : keyword ∈ [" IN (", " NOT IN ("]) (hcolumn : column.rawTexts = [])
    (hne : values ≠ []) (hvalues : ∀ v ∈ values, v.rawTexts = [])
    (h : listMembership column keyword values = .ok t) : Tidy d P t := by
  simp only [listMembership, bind_eq_ok, pure_eq_ok] at h
  obtain ⟨c, hc, rfl⟩ := h
  have hc : Tidy d P c := column.tidy_template hP hcolumn hc
  have hlist : Tidy d P (valueList values) := by
    refine .join (hP _ (by decide)) (by decide) (by simpa using hne) fun t ht => ?_
    obtain ⟨v, hv, rfl⟩ := List.mem_map.mp ht
    exact v.tidy_template (hvalues v hv)
  have hstart : Tidy d P (c ++ .text keyword :: valueList values) := by
    simp only [List.mem_cons, List.not_mem_nil, or_false] at hk
    rcases hk with rfl | rfl <;>
    exact hc.append_text_append (hP _ (by decide)) (by decide) hlist
  exact hstart.append_text (hP _ (by decide)) (by decide)

omit hP in
lemma Operator.text_mem_fillers (op : Operator) : " " ++ op.text ++ " " ∈ fillers := by
  cases op <;> decide

omit hP in
lemma Operator.isLink_text (op : Operator) : isLink (" " ++ op.text ++ " ") = true := by
  cases op <;> decide

lemma tidy_columnComparison {first second : Identifier} {op : Operator}
    (hfirst : first.rawTexts = []) (hsecond : second.rawTexts = [])
    (h : columnComparison first op second = .ok t) : Tidy d P t := by
  simp only [columnComparison, bind_eq_ok, pure_eq_ok] at h
  obtain ⟨a, ha, b, hb, rfl⟩ := h
  exact (first.tidy_template hP hfirst ha).append_text_append (hP _ op.text_mem_fillers)
    op.isLink_text (second.tidy_template hP hsecond hb)

lemma Predicate.tidy_template {p : Predicate} (hraw : p.rawTexts = [])
    (h : p.template = .ok t) : Tidy d P t := by
  simp only [rawTexts, List.append_eq_nil_iff, List.flatMap_eq_nil_iff] at hraw
  obtain ⟨⟨hcolumns, hvalues⟩, hown⟩ := hraw
  cases p with
  | compare column op value =>
    simp only [template, bind_eq_ok, pure_eq_ok] at h
    obtain ⟨c, hc, rfl⟩ := h
    exact (column.tidy_template hP (hcolumns _ List.mem_cons_self) hc).append_text_append
      (hP _ op.text_mem_fillers) op.isLink_text
      (value.tidy_template (hvalues _ List.mem_cons_self))
  | isIn column values | notIn column values =>
    cases values with
    | nil =>
      obtain rfl := Except.ok.inj h
      exact .text (hP _ (by decide)) (by decide) (by decide)
    | cons v vs =>
      exact tidy_listMembership hP (by simp) (hcolumns _ List.mem_cons_self)
        (List.cons_ne_nil v vs) hvalues h
  | isNull column | notNull column =>
    simp only [template, bind_eq_ok, pure_eq_ok] at h
    obtain ⟨c, hc, rfl⟩ := h
    exact (column.tidy_template hP (hcolumns _ List.mem_cons_self) hc).append_text
      (hP _ (by decide)) (by decide)
  | between column low high | notBetween column low high =>
    exact tidy_rangeComparison hP (by simp) (hcolumns _ List.mem_cons_self)
      (hvalues low List.mem_cons_self) (hvalues high (List.mem_cons_of_mem _ List.mem_cons_self)) h
  | compareColumns first op second =>
    exact tidy_columnComparison hP (hcolumns first List.mem_cons_self)
      (hcolumns second (List.mem_cons_of_mem _ List.mem_cons_self)) h
  | raw sql => simp at hown

lemma tidy_sortKeyTemplate {k : SortKey} (hraw : k.column.rawTexts = [])
    (h : Query.sortKeyTemplate k = .ok t) : Tidy d P t := by
  obtain ⟨column, direction⟩ := k
  simp only [Query.sortKeyTemplate, bind_eq_ok, pure_eq_ok] at h
  obtain ⟨c, hc, rfl⟩ := h
  have hc : Tidy d P c := column.tidy_template hP hraw hc
  cases direction <;> exact hc.append_text (hP _ (by decide)) (by decide)

/-- Clauses can stand behind anything tidy. -/
lemma tidy_append_clauseChain {cs : List Clause} (hs : Tidy d P s)
    (hraw : ∀ c ∈ cs, c.predicate.rawTexts = []) (h : (clauseChain cs).toExcept = .ok t) :
    Tidy d P (s ++ t) := by
  obtain ⟨ts, hts, rfl⟩ := clauseChain_eq_ok.mp h
  clear h
  induction hts generalizing s with
  | nil => simpa using hs
  | @cons c u cs us hcu _ ih =>
    have hu : Tidy d P u := c.predicate.tidy_template hP (hraw c List.mem_cons_self) hcu
    have hclause : Tidy d P (s ++ .text (" " ++ c.connector.keyword ++ " ") :: u) := by
      cases c.connector <;> exact hs.append_text_append (hP _ (by decide)) (by decide) hu
    simpa using ih hclause fun c hc => hraw c (List.mem_cons_of_mem _ hc)

end

/-! ### Selections -/

lemma isPlainName_repr (n : Nat) : isPlainName n.repr = true := by
  refine List.all_eq_true.mpr fun c hc => ?_
  rw [Nat.toList_repr] at hc
  have hdigit : c.isDigit = true := Nat.isDigit_of_mem_toDigits (by decide) (by decide) hc
  simp [Char.isAlphanum, hdigit]

/-- A plain name has no blanks. -/
lemma ne_blank_of_isPlainName {w : String} (h : isPlainName w = true) :
    ∀ c ∈ w.toList, c ≠ ' ' := by
  intro c hc
  have hbreak := (notBreak_of_isPlainName h .generic c hc).1
  rintro rfl
  exact absurd hbreak (by decide)

/-- A text with something behind it that has no blanks. -/
lemma Template.Tidy.text_append {start w : String} (hopen : isOpening start = true)
    (hfree : markFree w = true) (hne : w ≠ "") (hw : ∀ c ∈ w.toList, c ≠ ' ')
    (hl : P (start ++ w)) : Tidy d P [.text (start ++ w)] := by
  obtain ⟨hstart, hstarts⟩ := isOpening_iff.mp hopen
  have htight : Text.Tight (start ++ w).toList := by
    rw [String.toList_append]
    exact .spaced_append (isLink_iff.mp hstart).2 hstarts (.of_forall (by simpa using hne) hw)
  have hlink : isLink (start ++ w) = true := by
    refine isLink_iff.mpr ⟨?_, htight.spaced⟩
    have hfree' := (isLink_iff.mp hstart).1
    simp only [markFree, String.toList_append, List.all_append, Bool.and_eq_true] at hfree hfree' ⊢
    exact ⟨hfree', hfree⟩
  exact .text hl (isOpening_iff.mpr ⟨hlink, htight.starts⟩)
    (isClosing_iff.mpr ⟨hlink, htight.ends⟩)

namespace Query

variable {q : Query}

lemma tidy_call {f : String} (h : isPlainName f = true) :
    Tidy d (fun _ => True) [.text (call f)] := by
  have hplain : isPlainName (Text.upper f) = true := isPlainName_upper h
  have hcall : call f = "SELECT " ++ (Text.upper f ++ "(") := String.append_assoc ..
  rw [hcall]
  refine .text_append (by decide) ?_ (by simp) ?_ trivial
  · simp only [markFree, String.toList_append, List.all_append, Bool.and_eq_true]
    exact ⟨markFree_of_isPlainName hplain, by decide⟩
  · simp only [String.toList_append, List.mem_append]
    rintro c (hc | hc)
    · exact ne_blank_of_isPlainName hplain c hc
    · rw [List.mem_singleton.mp hc]
      decide

lemma tidy_number {start : String} (hopen : isOpening start = true) (n : Nat) :
    Tidy d (fun _ => True) [.text (start ++ n.repr)] :=
  have hplain : isPlainName n.repr = true := isPlainName_repr n
  .text_append hopen (markFree_of_isPlainName hplain) (by simp)
    (ne_blank_of_isPlainName hplain) trivial

lemma tidy_join {j : Join} (hraw : ∀ i ∈ j.identifiers, i.rawTexts = [])
    (h : j.template d = .ok t) : Tidy d (fun _ => True) t := by
  obtain ⟨u, hu, hcases⟩ := Join.template_eq_ok h
  have htable : Tidy d (fun _ => True) u :=
    j.table.tidy_template (fun _ _ => trivial) (hraw _ List.mem_cons_self) hu
  obtain ⟨-, -, rfl⟩ | ⟨on, v, hon, hv, rfl⟩ := hcases
  · exact .text_cons trivial (by decide) htable
  · have hcondition : Tidy d (fun _ => True) v := by
      refine tidy_columnComparison (fun _ _ => trivial) (hraw _ ?_) (hraw _ ?_) hv
      · simp [Join.identifiers, hon]
      · simp [Join.identifiers, hon]
    have hstart : Tidy d (fun _ => True) (.text (j.kind.keyword ++ " JOIN ") :: u) := by
      cases j.kind <;> exact .text_cons trivial (by decide) htable
    exact hstart.append_text_append trivial (by decide) hcondition

lemma selected_ne_nil (q : Query) : q.selected ≠ [] := by
  rw [selected]
  split_ifs with hempty
  · simp
  · simpa using hempty

lemma mem_identifiers_of_mem_joins {j : Join} {i : Identifier} (hj : j ∈ q.joins)
    (hi : i ∈ j.identifiers) : i ∈ q.identifiers := by
  have hjoin : i ∈ q.joins.flatMap Join.identifiers := List.mem_flatMap.mpr ⟨j, hj, hi⟩
  simp only [identifiers, List.mem_append, hjoin, or_true, true_or]

section

variable (hP : ∀ l ∈ fillers, P l) (hraw : ∀ i ∈ q.identifiers, i.rawTexts = [])
  {ts : List Template}

include hP hraw

lemma tidy_selected (hts : List.Forall₂ (fun i t => i.template = .ok t) q.selected ts) :
    Tidy d P (join ", " ts) := by
  refine .join_forall₂ (hP _ (by decide)) (by decide) q.selected_ne_nil hts fun i hi u => ?_
  refine i.tidy_template hP ?_
  rcases mem_selected hi with rfl | hi
  · rfl
  · exact hraw i (by simp [identifiers, hi])

lemma tidy_groups (hne : q.groups ≠ [])
    (hts : List.Forall₂ (fun i t => i.template = .ok t) q.groups ts) : Tidy d P (join ", " ts) :=
  .join_forall₂ (hP _ (by decide)) (by decide) hne hts fun i hi u =>
    i.tidy_template hP (hraw i (by simp [identifiers, hi]))

lemma tidy_sortKeys (hne : q.sortKeys ≠ [])
    (hts : List.Forall₂ (fun k t => sortKeyTemplate k = .ok t) q.sortKeys ts) :
    Tidy d P (join ", " ts) :=
  .join_forall₂ (hP _ (by decide)) (by decide) hne hts fun k hk u =>
    tidy_sortKeyTemplate hP (hraw _ (List.mem_append_right _ (List.mem_map_of_mem hk)))

end

/-- Each component that is there is tidy. -/
lemma Compiled.tidy {x : Component} (hraw : q.rawTexts = [])
    (hname : ∀ a ∈ q.aggregate?, isPlainName a.function = true) (h : q.Compiled d x t)
    (hne : t ≠ []) : Tidy d (fun _ => True) t := by
  simp only [rawTexts, List.append_eq_nil_iff, List.flatMap_eq_nil_iff] at hraw
  obtain ⟨hidentifiers, hclauses⟩ := hraw
  have hidentifier : ∀ i ∈ q.identifiers, ∀ u, i.template = .ok u → Tidy d (fun _ => True) u :=
    fun i hi u => i.tidy_template (fun _ _ => trivial) (hidentifiers i hi)
  cases h with
  | noAggregate | noColumns | noGroups | noSortKeys | noLimit | noOffset => exact absurd rfl hne
  | @aggregate a c ha hc =>
    have hcolumn : Tidy d (fun _ => True) c :=
      hidentifier a.column (by simp [identifiers, ha]) c hc
    exact ((tidy_call (hname a ha)).append hcolumn).append_text trivial (by decide)
  | columns ha hts =>
    have hcolumns : Tidy d (fun _ => True) _ := tidy_selected (fun _ _ => trivial) hidentifiers hts
    cases q.distinct <;> exact .text_cons trivial (by decide) hcolumns
  | @table u hu =>
    exact .text_cons trivial (by decide) (hidentifier q.table (by simp [identifiers]) u hu)
  | joins hts =>
    have hjoins : q.joins ≠ [] := by
      intro hnil
      rw [hnil, List.forall₂_nil_left_iff] at hts
      exact hne (by rw [hts]; rfl)
    exact .join_forall₂ trivial (by decide) hjoins hts fun j hj u =>
      tidy_join fun i hi => hidentifiers i (mem_identifiers_of_mem_joins hj hi)
  | clauses hwhere =>
    obtain ⟨-, rfl⟩ | ⟨-, u, hu, rfl⟩ := whereClause_eq_ok.mp hwhere
    · exact absurd rfl hne
    · have hseed : Tidy d (fun _ => True) [.text "WHERE 1 = 1"] :=
        .text trivial (by decide) (by decide)
      exact tidy_append_clauseChain (fun _ _ => trivial) hseed hclauses hu
  | groups hgroups hts =>
    exact .text_cons trivial (by decide)
      (tidy_groups (fun _ _ => trivial) hidentifiers hgroups hts)
  | sortKeys hkeys hts =>
    exact .text_cons trivial (by decide)
      (tidy_sortKeys (fun _ _ => trivial) hidentifiers hkeys hts)
  | limit hlimit => exact tidy_number (by decide) _
  | offset hoffset =>
    rw [offsetTemplate]
    split_ifs
    · exact tidy_number (by decide) _
    · cases d <;> exact tidy_number (by decide) _

/-- The text of a selection is tight outside its names. -/
lemma tidy_selectTemplate (hraw : q.rawTexts = [])
    (hname : ∀ a ∈ q.aggregate?, isPlainName a.function = true)
    (h : q.selectTemplate d = .ok t) : Tidy d (fun _ => True) t := by
  obtain ⟨part, hpart, rfl⟩ := exists_parts h
  refine .join trivial (by decide) ?_ fun u hu => ?_
  · have htable : part .table ≠ [] := by
      have hcompiled := hpart .table
      generalize part .table = u at hcompiled
      cases hcompiled
      simp
    have hmem : part .table ∈ (Component.all.map part).filter fun u => !u.isEmpty :=
      List.mem_filter.mpr ⟨List.mem_map_of_mem (by decide), by simpa using htable⟩
    exact List.ne_nil_of_mem hmem
  · obtain ⟨hu, hne⟩ := List.mem_filter.mp hu
    obtain ⟨x, -, rfl⟩ := List.mem_map.mp hu
    exact (hpart x).tidy hraw hname (by simpa using hne)

end Query

end BoundSql
