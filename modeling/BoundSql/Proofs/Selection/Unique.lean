import BoundSql.Proofs.Selection.Syntax

/-!
# Unique reading

The tokens of a selection determine the selection.
-/

namespace BoundSql

/-! ### References and lists -/

/-- A reference ends where no part of a reference follows. -/
lemma Reference.tokens_append_inj {r s : Reference} {ts us : List Token}
    (ht : ∀ t ∈ ts.head?, t.isReference = false) (hu : ∀ u ∈ us.head?, u.isReference = false)
    (h : r.tokens ++ ts = s.tokens ++ us) : r = s ∧ ts = us := by
  obtain ⟨htokens, hrest⟩ := append_inj_of_head r.isReference s.isReference ht hu h
  obtain ⟨rs, hr, hr'⟩ := r
  obtain ⟨ss, hs, hs'⟩ := s
  obtain rfl : rs = ss := htokens
  exact ⟨rfl, hrest⟩

lemma Reference.tokens_injective : Function.Injective Reference.tokens := by
  intro r s h
  have happend : r.tokens ++ [] = s.tokens ++ [] := by rw [h]
  exact (tokens_append_inj (by simp) (by simp) happend).1

lemma commas_inj {tss uss : List (List Token)} (ht : ∀ ts ∈ tss, Token.mark ',' ∉ ts)
    (hu : ∀ us ∈ uss, Token.mark ',' ∉ us) (htne : tss ≠ []) (hune : uss ≠ [])
    (h : commas tss = commas uss) : tss = uss := by
  rw [← List.splitOn_intercalate _ ht htne, ← List.splitOn_intercalate _ hu hune]
  rw [commas, commas] at h
  rw [h]

lemma comma_notMem_tokens (r : Reference) : Token.mark ',' ∉ r.tokens :=
  fun h => absurd (r.isReference _ h) (by decide)

lemma commas_references_inj {rs ss : List Reference} (hr : rs ≠ []) (hs : ss ≠ [])
    (h : commas (rs.map Reference.tokens) = commas (ss.map Reference.tokens)) : rs = ss := by
  have hcomma : ∀ qs : List Reference, ∀ ts ∈ qs.map Reference.tokens, Token.mark ',' ∉ ts := by
    intro qs ts hts
    obtain ⟨q, -, rfl⟩ := List.mem_map.mp hts
    exact comma_notMem_tokens q
  have hmap := commas_inj (hcomma rs) (hcomma ss) (by simpa using hr) (by simpa using hs) h
  exact List.map_injective_iff.mpr Reference.tokens_injective hmap

lemma keyTokens_injective : Function.Injective Selection.keyTokens := by
  rintro ⟨r, a⟩ ⟨s, b⟩ h
  have hhead : ∀ a : Direction, ∀ t ∈ [Token.word a.keyword].head?, t.isReference = false := by
    intro a
    cases a <;> decide
  obtain ⟨rfl, hdirection⟩ := Reference.tokens_append_inj (hhead a) (hhead b) h
  cases a <;> cases b <;> first | rfl | exact absurd hdirection (by decide)

lemma commas_keys_inj {ks ls : List (Reference × Direction)} (hk : ks ≠ []) (hl : ls ≠ [])
    (h : commas (ks.map Selection.keyTokens) = commas (ls.map Selection.keyTokens)) : ks = ls := by
  have hcomma : ∀ ms : List (Reference × Direction),
      ∀ ts ∈ ms.map Selection.keyTokens, Token.mark ',' ∉ ts := by
    intro ms ts hts hmem
    obtain ⟨m, -, rfl⟩ := List.mem_map.mp hts
    rcases List.mem_append.mp hmem with hmem | hmem
    · exact comma_notMem_tokens _ hmem
    · simp at hmem
  have hmap := commas_inj (hcomma ks) (hcomma ls) (by simpa using hk) (by simpa using hl) h
  exact List.map_injective_iff.mpr keyTokens_injective hmap

/-! ### Conditions -/

lemma exists_alternatives_eq_cons {α : Type} (x : α) (r : List (Connector × α)) :
    ∃ g gs, alternatives x r = (x :: g) :: gs := by
  induction r generalizing x with
  | nil => exact ⟨[], [], rfl⟩
  | cons p r ih =>
    obtain ⟨c, y⟩ := p
    obtain ⟨g, gs, h⟩ := ih y
    cases c with
    | or => exact ⟨[], alternatives y r, rfl⟩
    | and => exact ⟨y :: g, gs, by simp [alternatives, h]⟩

/-- The alternatives show where the connectives stood. -/
lemma alternatives_inj {α : Type} {x y : α} {r s : List (Connector × α)}
    (h : alternatives x r = alternatives y s) : x = y ∧ r = s := by
  induction r generalizing x y s with
  | nil =>
    cases s with
    | nil => simpa [alternatives] using h
    | cons q s =>
      obtain ⟨c, w⟩ := q
      obtain ⟨g, gs, hw⟩ := exists_alternatives_eq_cons w s
      cases c <;> simp [alternatives, hw] at h
  | cons p r ih =>
    obtain ⟨b, z⟩ := p
    obtain ⟨f, fs, hz⟩ := exists_alternatives_eq_cons z r
    cases s with
    | nil => cases b <;> simp [alternatives, hz] at h
    | cons q s =>
      obtain ⟨c, w⟩ := q
      obtain ⟨g, gs, hw⟩ := exists_alternatives_eq_cons w s
      have hih : alternatives z r = alternatives w s → z = w ∧ r = s := ih
      cases b <;> cases c <;> simp only [alternatives, hz, hw, List.modifyHead_cons,
        List.cons.injEq, reduceCtorEq, and_true, and_false, false_and] at h hih
      · obtain ⟨⟨rfl, hfirst⟩, hrest⟩ := h
        obtain ⟨rfl, rfl⟩ := hih ⟨hfirst, hrest⟩
        exact ⟨rfl, rfl⟩
      · obtain ⟨rfl, hrest⟩ := h
        obtain ⟨rfl, rfl⟩ := hih hrest
        exact ⟨rfl, rfl⟩

/-- Joined tests are taken apart in one way only. -/
lemma joinedTokens_inj {x y : Test} {r s : List (Connector × Test)}
    (h : joinedTokens x r = joinedTokens y s) : x = y ∧ r = s := by
  have hread := readCondition?_joinedTokens x r
  rw [h, readCondition?_joinedTokens] at hread
  exact alternatives_inj (Option.some.inj hread).symm

/-! ### Joins -/

lemma Operator.tokens_append_inj {op op' : Operator} {x y : Operand}
    (h : op.tokens ++ x.tokens = op'.tokens ++ y.tokens) : op = op' ∧ x = y := by
  have hread := Test.readTail?_operator x op x
  rw [h] at hread
  have hread' := Test.readTail?_operator x op' y
  rw [hread] at hread'
  simpa using hread'

lemma JoinSyntax.onTokens_injective : Function.Injective JoinSyntax.onTokens := by
  intro a b h
  cases a with
  | none =>
    cases b with
    | none => rfl
    | some b => simp [onTokens] at h
  | some a =>
    cases b with
    | none => simp [onTokens] at h
    | some b =>
      obtain ⟨r, op, s⟩ := a
      obtain ⟨r', op', s'⟩ := b
      have hop : ∀ (op : Operator) (ts : List Token),
          ∀ t ∈ (op.tokens ++ ts).head?, t.isReference = false := by
        intro op ts t ht
        cases op <;>
        · obtain rfl := Option.some.inj ht
          rfl
      simp only [onTokens, List.cons_append, List.append_assoc, List.cons.injEq, true_and] at h
      obtain ⟨rfl, hrest⟩ := Reference.tokens_append_inj (hop op _) (hop op' _) h
      obtain ⟨rfl, hsecond⟩ := Operator.tokens_append_inj (x := .column s) (y := .column s') hrest
      rw [Operand.column.inj hsecond]

lemma JoinSyntax.isReference_head_onTokens (o : Option (Reference × Operator × Reference)) :
    ∀ t ∈ (onTokens o).head?, t.isReference = false := by
  cases o with
  | none => simp [onTokens]
  | some o =>
    intro t ht
    obtain rfl := Option.some.inj ht
    rfl

lemma JoinSyntax.tokens_injective : Function.Injective JoinSyntax.tokens := by
  rintro ⟨k, r, o⟩ ⟨k', r', o'⟩ h
  simp only [tokens, List.cons_append, List.cons.injEq, Token.word.injEq, true_and] at h
  obtain ⟨hkind, h⟩ := h
  obtain rfl : k = k' := by cases k <;> cases k' <;> first | rfl | exact absurd hkind (by decide)
  obtain ⟨rfl, hon⟩ := Reference.tokens_append_inj (isReference_head_onTokens o)
    (isReference_head_onTokens o') h
  rw [onTokens_injective hon]

/-! ### Sections -/

lemma limitWord_injective : Function.Injective limitWord := by
  have hne : ∀ n : Nat, limitWord none ≠ limitWord (some n) := by
    intro n h
    have hnumeral : numeral? (limitWord none) = numeral? n.repr := by rw [h]; rfl
    rw [numeral?_repr] at hnumeral
    exact absurd hnumeral (by simp [limitWord, numeral?, isDigits])
  intro l m h
  cases l with
  | none =>
    cases m with
    | none => rfl
    | some m => exact absurd h (hne m)
  | some l =>
    cases m with
    | none => exact absurd h.symm (hne l)
    | some m => rw [repr_injective h]

/-- The kind of a section: its keyword, or that of all joins. -/
def sectionKind : List Token → String
  | .word w :: _ => if (JoinKind.all.map JoinKind.keyword).contains w then "JOIN" else w
  | _ => ""

/-- The sections of one kind. -/
def sectionsOf (w : String) (tss : List (List Token)) : List (List Token) :=
  tss.filter fun ts => sectionKind ts == w

lemma sectionsOf_append (w : String) (tss uss : List (List Token)) :
    sectionsOf w (tss ++ uss) = sectionsOf w tss ++ sectionsOf w uss :=
  List.filter_append ..

lemma sectionsOf_of_forall {w : String} {tss : List (List Token)}
    (h : ∀ ts ∈ tss, sectionKind ts = w) (v : String) :
    sectionsOf v tss = if w = v then tss else [] := by
  by_cases hwv : w = v
  · rw [if_pos hwv, sectionsOf, List.filter_eq_self]
    intro ts hts
    rw [h ts hts, hwv]
    exact beq_self_eq_true v
  · rw [if_neg hwv, sectionsOf, List.filter_eq_nil_iff]
    intro ts hts
    rw [h ts hts]
    simpa using hwv

namespace Selection

lemma eq_of_sectionIf {α : Type} {f : List α → List Token} {as bs : List α}
    (hf : as ≠ [] → bs ≠ [] → f as = f bs → as = bs)
    (h : sectionIf as (f as) = sectionIf bs (f bs)) : as = bs := by
  cases as with
  | nil =>
    cases bs with
    | nil => rfl
    | cons b bs => simp [sectionIf] at h
  | cons a as =>
    cases bs with
    | nil => simp [sectionIf] at h
    | cons b bs =>
      simp only [sectionIf, List.isEmpty_cons, Bool.false_eq_true, if_false, List.cons.injEq,
        and_true] at h
      exact hf (by simp) (by simp) h

lemma eq_of_map_toList {α β : Type} {f : α → β} (hf : Function.Injective f) {a b : Option α}
    (h : a.toList.map f = b.toList.map f) : a = b := by
  cases a with
  | none =>
    cases b with
    | none => rfl
    | some b => simp at h
  | some a =>
    cases b with
    | none => simp at h
    | some b =>
      have hab : a = b := hf (by simpa using h)
      rw [hab]

/-- The sections of a kind are those that the selection has for it. -/
lemma sectionsOf_sections (s : Selection) (v : String) :
    sectionsOf v s.sections = (if "FROM" = v then [.word "FROM" :: s.table.tokens] else [])
      ++ (if "JOIN" = v then s.joins.map JoinSyntax.tokens else [])
      ++ (if "WHERE" = v then
          sectionIf s.tests (.word "WHERE" :: joinedTokens (.equal 1 1) s.tests) else [])
      ++ (if "GROUP" = v then
          sectionIf s.groups (.word "GROUP" :: .word "BY" :: commas (s.groups.map Reference.tokens))
        else [])
      ++ (if "ORDER" = v then
          sectionIf s.keys (.word "ORDER" :: .word "BY" :: commas (s.keys.map keyTokens)) else [])
      ++ (if "LIMIT" = v then
          s.limit?.toList.map (fun l => [.word "LIMIT", .word (limitWord l)]) else [])
      ++ if "OFFSET" = v then s.offset?.toList.map (fun n => [.word "OFFSET", .word n.repr])
        else [] := by
  have hfrom : ∀ ts ∈ [Token.word "FROM" :: s.table.tokens], sectionKind ts = "FROM" := by
    intro ts hts
    rw [List.mem_singleton] at hts
    exact hts ▸ rfl
  have hjoins : ∀ ts ∈ s.joins.map JoinSyntax.tokens, sectionKind ts = "JOIN" := by
    intro ts hts
    obtain ⟨⟨kind, table, on?⟩, -, rfl⟩ := List.mem_map.mp hts
    cases kind <;> rfl
  have hwhere : ∀ ts ∈ sectionIf s.tests (.word "WHERE" :: joinedTokens (.equal 1 1) s.tests),
      sectionKind ts = "WHERE" := fun ts hts => mem_sectionIf hts ▸ rfl
  have hgroup : ∀ ts ∈ sectionIf s.groups
      (.word "GROUP" :: .word "BY" :: commas (s.groups.map Reference.tokens)),
      sectionKind ts = "GROUP" := fun ts hts => mem_sectionIf hts ▸ rfl
  have horder : ∀ ts ∈ sectionIf s.keys
        (.word "ORDER" :: .word "BY" :: commas (s.keys.map keyTokens)),
      sectionKind ts = "ORDER" := fun ts hts => mem_sectionIf hts ▸ rfl
  have hlimit : ∀ ts ∈ s.limit?.toList.map (fun l => [Token.word "LIMIT", .word (limitWord l)]),
      sectionKind ts = "LIMIT" := by
    intro ts hts
    obtain ⟨l, -, rfl⟩ := List.mem_map.mp hts
    rfl
  have hoffset : ∀ ts ∈ s.offset?.toList.map (fun n => [Token.word "OFFSET", .word n.repr]),
      sectionKind ts = "OFFSET" := by
    intro ts hts
    obtain ⟨n, -, rfl⟩ := List.mem_map.mp hts
    rfl
  rw [sections, ← List.singleton_append]
  simp only [sectionsOf_append, sectionsOf_of_forall hfrom, sectionsOf_of_forall hjoins,
    sectionsOf_of_forall hwhere, sectionsOf_of_forall hgroup, sectionsOf_of_forall horder,
    sectionsOf_of_forall hlimit, sectionsOf_of_forall hoffset, List.append_assoc]

/-- The sections of a selection determine all of it but its head. -/
lemma sections_inj {s t : Selection} (h : s.sections = t.sections) :
    s.table = t.table ∧ s.joins = t.joins ∧ s.tests = t.tests ∧ s.groups = t.groups ∧
      s.keys = t.keys ∧ s.limit? = t.limit? ∧ s.offset? = t.offset? := by
  have hkind : ∀ v, sectionsOf v s.sections = sectionsOf v t.sections := fun v => by rw [h]
  simp only [sectionsOf_sections] at hkind
  refine ⟨?_, ?_, ?_, ?_, ?_, ?_, ?_⟩
  · have htable := hkind "FROM"
    simp only [String.reduceEq, if_true, if_false, List.append_nil, List.cons.injEq, true_and,
      and_true] at htable
    exact Reference.tokens_injective htable
  · have hjoins := hkind "JOIN"
    simp only [String.reduceEq, if_true, if_false, List.append_nil, List.nil_append] at hjoins
    exact List.map_injective_iff.mpr JoinSyntax.tokens_injective hjoins
  · have htests := hkind "WHERE"
    simp only [String.reduceEq, if_true, if_false, List.append_nil, List.nil_append] at htests
    refine eq_of_sectionIf (f := fun r => .word "WHERE" :: joinedTokens (.equal 1 1) r)
      (fun _ _ h => ?_) htests
    exact (joinedTokens_inj (List.cons.inj h).2).2
  · have hgroups := hkind "GROUP"
    simp only [String.reduceEq, if_true, if_false, List.append_nil, List.nil_append] at hgroups
    refine eq_of_sectionIf
      (f := fun rs => .word "GROUP" :: .word "BY" :: commas (rs.map Reference.tokens))
      (fun hr hs h => ?_) hgroups
    exact commas_references_inj hr hs (List.cons.inj (List.cons.inj h).2).2
  · have hkeys := hkind "ORDER"
    simp only [String.reduceEq, if_true, if_false, List.append_nil, List.nil_append] at hkeys
    refine eq_of_sectionIf (f := fun ks => .word "ORDER" :: .word "BY" :: commas (ks.map keyTokens))
      (fun hk hl h => ?_) hkeys
    exact commas_keys_inj hk hl (List.cons.inj (List.cons.inj h).2).2
  · have hlimit := hkind "LIMIT"
    simp only [String.reduceEq, if_true, if_false, List.append_nil, List.nil_append] at hlimit
    have hinjective : Function.Injective fun l => [Token.word "LIMIT", .word (limitWord l)] :=
      fun l m h => limitWord_injective (by simpa using h)
    exact eq_of_map_toList hinjective hlimit
  · have hoffset := hkind "OFFSET"
    simp only [String.reduceEq, if_true, if_false, List.append_nil, List.nil_append] at hoffset
    have hinjective : Function.Injective fun n : Nat => [Token.word "OFFSET", .word n.repr] :=
      fun m n h => repr_injective (by simpa using h)
    exact eq_of_map_toList hinjective hoffset

end Selection

/-! ### Heads -/

lemma exists_commas_references (r : Reference) (rs : List Reference) :
    ∃ t ts, commas ((r :: rs).map Reference.tokens) = t :: ts ∧ t.isReference = true := by
  obtain ⟨t, ts, hts⟩ := List.exists_cons_of_ne_nil r.ne_nil
  have ht : t.isReference = true := r.isReference t (by simp [hts])
  cases rs with
  | nil => exact ⟨t, ts, by simp [commas, hts], ht⟩
  | cons q qs => exact ⟨t, _, by simp [commas, hts, List.intercalate_cons_cons]; rfl, ht⟩

lemma commas_append_ne_distinct (r : Reference) (rs : List Reference) (ts us : List Token) :
    commas ((r :: rs).map Reference.tokens) ++ ts ≠ .word "DISTINCT" :: us := by
  intro h
  obtain ⟨t, vs, hcommas, ht⟩ := exists_commas_references r rs
  rw [hcommas, List.cons_append, List.cons.injEq] at h
  exact absurd ht (by rw [h.1]; decide)

lemma paren_notMem_commas (rs : List Reference) :
    Token.mark '(' ∉ commas (rs.map Reference.tokens) := by
  intro h
  rcases mem_commas h with h | ⟨ts, hts, hmem⟩
  · simp at h
  · obtain ⟨r, -, rfl⟩ := List.mem_map.mp hts
    exact absurd (r.isReference _ hmem) (by decide)

/-- A call is told from columns by its parenthesis. -/
lemma call_ne_columns (f : String) (r s : Reference) (distinct : Bool) (ss : List Reference)
    (ts us : List Token) :
    (Head.call f r).tokens ++ .word "FROM" :: ts
      ≠ (Head.columns distinct s ss).tokens ++ .word "FROM" :: us := by
  intro h
  obtain ⟨u, vs, hcommas, hu⟩ := exists_commas_references s ss
  have hparen := paren_notMem_commas (s :: ss)
  rw [hcommas] at hparen
  simp only [Head.tokens, hcommas, List.cons_append, List.cons.injEq, true_and] at h
  cases distinct with
  | true =>
    simp only [if_true, List.cons_append, List.nil_append, List.cons.injEq] at h
    exact hparen (by simp [h.2.1])
  | false =>
    simp only [Bool.false_eq_true, if_false, List.nil_append, List.cons_append,
      List.cons.injEq] at h
    cases vs with
    | nil => simp at h
    | cons v vs =>
      simp only [List.cons_append, List.cons.injEq] at h
      exact hparen (by simp [h.2.1])

lemma Head.tokens_append_inj {a b : Head} {ts us : List Token}
    (h : a.tokens ++ .word "FROM" :: ts = b.tokens ++ .word "FROM" :: us) : a = b ∧ ts = us := by
  cases a with
  | call f r =>
    cases b with
    | columns distinct s ss => exact absurd h (call_ne_columns f r s distinct ss ts us)
    | call g s =>
      simp only [tokens, List.cons_append, List.append_assoc, List.cons.injEq, true_and,
        Token.word.injEq] at h
      obtain ⟨rfl, h⟩ := h
      obtain ⟨rfl, hrest⟩ := Reference.tokens_append_inj (by simp [Token.isReference])
        (by simp [Token.isReference]) h
      simpa using hrest
  | columns distinct r rs =>
    cases b with
    | call f s => exact absurd h.symm (call_ne_columns f s r distinct rs us ts)
    | columns distinct' s ss =>
      have hdistinct : distinct = distinct' := by
        simp only [tokens, List.append_assoc, List.cons_append, List.cons.injEq, true_and] at h
        cases distinct <;> cases distinct'
        · rfl
        · exact absurd h (commas_append_ne_distinct r rs _ _)
        · exact absurd h.symm (commas_append_ne_distinct s ss _ _)
        · rfl
      subst hdistinct
      have hopens : ∀ qs : List Reference, ∀ v ∈ commas (qs.map Reference.tokens),
          (!v.opens) = true := by
        intro qs v hv
        rw [Bool.not_eq_true', opens_commas (fun xs hxs => ?_) v hv]
        obtain ⟨q, -, rfl⟩ := List.mem_map.mp hxs
        exact q.opens_tokens
      simp only [tokens, List.append_assoc, List.cons_append, List.cons.injEq, true_and] at h
      obtain ⟨hlist, hrest⟩ := append_inj_of_head (hopens (r :: rs)) (hopens (s :: ss))
        (by simp; rfl)
        (by simp; rfl) (List.append_cancel_left h)
      have hlists := commas_references_inj (by simp) (by simp) hlist
      simp only [List.cons.injEq] at hlists hrest
      exact ⟨by rw [hlists.1, hlists.2], hrest.2⟩

/-- The tokens of a selection determine the selection. -/
theorem Selection.tokens_injective : Function.Injective Selection.tokens := by
  intro s t h
  have hfrom : ∀ u : Selection, ∃ tss, u.sections.flatten = .word "FROM" :: tss :=
    fun u => ⟨_, rfl⟩
  obtain ⟨ts, hts⟩ := hfrom s
  obtain ⟨us, hus⟩ := hfrom t
  rw [tokens, tokens, hts, hus] at h
  obtain ⟨hhead, hrest⟩ := Head.tokens_append_inj h
  have hsections : s.sections = t.sections :=
    flatten_inj_of_stops s.isSection_sections t.isSection_sections (by rw [hts, hus, hrest])
  obtain ⟨htable, hjoins, htests, hgroups, hkeys, hlimit, hoffset⟩ := sections_inj hsections
  cases s
  cases t
  simp_all

end BoundSql
