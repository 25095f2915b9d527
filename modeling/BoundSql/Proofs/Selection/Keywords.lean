import BoundSql.Proofs.Selection.Reading
import BoundSql.Proofs.Selection.Spacing

/-!
# The keywords of a selection

Which keywords of the components stand in the text of a selection without raw texts, and in which
order: each component brings its own if it is there and leaves no trace if it is not. Names can be
keywords too, but they are quoted.
-/

namespace BoundSql

open Template

/-! ### Keywords -/

/-- The keywords of the components of a selection. -/
inductive Keyword where
  | select
  | distinct
  | table
  | join
  | filter
  | group
  | sort
  | limit
  | offset
deriving DecidableEq

namespace Keyword

/-- The words of a keyword. -/
def words : Keyword → List String
  | .select => ["SELECT"]
  | .distinct => ["DISTINCT"]
  | .table => ["FROM"]
  | .join => ["JOIN"]
  | .filter => ["WHERE"]
  | .group => ["GROUP", "BY"]
  | .sort => ["ORDER", "BY"]
  | .limit => ["LIMIT"]
  | .offset => ["OFFSET"]

/-- All keywords. -/
def all : List Keyword :=
  [.select, .distinct, .table, .join, .filter, .group, .sort, .limit, .offset]

/-- The tokens of a keyword. -/
def tokens (k : Keyword) : List Token := k.words.map Token.word

lemma exists_tokens_eq_cons (k : Keyword) : ∃ t ts, k.tokens = t :: ts := by
  cases k <;> exact ⟨_, _, rfl⟩

end Keyword

/-- The keywords in tokens, in their order. -/
def keywordsIn : List Token → List Keyword
  | [] => []
  | t :: ts => (Keyword.all.filter fun k => k.tokens.isPrefixOf (t :: ts)) ++ keywordsIn ts

@[simp] lemma keywordsIn_nil : keywordsIn [] = [] := rfl

/-- Whether a token can start a keyword. -/
def Token.leads (t : Token) : Bool := Keyword.all.any fun k => k.tokens.head? == some t

lemma keywordsIn_cons_of_leads {t : Token} (h : t.leads = false) (ts : List Token) :
    keywordsIn (t :: ts) = keywordsIn ts := by
  have hnone : (Keyword.all.filter fun k => k.tokens.isPrefixOf (t :: ts)) = [] := by
    refine List.filter_eq_nil_iff.mpr fun k hk hprefix => ?_
    obtain ⟨u, us, hus⟩ := k.exists_tokens_eq_cons
    have hut : u = t := by simp_all [List.isPrefixOf]
    have hleads : t.leads = true := List.any_eq_true.mpr ⟨k, hk, by simp [hus, hut]⟩
    simp [h] at hleads
  rw [keywordsIn, hnone, List.nil_append]

lemma keywordsIn_append_of_leads {us : List Token} (h : ∀ t ∈ us, t.leads = false)
    (ts : List Token) : keywordsIn (us ++ ts) = keywordsIn ts := by
  induction us with
  | nil => rfl
  | cons u us ih =>
    rw [List.cons_append, keywordsIn_cons_of_leads (h u List.mem_cons_self)]
    exact ih fun t ht => h t (List.mem_cons_of_mem _ ht)

@[simp] lemma keywordsIn_tokens_append (k : Keyword) (ts : List Token) :
    keywordsIn (k.tokens ++ ts) = k :: keywordsIn ts := by
  cases k <;> simp [keywordsIn, Keyword.tokens, Keyword.words, Keyword.all]

/-! ### Placeholders -/

lemma ne_placeholder_of_markFree {w : String} (h : markFree w = true) (d : Dialect) (n : Nat) :
    w ≠ d.placeholder n := by
  rintro rfl
  obtain ⟨-, hmark, hdollar⟩ := (unmarked_of_markFree (d := d) h).notMem
  cases d <;> simp [Dialect.placeholder] at hmark hdollar

/-- Words stand before a value as they stand before its placeholder. -/
lemma isPrefixOf_place {d : Dialect} {ws : List String} (h : ∀ w ∈ ws, markFree w = true) (n : Nat)
    (ts : List Token) : (ws.map Token.word).isPrefixOf (place d n ts)
      = (ws.map Token.word).isPrefixOf ts := by
  induction ws generalizing n ts with
  | nil => rfl
  | cons w ws ih =>
    have hws := ih fun v hv => h v (List.mem_cons_of_mem _ hv)
    have hw := ne_placeholder_of_markFree (h w List.mem_cons_self) d
    cases ts with
    | nil => rfl
    | cons t ts =>
      cases t with
      | value v =>
        have hplaceholder : (Token.word w == .word (d.placeholder (n + 1))) = false :=
          beq_eq_false_iff_ne.mpr (by simpa using hw (n + 1))
        have hvalue : (Token.word w == .value v) = false := beq_eq_false_iff_ne.mpr (by simp)
        simp [place, List.isPrefixOf, hplaceholder, hvalue]
      | name s | unclosed s | word s | mark c => simp [place, List.isPrefixOf, hws]

lemma Keyword.markFree_words (k : Keyword) : ∀ w ∈ k.words, markFree w = true := by
  cases k <;> decide

/-- No placeholder is a keyword. -/
lemma keywordsIn_place (d : Dialect) (n : Nat) (ts : List Token) :
    keywordsIn (place d n ts) = keywordsIn ts := by
  induction ts generalizing n with
  | nil => rfl
  | cons t ts ih =>
    have hprefix : ∀ k : Keyword,
        k.tokens.isPrefixOf (place d n (t :: ts)) = k.tokens.isPrefixOf (t :: ts) :=
      fun k => isPrefixOf_place k.markFree_words n (t :: ts)
    cases t with
    | value v | name s | unclosed s | word s | mark c =>
      simp only [place] at hprefix
      simp only [place, keywordsIn, hprefix, ih]

/-! ### Quiet texts -/

/-- Whether no keyword starts in a text. -/
def isQuiet (l : String) : Bool := markFree l && (lex '"' l.toList).all fun t => !t.leads

lemma leads_lex_of_isQuiet {l : String} (h : isQuiet l = true) (d : Dialect) :
    ∀ t ∈ lex d.quoteMark l.toList, t.leads = false := by
  simp only [isQuiet, Bool.and_eq_true, List.all_eq_true, Bool.not_eq_true'] at h
  have hquote : d.quoteMark ∉ l.toList := (unmarked_of_markFree h.1).notMem.1
  have hmark : Dialect.generic.quoteMark ∉ l.toList := (unmarked_of_markFree h.1).notMem.1
  rw [lex_congr hquote hmark]
  exact h.2

lemma isQuiet_of_mem_fillers : ∀ l ∈ fillers, isQuiet l = true := by
  decide +kernel

variable {d : Dialect} {t : Template}

/-- Names and values are no keywords, so a template is quiet if its texts are. -/
lemma leads_tokens (h : ∀ l, .text l ∈ t → isQuiet l = true) :
    ∀ u ∈ t.tokens d, u.leads = false := by
  intro u hu
  obtain ⟨p, hp, hup⟩ := List.mem_flatMap.mp hu
  cases p with
  | text l => exact leads_lex_of_isQuiet (h l hp) d u hup
  | name s =>
    rw [List.mem_singleton.mp hup]
    rfl
  | slot v =>
    rw [List.mem_singleton.mp hup]
    rfl

/-- A tidy template in whose texts no keyword starts. -/
abbrev Template.Quiet (d : Dialect) : Template → Prop := Tidy d fun l => isQuiet l = true

lemma Template.Quiet.keywordsIn_append (h : Quiet d t) (ts : List Token) :
    keywordsIn (t.tokens d ++ ts) = keywordsIn ts :=
  keywordsIn_append_of_leads (leads_tokens fun l hl => (h.texts l hl).1) ts

/-- A keyword of the compiler. -/
lemma keywordsIn_text_append (k : Keyword) {l : String} (us : List Token) (ts : List Token)
    (hfree : markFree l = true) (hl : lex '"' l.toList = k.tokens ++ us)
    (hus : ∀ u ∈ us, u.leads = false) :
    keywordsIn (Piece.tokens d (.text l) ++ ts) = k :: keywordsIn ts := by
  rw [Piece.tokens_text d hfree hl, List.append_assoc, keywordsIn_tokens_append,
    keywordsIn_append_of_leads hus]

/-- A keyword in front of a quiet template. -/
lemma Template.Quiet.keywordsIn_text_cons (k : Keyword) {l : String} (hfree : markFree l = true)
    (hl : lex '"' l.toList = k.tokens) (ht : Quiet d t) (ts : List Token) :
    keywordsIn (tokens d (.text l :: t) ++ ts) = k :: keywordsIn ts := by
  rw [tokens_cons, List.append_assoc, Piece.tokens_text d hfree hl, keywordsIn_tokens_append,
    ht.keywordsIn_append]

/-! ### Components -/

/-- A word before a parenthesis is no keyword unless it is one alone. -/
lemma keywordsIn_word_mark {w : String} (h : ∀ k : Keyword, k.words ≠ [w]) (c : Char)
    (ts : List Token) : keywordsIn (.word w :: .mark c :: ts) = keywordsIn ts := by
  have hnone :
      (Keyword.all.filter fun k => k.tokens.isPrefixOf (.word w :: .mark c :: ts)) = [] := by
    refine List.filter_eq_nil_iff.mpr fun k _ hprefix => ?_
    have hk := h k
    cases k <;> simp_all [Keyword.tokens, Keyword.words, List.isPrefixOf]
  rw [keywordsIn, hnone, List.nil_append]
  exact keywordsIn_cons_of_leads rfl ts

lemma keywordsIn_call {f : String} (h : isPlainName f = true)
    (hword : ∀ k : Keyword, k.words ≠ [Text.upper f]) (ts : List Token) :
    keywordsIn (Piece.tokens d (.text (call f)) ++ ts) = .select :: keywordsIn ts := by
  by_cases hf : f = ""
  · subst hf
    exact keywordsIn_text_append .select [.mark '('] ts (by decide) (by decide) (by decide)
  · have hcall : Piece.tokens d (.text (call f)) ++ ts
        = Keyword.select.tokens ++ .word (Text.upper f) :: .mark '(' :: ts := by
      rw [tokens_call h hf]
      rfl
    rw [hcall, keywordsIn_tokens_append, keywordsIn_word_mark hword]

lemma Join.keywordsIn_append {j : Join} (hraw : ∀ i ∈ j.identifiers, i.rawTexts = [])
    (h : j.template d = .ok t) (ts : List Token) :
    keywordsIn (t.tokens d ++ ts) = .join :: keywordsIn ts := by
  obtain ⟨u, hu, hcases⟩ := Join.template_eq_ok h
  have htable : Quiet d u :=
    j.table.tidy_template isQuiet_of_mem_fillers (hraw _ List.mem_cons_self) hu
  have hkeyword : ∀ us, keywordsIn (Piece.tokens d (.text (j.kind.keyword ++ " JOIN ")) ++ us)
      = .join :: keywordsIn us := by
    intro us
    have htokens : Piece.tokens d (.text (j.kind.keyword ++ " JOIN "))
        = .word j.kind.keyword :: Keyword.join.tokens := by
      cases j.kind <;> exact Piece.tokens_text d (by decide) (by decide)
    rw [htokens, List.cons_append, keywordsIn_cons_of_leads (by cases j.kind <;> decide),
      keywordsIn_tokens_append]
  obtain ⟨hkind, -, rfl⟩ | ⟨on, v, hon, hv, rfl⟩ := hcases
  · rw [hkind] at hkeyword
    rw [tokens_cons, List.append_assoc]
    exact (hkeyword _).trans (by rw [htable.keywordsIn_append])
  · have hcondition : Quiet d v := by
      refine tidy_columnComparison isQuiet_of_mem_fillers (hraw _ ?_) (hraw _ ?_) hv
      · simp [Join.identifiers, hon]
      · simp [Join.identifiers, hon]
    have hrest : Quiet d (u ++ .text " ON " :: v) :=
      htable.append_text_append (by decide) (by decide) hcondition
    rw [List.cons_append, tokens_cons, List.append_assoc, hkeyword, hrest.keywordsIn_append]

lemma keywordsIn_joins {js : List Join} {us : List Template}
    (hraw : ∀ j ∈ js, ∀ i ∈ j.identifiers, i.rawTexts = [])
    (h : List.Forall₂ (fun j t => j.template d = .ok t) js us) (ts : List Token) :
    keywordsIn ((join " " us).tokens d ++ ts)
      = List.replicate js.length Keyword.join ++ keywordsIn ts := by
  rw [tokens_join_space]
  induction h with
  | nil => rfl
  | @cons j u js us hju _ ih =>
    rw [List.map_cons, List.flatten_cons, List.append_assoc,
      j.keywordsIn_append (hraw j List.mem_cons_self) hju,
      ih fun j hj => hraw j (List.mem_cons_of_mem _ hj)]
    rfl

lemma keywordsIn_start (distinct : Bool) (ts : List Token) :
    keywordsIn (Piece.tokens d (.text (if distinct then "SELECT DISTINCT " else "SELECT ")) ++ ts)
      = Keyword.select :: (if distinct = true then [Keyword.distinct] else [])
        ++ keywordsIn ts := by
  cases distinct with
  | false => exact keywordsIn_text_append .select [] ts (by decide) (by decide) (by simp)
  | true =>
    have htokens : Piece.tokens d (.text "SELECT DISTINCT ")
        = Keyword.select.tokens ++ Keyword.distinct.tokens :=
      Piece.tokens_text d (by decide) (by decide)
    rw [if_pos rfl, htokens, List.append_assoc, keywordsIn_tokens_append,
      keywordsIn_tokens_append]
    rfl

namespace Query

variable {q : Query} {u : Template}

section

variable (hraw : ∀ i ∈ q.identifiers, i.rawTexts = [])

include hraw

lemma keywordsIn_head
    (hname : ∀ a ∈ q.aggregate?, isPlainName a.function = true ∧
      ∀ k : Keyword, k.words ≠ [Text.upper a.function])
    (ht : q.Compiled d .aggregate t) (hu : q.Compiled d .columns u) (ts : List Token) :
    keywordsIn (t.tokens d ++ (u.tokens d ++ ts))
      = Keyword.select
        :: (if q.distinct = true ∧ q.aggregate? = none then [Keyword.distinct] else [])
        ++ keywordsIn ts := by
  cases ht with
  | noAggregate ha =>
    cases hu with
    | noColumns ha' => simp [ha] at ha'
    | @columns us _ hts =>
      have hcolumns : Quiet d (join ", " us) := tidy_selected isQuiet_of_mem_fillers hraw hts
      rw [tokens_nil, List.nil_append, tokens_cons, List.append_assoc, keywordsIn_start,
        hcolumns.keywordsIn_append]
      simp [ha]
  | @aggregate a c ha hc =>
    cases hu with
    | columns ha' => simp [ha] at ha'
    | noColumns =>
      obtain ⟨hplain, hword⟩ := hname a ha
      have hcolumn : Quiet d (c ++ [.text ")"]) :=
        (a.column.tidy_template isQuiet_of_mem_fillers (hraw _ (by simp [identifiers, ha]))
          hc).append_text (by decide) (by decide)
      rw [List.cons_append, tokens_cons, List.append_assoc, tokens_nil, List.nil_append]
      refine (keywordsIn_call hplain hword _).trans ?_
      rw [hcolumn.keywordsIn_append]
      simp [ha]

lemma keywordsIn_table (ht : q.Compiled d .table t) (ts : List Token) :
    keywordsIn (t.tokens d ++ ts) = .table :: keywordsIn ts := by
  cases ht with
  | table hu =>
    have htable : Quiet d _ :=
      q.table.tidy_template isQuiet_of_mem_fillers (hraw _ (by simp [identifiers])) hu
    exact htable.keywordsIn_text_cons .table (by decide) (by decide) ts

lemma keywordsIn_groups (ht : q.Compiled d .groups t) (ts : List Token) :
    keywordsIn (t.tokens d ++ ts)
      = (if q.groups = [] then [] else [Keyword.group]) ++ keywordsIn ts := by
  cases ht with
  | noGroups hgroups => simp [hgroups]
  | @groups us hne hts =>
    have hlist : Quiet d (join ", " us) := tidy_groups isQuiet_of_mem_fillers hraw hne hts
    rw [if_neg hne]
    exact hlist.keywordsIn_text_cons .group (by decide) (by decide) ts

lemma keywordsIn_sortKeys (ht : q.Compiled d .sortKeys t) (ts : List Token) :
    keywordsIn (t.tokens d ++ ts)
      = (if q.sortKeys = [] then [] else [Keyword.sort]) ++ keywordsIn ts := by
  cases ht with
  | noSortKeys hkeys => simp [hkeys]
  | @sortKeys us hne hts =>
    have hlist : Quiet d (join ", " us) := tidy_sortKeys isQuiet_of_mem_fillers hraw hne hts
    rw [if_neg hne]
    exact hlist.keywordsIn_text_cons .sort (by decide) (by decide) ts

end

lemma keywordsIn_clauses (hraw : ∀ c ∈ q.clauses, c.predicate.rawTexts = [])
    (ht : q.Compiled d .clauses t) (ts : List Token) :
    keywordsIn (t.tokens d ++ ts)
      = (if q.clauses = [] then [] else [Keyword.filter]) ++ keywordsIn ts := by
  cases ht with
  | clauses hwhere =>
    obtain ⟨hnil, rfl⟩ | ⟨hne, u, hu, rfl⟩ := whereClause_eq_ok.mp hwhere
    · simp [hnil]
    · have hseed : Quiet d [.text "1 = 1"] :=
        .text (by decide) (by decide) (by decide)
      have hchain := tidy_append_clauseChain isQuiet_of_mem_fillers hseed hraw hu
      have hquiet : ∀ v ∈ u.tokens d, v.leads = false :=
        leads_tokens fun l hl => (hchain.texts l (List.mem_append_right _ hl)).1
      rw [tokens_cons, List.append_assoc, keywordsIn_text_append .filter
        [.word "1", .word "=", .word "1"] _ (by decide) (by decide) (by decide),
        keywordsIn_append_of_leads hquiet, if_neg hne]
      rfl

lemma leads_repr (n : Nat) : Token.leads (.word n.repr) = false := by
  have hwords : (Keyword.all.all fun k => k.words.all fun w => numeral? w == none) = true := by
    decide
  by_contra h
  rw [Bool.not_eq_false] at h
  obtain ⟨k, hk, hhead⟩ := List.any_eq_true.mp h
  have hmem : n.repr ∈ k.words := by
    cases k <;> simp_all [Keyword.tokens, Keyword.words]
  have hnone := List.all_eq_true.mp (List.all_eq_true.mp hwords k hk) _ hmem
  simp [numeral?_repr] at hnone

lemma leads_limitWord (l : Option Nat) : Token.leads (.word (limitWord l)) = false := by
  cases l with
  | none => decide
  | some n => exact leads_repr n

/-- A limit is read where one is set, and before an offset where the dialect requires one. -/
lemma isSome_limitRead? (d : Dialect) (q : Query) : (q.limitRead? d).isSome = true ↔
    q.limit? ≠ none ∨ q.offset? ≠ none ∧ (d = .mysql ∨ d = .sqlite) := by
  rw [limitRead?, canonical]
  cases d <;> cases q.limit? <;> cases q.offset? <;> simp [Dialect.canonicalLimit?]

lemma keywordsIn_limit_offset (ht : q.Compiled d .limit t) (hu : q.Compiled d .offset u) :
    keywordsIn (t.tokens d ++ u.tokens d)
      = (if q.limit? ≠ none ∨ q.offset? ≠ none ∧ (d = .mysql ∨ d = .sqlite) then [Keyword.limit]
        else []) ++ if q.offset? ≠ none then [Keyword.offset] else [] := by
  have hlimit : ∀ l ts, keywordsIn (.word "LIMIT" :: .word (limitWord l) :: ts)
      = .limit :: keywordsIn ts := fun l ts =>
    (keywordsIn_tokens_append .limit _).trans (by rw [keywordsIn_cons_of_leads (leads_limitWord l)])
  have hoffset : ∀ n : Nat, keywordsIn [.word "OFFSET", .word n.repr] = [.offset] := by
    intro n
    refine (keywordsIn_tokens_append .offset _).trans ?_
    rw [keywordsIn_cons_of_leads (leads_repr n), keywordsIn_nil]
  rw [tokens_limit_offset ht hu]
  simp only [← isSome_limitRead? d q]
  cases q.limitRead? d <;> cases q.offset? <;> simp [hlimit, hoffset]

/-- The keywords that a query has in a dialect: of each component that is there its own, a `JOIN`
for each join, and a `LIMIT` also where a dialect requires it before an `OFFSET`. -/
def keywords (d : Dialect) (q : Query) : List Keyword :=
  List.flatten
    [[.select],
      if q.distinct = true ∧ q.aggregate? = none then [.distinct] else [],
      [.table],
      List.replicate q.joins.length .join,
      if q.clauses = [] then [] else [.filter],
      if q.groups = [] then [] else [.group],
      if q.sortKeys = [] then [] else [.sort],
      if q.limit? ≠ none ∨ q.offset? ≠ none ∧ (d = .mysql ∨ d = .sqlite) then [.limit] else [],
      if q.offset? ≠ none then [.offset] else []]

lemma keywordsIn_selectTemplate (hraw : q.rawTexts = [])
    (hname : ∀ a ∈ q.aggregate?, isPlainName a.function = true ∧
      ∀ k : Keyword, k.words ≠ [Text.upper a.function])
    (h : q.selectTemplate d = .ok t) : keywordsIn (t.tokens d) = q.keywords d := by
  simp only [rawTexts, List.append_eq_nil_iff, List.flatMap_eq_nil_iff] at hraw
  obtain ⟨hidentifiers, hclauses⟩ := hraw
  have hjoins : ∀ j ∈ q.joins, ∀ i ∈ j.identifiers, i.rawTexts = [] := fun j hj i hi =>
    hidentifiers i (mem_identifiers_of_mem_joins hj hi)
  obtain ⟨part, hpart, rfl⟩ := exists_parts h
  obtain ⟨us, hus, hjoined⟩ : ∃ us, List.Forall₂ (fun j t => j.template d = .ok t) q.joins us ∧
      part .joins = join " " us := by
    have hcompiled := hpart .joins
    generalize part .joins = u at hcompiled
    cases hcompiled with
    | joins hts => exact ⟨_, hts, rfl⟩
  rw [tokens_join_filter]
  simp only [Component.all, List.map_cons, List.map_nil, List.flatten_cons, List.flatten_nil,
    List.append_nil]
  rw [keywordsIn_head hidentifiers hname (hpart .aggregate) (hpart .columns),
    keywordsIn_table hidentifiers (hpart .table), hjoined, keywordsIn_joins hjoins hus,
    keywordsIn_clauses hclauses (hpart .clauses), keywordsIn_groups hidentifiers (hpart .groups),
    keywordsIn_sortKeys hidentifiers (hpart .sortKeys),
    keywordsIn_limit_offset (hpart .limit) (hpart .offset)]
  simp [keywords]

/-- The keywords of a selection without raw texts stand in its text in a fixed order: one of each
component that is there, one `JOIN` for each join, and before an `OFFSET` a `LIMIT` on the dialects
that require it. Whatever its names are, outside of them there are single blanks only, and none at
the ends. -/
theorem compileSelect_keywords {c : Config} {q : Query} {s : Statement} (hraw : q.rawTexts = [])
    (hname : ∀ a ∈ q.aggregate?, isPlainName a.function = true ∧
      ∀ k : Keyword, k.words ≠ [Text.upper a.function])
    (h : q.compileSelect c = .ok s) :
    keywordsIn (lex c.dialect.quoteMark s.sql.toList) = q.keywords c.dialect ∧
      Text.Tight (Text.outside c.dialect.quoteMark s.sql.toList) := by
  obtain ⟨t, ht, rfl⟩ := map_eq_ok.mp h
  have htidy := tidy_selectTemplate hraw (fun a ha => (hname a ha).1) ht
  have hcomposed : Composed (Unmarked c.dialect) t := by
    refine Command.composed_template (c := c) (r := .select q) (admits_unmarked c.dialect) ?_ ?_ ht
    · simp [Command.rawTexts, hraw]
    · intro f hf
      obtain ⟨a, ha, rfl⟩ := Option.map_eq_some_iff.mp hf
      exact unmarked_call (unmarked_of_markFree (markFree_of_isPlainName (hname a ha).1))
  rw [statement, render, String.toList_ofList]
  refine ⟨?_, htidy.tight 0⟩
  rw [lex_chars (hcomposed.mono fun s hs => hs.notMem.1), keywordsIn_place,
    keywordsIn_selectTemplate hraw hname ht]

/-- A query whose names are keywords and blanks, and whose function is half a keyword. The distinct
columns do not count beside the function. -/
def keywordQuery : Query :=
  { table := .name "from"
    columns := [.name "select  distinct"]
    distinct := true
    aggregate? := some ⟨"group", .name "limit"⟩
    joins := [⟨.cross, .name " ", none⟩, ⟨.cross, .name "JOIN", none⟩]
    clauses := [⟨.or, .isIn (.name "order by") []⟩]
    groups := [.name "BY"]
    offset? := some 3 }

/-- Only the words outside the names count; the limit is the one that sqlite requires. -/
theorem compileSelect_keywords_keywordQuery :
    ∃ s, keywordQuery.compileSelect { dialect := .sqlite } = .ok s ∧
      s.sql = "SELECT GROUP(\"limit\") FROM \"from\" CROSS JOIN \" \" CROSS JOIN \"JOIN\" "
        ++ "WHERE 1 = 1 OR 0 = 1 GROUP BY \"BY\" LIMIT -1 OFFSET 3" ∧
      keywordsIn (lex '"' s.sql.toList)
        = [.select, .table, .join, .join, .filter, .group, .limit, .offset] ∧
      Text.Tight (Text.outside '"' s.sql.toList) := by
  have hcompile : keywordQuery.compileSelect { dialect := .sqlite } = .ok
      { sql := "SELECT GROUP(\"limit\") FROM \"from\" CROSS JOIN \" \" CROSS JOIN \"JOIN\" "
          ++ "WHERE 1 = 1 OR 0 = 1 GROUP BY \"BY\" LIMIT -1 OFFSET 3"
        params := [] } := by cbv
  have hraw : keywordQuery.rawTexts = [] := rfl
  have hname : ∀ a ∈ keywordQuery.aggregate?, isPlainName a.function = true ∧
      ∀ k : Keyword, k.words ≠ [Text.upper a.function] := by
    intro a ha
    obtain rfl := Option.some.inj ha
    refine ⟨by decide, fun k => ?_⟩
    cases k <;> decide
  have hlist : keywordQuery.keywords .sqlite
      = [.select, .table, .join, .join, .filter, .group, .limit, .offset] := by decide
  obtain ⟨hkeywords, htight⟩ := compileSelect_keywords hraw hname hcompile
  exact ⟨_, hcompile, rfl, hkeywords.trans hlist, htight⟩

end Query

end BoundSql
