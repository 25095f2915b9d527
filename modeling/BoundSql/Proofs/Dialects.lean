import BoundSql.Proofs.Bindings
import BoundSql.Proofs.Selection.Items
import BoundSql.Proofs.Selection.Invariance

/-!
# One template for all dialects

The dialects compile a command to one sequence of pieces, which each writes with its own quote mark
and its own placeholders; only in front of an `OFFSET` without a `LIMIT` do two of them write
something of their own. They fail together too, but for mysql, which stops at a `FULL` join.
-/

namespace BoundSql

/-! ### Writing a template -/

/-- Characters between quote marks, each mark among them written twice. -/
def Text.enclosed (mark : Char) (cs : List Char) : List Char :=
  mark :: cs.flatMap (fun c => if c = mark then [mark, mark] else [c]) ++ [mark]

namespace Template

/-- The characters of a template whose slots are filled with texts, if these are as many as the
slots. -/
def fill (mark : Char) : Template → List String → Option (List Char)
  | [], [] => some []
  | [], _ :: _ => none
  | .text s :: t, ps => (fill mark t ps).map (s.toList ++ ·)
  | .name s :: t, ps => (fill mark t ps).map (Text.enclosed mark s.toList ++ ·)
  | .slot _ :: _, [] => none
  | .slot _ :: t, p :: ps => (fill mark t ps).map (p.toList ++ ·)

/-- The text of a template with a quote mark and with texts in its slots. -/
def write (mark : Char) (placeholders : List String) (t : Template) : Option String :=
  (fill mark t placeholders).map String.ofList

/-- Question marks as placeholders. -/
def questions (n : Nat) : List String := List.replicate n "?"

@[simp] lemma length_questions (n : Nat) : (questions n).length = n := List.length_replicate

/-- Numbered placeholders, from one. -/
def numbers (n : Nat) : List String := (List.range n).map fun i => "$" ++ (i + 1).repr

end Template

namespace Dialect

/-- The placeholders of a dialect for the values from the `bound`-th on. -/
def placeholdersFrom (d : Dialect) (bound n : Nat) : List String :=
  (List.range n).map fun i => d.placeholder (bound + i + 1)

lemma placeholdersFrom_succ (d : Dialect) (bound n : Nat) :
    d.placeholdersFrom bound (n + 1)
      = d.placeholder (bound + 1) :: d.placeholdersFrom (bound + 1) n := by
  simp only [placeholdersFrom, List.range_succ_eq_map, List.map_cons, List.map_map, Nat.add_zero]
  congr 1
  apply List.map_congr_left
  intro i _
  rw [Function.comp_apply, show bound + i.succ + 1 = bound + 1 + i + 1 by omega]

lemma placeholdersFrom_eq_questions {d : Dialect} (hd : d ≠ .postgres) (bound n : Nat) :
    d.placeholdersFrom bound n = Template.questions n := by
  have hplaceholder : ∀ k, d.placeholder k = "?" := by
    intro k
    cases d with
    | postgres => exact absurd rfl hd
    | generic | mysql | sqlite => rfl
  simp [placeholdersFrom, hplaceholder, Template.questions, List.map_const']

lemma placeholdersFrom_postgres (n : Nat) :
    Dialect.postgres.placeholdersFrom 0 n = Template.numbers n := by
  simp [placeholdersFrom, placeholder, Template.numbers]

end Dialect

namespace Template

/-- A dialect fills the slots with its placeholders. -/
lemma fill_placeholdersFrom (d : Dialect) (bound : Nat) (t : Template) :
    fill d.quoteMark t (d.placeholdersFrom bound t.params.length) = some (chars d bound t) := by
  induction t generalizing bound with
  | nil => rfl
  | cons p t ih =>
    cases p with
    | text s =>
      rw [params_text_cons, fill, ih]
      rfl
    | name s =>
      rw [params_name_cons, fill, ih, chars, Dialect.quote, String.toList_ofList]
      rfl
    | slot v =>
      rw [params_slot_cons, List.length_cons, Dialect.placeholdersFrom_succ, fill, ih]
      rfl

lemma write_placeholdersFrom (d : Dialect) (bound : Nat) (t : Template) :
    t.write d.quoteMark (d.placeholdersFrom bound t.params.length) = some (t.render d bound) := by
  rw [write, fill_placeholdersFrom]
  rfl

/-- A template is written with as many texts as it has slots, and with no other number. -/
lemma isSome_fill (mark : Char) (t : Template) (ps : List String) :
    (fill mark t ps).isSome = decide (ps.length = t.params.length) := by
  induction t generalizing ps with
  | nil => cases ps <;> rfl
  | cons p t ih =>
    cases p with
    | text s => rw [fill, Option.isSome_map, ih, params_text_cons]
    | name s => rw [fill, Option.isSome_map, ih, params_name_cons]
    | slot v =>
      cases ps with
      | nil => rfl
      | cons p ps =>
        rw [fill, Option.isSome_map, ih, params_slot_cons, List.length_cons, List.length_cons]
        simp

lemma exists_write {mark : Char} {t : Template} {ps : List String}
    (h : ps.length = t.params.length) : ∃ s, t.write mark ps = some s := by
  rw [← Option.isSome_iff_exists, write, Option.isSome_map, isSome_fill, decide_eq_true_eq]
  exact h

/-- Without slots the placeholders of a dialect do not show. -/
lemma write_of_params_eq_nil {t : Template} (h : t.params = []) (d : Dialect) :
    t.write d.quoteMark [] = some (t.render d 0) := by
  have hwrite := write_placeholdersFrom d 0 t
  rw [h] at hwrite
  exact hwrite

end Template

/-! ### Where the dialects differ -/

/-- Whether an item is a `FULL` join. -/
def Item.isFullJoin : Item → Bool
  | .reference _ => false
  | .join j => j.kind = .full

namespace Command

/-- Whether a command is a `SELECT` whose first item that fails on mysql is a `FULL` join. -/
def StopsAtFullJoin : Command → Prop
  | .select q => ∃ x ∈ q.firstFailing? .mysql, x.isFullJoin = true
  | .insert .. | .update .. | .delete _ => False

/-- The end of a `SELECT` with an offset but no limit: a text in front of the `OFFSET`. -/
def bareOffset (limit : String) : Command → Template
  | .select q => match q.limit?, q.offset? with
    | none, some n => [.text limit, .text ("OFFSET " ++ n.toNat.repr)]
    | _, _ => []
  | .insert .. | .update .. | .delete _ => []

/-- Whether a dialect compiles a command to a template and the end of the statement behind it. -/
def WritesAs (r : Command) (d : Dialect) (t : Template) : Prop :=
  ∃ sql, r.compile { dialect := d } = .ok ⟨sql, t.params⟩ ∧
    (t ++ r.bareOffset d.beforeBareOffset).write d.quoteMark
      (d.placeholdersFrom 0 t.params.length) = some sql

/-- An error as mysql gives it: the table of a join that does not fit its condition is in
backticks, and any other error is the same. -/
inductive Requoted (r : Command) : Error → Error → Prop where
  | invalidJoin {q j t quoted ticked fault} :
      r = .select q → q.firstFailing? .generic = some (.join j) → j.table.template = .ok t →
      t.write '"' [] = some quoted → t.write '`' [] = some ticked →
      Requoted r (.invalidJoin j.kind quoted fault) (.invalidJoin j.kind ticked fault)
  | same {e} : (∀ kind table fault, e ≠ .invalidJoin kind table fault) → Requoted r e e

end Command

open Template

/-! ### What an item fails with -/

/-- Without slots a template depends on the dialect only through its quote mark. -/
lemma chars_congr_of_params_eq_nil {t : Template} (h : params t = []) {d d' : Dialect}
    (hd : d.quoteMark = d'.quoteMark) (bound : Nat) : chars d bound t = chars d' bound t := by
  induction t with
  | nil => rfl
  | cons p t ih =>
    cases p with
    | text s => exact congrArg (s.toList ++ ·) (ih h)
    | name s => simp only [chars, Dialect.quote, hd, ih h]
    | slot v => simp at h

/-- How a join does not fit its condition, if it does not. -/
def Join.fault? (j : Join) : Option JoinFault :=
  match j.kind, j.on? with
  | .cross, none => none
  | .cross, some _ => some .needless
  | _, none => some .missing
  | _, some _ => none

/-- A join that its dialect has fails on its table, on how it fits its condition, or on that. -/
lemma Join.failure?_template {d : Dialect} {j : Join} (h : d.supports j.kind = true) :
    failure? (j.template d) = match j.table.template, j.fault? with
      | .error e, _ => some e
      | .ok t, some fault => some (.invalidJoin j.kind (t.render d 0) fault)
      | .ok _, none => j.on?.bind fun on =>
        failure? (columnComparison on.first on.operator on.second) := by
  obtain ⟨kind, table, on?⟩ := j
  rw [template, h]
  cases table.template with
  | error e => rfl
  | ok t =>
    cases on? with
    | none => cases kind <;> rfl
    | some on =>
      have hcondition : ∀ k : Template → Template,
          failure? (do let c ← columnComparison on.first on.operator on.second; pure (k c))
            = failure? (columnComparison on.first on.operator on.second) := by
        exact failure?_bind_pure _
      cases kind with
      | cross => rfl
      | inner | left | right | full => exact hcondition _

namespace Item

lemma supports_of_isFullJoin_eq_false {d : Dialect} {j : Join}
    (h : (Item.join j).isFullJoin = false) : d.supports j.kind = true := by
  have hkind : j.kind ≠ .full := by simpa [isFullJoin] using h
  simp [Dialect.supports, hkind]

/-- Apart from mysql the dialects fail on the same items in the same way. -/
lemma error?_eq_generic {d : Dialect} (hd : d ≠ .mysql) (x : Item) :
    x.error? d = x.error? .generic := by
  cases x with
  | reference i => rfl
  | join j =>
    have hmark : d.quoteMark = Dialect.generic.quoteMark := by
      cases d with
      | mysql => exact absurd rfl hd
      | generic | postgres | sqlite => rfl
    have hsupports : d.supports j.kind = true := by simp [Dialect.supports, hd]
    rw [error?, error?, template, template, Join.failure?_template hsupports,
      Join.failure?_template (d := .generic) rfl]
    cases ht : j.table.template with
    | error e => rfl
    | ok t =>
      cases j.fault? with
      | none => rfl
      | some fault =>
        simp only [render, chars_congr_of_params_eq_nil (j.table.params_template ht) hmark]

lemma error?_mysql_of_isFullJoin {x : Item} (h : x.isFullJoin = true) :
    x.error? .mysql = some (.unsupportedJoin .mysql .full) := by
  cases x with
  | reference i => simp [isFullJoin] at h
  | join j =>
    have hkind : j.kind = .full := by simpa [isFullJoin] using h
    have htemplate : j.template .mysql = .error (.unsupportedJoin .mysql j.kind) := by
      rw [Join.template, hkind]
      rfl
    rw [error?, template, htemplate, hkind, failure?_error]

/-- Other items than `FULL` joins fail on mysql if they fail elsewhere, and only then. -/
lemma isSome_error?_mysql {x : Item} (h : x.isFullJoin = false) :
    (x.error? .mysql).isSome = (x.error? .generic).isSome := by
  cases x with
  | reference i => rfl
  | join j =>
    rw [error?, error?, template, template,
      Join.failure?_template (supports_of_isFullJoin_eq_false h),
      Join.failure?_template (d := .generic) rfl]
    cases j.table.template with
    | error e => rfl
    | ok t => cases j.fault? <;> simp only [Option.isSome]

end Item

section

variable {q : Query}

lemma Query.firstFailing?_eq_generic {d : Dialect} (hd : d ≠ .mysql) :
    q.firstFailing? d = q.firstFailing? .generic := by
  simp only [firstFailing?, Item.error?_eq_generic hd]

/-- Unless mysql stops at a `FULL` join it stops where the others do. -/
lemma Query.firstFailing?_mysql (h : ∀ x ∈ q.firstFailing? .mysql, x.isFullJoin = false) :
    q.firstFailing? .mysql = q.firstFailing? .generic := by
  rw [firstFailing?] at h ⊢
  rw [firstFailing?]
  generalize q.items = xs at h
  induction xs with
  | nil => rw [List.find?_nil, List.find?_nil]
  | cons x xs ih =>
    rw [List.find?_cons] at h
    rw [List.find?_cons, List.find?_cons]
    have hfull : x.isFullJoin = false := by
      by_contra hfull
      rw [Bool.not_eq_false] at hfull
      rw [Item.error?_mysql_of_isFullJoin hfull] at h
      simp [hfull] at h
    rw [Item.isSome_error?_mysql hfull] at h ⊢
    cases hx : (x.error? .generic).isSome with
    | true => rfl
    | false =>
      rw [hx] at h
      exact ih h

end

/-- Unless it stops at a `FULL` join, mysql fails with the error of the others, requoted. -/
lemma Query.exists_requoted {q : Query} {e : Error}
    (h : ∀ x ∈ q.firstFailing? .mysql, x.isFullJoin = false)
    (hq : q.selectTemplate .generic = .error e) :
    ∃ e', q.selectTemplate .mysql = .error e' ∧ (Command.select q).Requoted e e' := by
  obtain ⟨x, hx, he⟩ := Query.selectTemplate_eq_error hq
  have hmysql : q.firstFailing? .mysql = some x := by rw [Query.firstFailing?_mysql h, hx]
  have hfull : x.isFullJoin = false := h x hmysql
  have hfailure : failure? (q.selectTemplate .mysql) = x.error? .mysql := by
    rw [Query.failure?_selectTemplate, hmysql, Option.bind_some]
  have hsame : x.error? .mysql = some e → (∃ s, e = .malformedAlias s) →
      ∃ e', q.selectTemplate .mysql = .error e' ∧ (Command.select q).Requoted e e' := by
    rintro heq ⟨s, rfl⟩
    exact ⟨_, failure?_eq_some.mp (hfailure.trans heq), .same fun _ _ _ => by simp⟩
  cases x with
  | reference i => exact hsame he (i.eq_malformedAlias he)
  | join j =>
    rw [Item.error?, Item.template, Join.failure?_template rfl] at he
    rw [Item.error?, Item.template,
      Join.failure?_template (Item.supports_of_isFullJoin_eq_false hfull)] at hsame hfailure
    cases ht : j.table.template with
    | error e₀ =>
      simp only [ht] at he hsame
      rw [Option.some.inj he] at ht
      exact hsame he (j.table.eq_malformedAlias (failure?_eq_some.mpr ht))
    | ok t =>
      simp only [ht] at he hsame hfailure
      have hparams : params t = [] := j.table.params_template ht
      cases hfault : j.fault? with
      | none =>
        simp only [hfault] at he hsame
        obtain ⟨on, -, hon⟩ := Option.bind_eq_some_iff.mp he
        exact hsame he
          (Predicate.eq_malformedAlias (p := .compareColumns on.first on.operator on.second) hon)
      | some fault =>
        simp only [hfault, Option.some.injEq] at he hfailure
        subst he
        exact ⟨_, failure?_eq_some.mp hfailure, .invalidJoin rfl hx ht
          (write_of_params_eq_nil hparams .generic) (write_of_params_eq_nil hparams .mysql)⟩

/-! ### What compiles -/

/-- A join that compiles in a dialect compiles to the same template without one. -/
lemma Join.template_generic {d : Dialect} {j : Join} {t : Template} (h : j.template d = .ok t) :
    j.template .generic = .ok t := by
  obtain ⟨kind, table, on?⟩ := j
  rw [template] at h ⊢
  split_ifs at h
  change (table.template >>= _) = _
  cases hu : table.template with
  | error e => simp [hu, bind, Except.bind] at h
  | ok u =>
    rw [hu] at h
    cases on? with
    | none =>
      cases kind with
      | cross => exact h
      | inner | left | right | full => simp [bind, Except.bind] at h
    | some on =>
      cases kind with
      | cross => simp [bind, Except.bind] at h
      | inner | left | right | full => exact h

/-- Whatever succeeds in one way also does so in another, if that holds of each step. -/
lemma mapM_eq_ok_of_forall {ε α β : Type} {f g : α → Except ε β} {xs : List α} {ys : List β}
    (h : ∀ x ∈ xs, ∀ y, f x = .ok y → g x = .ok y) (hf : xs.mapM f = .ok ys) :
    xs.mapM g = .ok ys := by
  rw [mapM_eq_ok] at hf ⊢
  induction hf with
  | nil => exact .nil
  | cons hxy _ ih =>
    exact .cons (h _ List.mem_cons_self _ hxy) (ih fun x hx => h x (List.mem_cons_of_mem _ hx))

namespace Query

variable {q : Query} {d : Dialect}

/-- In front of the limit all dialects write the same. -/
lemma body_generic {parts : List Template}
    (h : (Component.body.mapM fun x => (q.component d x).toExcept) = .ok parts) :
    (Component.body.mapM fun x => (q.component .generic x).toExcept) = .ok parts := by
  have hoffset : Component.offset ∉ Component.body := by decide
  refine mapM_eq_ok_of_forall (fun x hx u hu => ?_) h
  cases x with
  | joins =>
    simp only [component, Outcome.toExcept_ofExcept, joinsTemplate, bind_eq_ok, pure_eq_ok] at hu ⊢
    obtain ⟨ts, hts, rfl⟩ := hu
    exact ⟨ts, mapM_eq_ok_of_forall (fun j _ t => j.template_generic) hts, rfl⟩
  | aggregate | columns | table | clauses | groups | sortKeys | limit => exact hu
  | offset => exact absurd hx hoffset

/-- All dialects that compile a query write the same in front of the limit. -/
lemma exists_body {t₀ : Template} (h₀ : q.selectTemplate .generic = .ok t₀) :
    ∃ parts, ∀ d, (∃ t, q.selectTemplate d = .ok t) →
      (Component.body.mapM fun x => (q.component d x).toExcept) = .ok parts := by
  have hbody : ∀ {d t}, q.selectTemplate d = .ok t →
      ∃ parts, (Component.body.mapM fun x => (q.component d x).toExcept) = .ok parts := by
    intro d t ht
    have hall : Component.all = Component.body ++ [.limit, .offset] := rfl
    simp only [selectTemplate, hall, List.mapM_append, bind_eq_ok] at ht
    obtain ⟨_, ⟨parts, hparts, -⟩, -⟩ := ht
    exact ⟨parts, hparts⟩
  obtain ⟨parts, hparts⟩ := hbody h₀
  refine ⟨parts, ?_⟩
  rintro d ⟨t, ht⟩
  obtain ⟨parts', hparts'⟩ := hbody ht
  have heq : parts' = parts := Except.ok.inj ((body_generic hparts').symm.trans hparts)
  rw [hparts', heq]

end Query

/-- A text can be cut into two. -/
lemma Template.render_append_text (d : Dialect) (t : Template) (s s' : String) :
    render d 0 (t ++ [.text (s ++ s')]) = render d 0 (t ++ [.text s, .text s']) := by
  simp [render, chars_append, chars, String.toList_append]

namespace Query

variable {q : Query} {d : Dialect} {parts : List Template}

/-- Behind one template each dialect writes an `OFFSET` without a limit in its own way. -/
lemma writesAs_of_bareOffset {s : Template} {n : UInt64} (hlimit : q.limit? = none)
    (hoffset : q.offset? = some n)
    (hparts : (Component.body.mapM fun x => (q.component d x).toExcept) = .ok parts)
    (hs : ∀ bare, join " " ((parts.filter fun t => !t.isEmpty) ++ [bare]) = s ++ bare) :
    (Command.select q).WritesAs d s := by
  let bare : Template := [.text (d.beforeBareOffset ++ ("OFFSET " ++ n.toNat.repr))]
  have hcompile := q.compileSelect_eq { dialect := d } (l := []) (o := bare)
    (by simp [component, hlimit, Outcome.toExcept])
    (by simp [component, hlimit, hoffset, offsetTemplate, Outcome.toExcept, bare,
      String.append_assoc])
  have hfilter : [[], bare].filter (fun t => !t.isEmpty) = [bare] := rfl
  have hparams : params (s ++ bare) = params s := by simp [bare]
  have hend : (Command.select q).bareOffset d.beforeBareOffset
      = [.text d.beforeBareOffset, .text ("OFFSET " ++ n.toNat.repr)] := by
    simp [Command.bareOffset, hlimit, hoffset]
  have hwrite := write_placeholdersFrom d 0
    (s ++ [.text d.beforeBareOffset, .text ("OFFSET " ++ n.toNat.repr)])
  refine ⟨render d 0 (s ++ bare), ?_, ?_⟩
  · rw [Command.compile, hcompile, hparts, ← hparams, ← hs, ← hfilter, ← List.filter_append]
    rfl
  · rw [hend, render_append_text, ← hwrite]
    simp

/-- Without such an `OFFSET` the dialects write nothing of their own. -/
lemma writesAs_of_bareOffset_eq_nil {l o : Template}
    (hend : (Command.select q).bareOffset d.beforeBareOffset = [])
    (hparts : (Component.body.mapM fun x => (q.component d x).toExcept) = .ok parts)
    (hl : (q.component d .limit).toExcept = .ok l)
    (ho : (q.component d .offset).toExcept = .ok o) :
    (Command.select q).WritesAs d (join " " ((parts ++ [l, o]).filter fun t => !t.isEmpty)) := by
  have hcompile := q.compileSelect_eq { dialect := d } hl ho
  rw [hparts] at hcompile
  refine ⟨_, hcompile, ?_⟩
  rw [hend, List.append_nil]
  exact write_placeholdersFrom d 0 _

/-- The dialects write the `OFFSET`, and what has to stand in front of it, behind one template. -/
lemma exists_writesAs {t₀ : Template} (h₀ : q.selectTemplate .generic = .ok t₀) :
    ∃ t, ∀ d, (∃ u, q.selectTemplate d = .ok u) → (Command.select q).WritesAs d t := by
  obtain ⟨parts, hparts⟩ := exists_body h₀
  by_cases hbare : ∃ n, q.limit? = none ∧ q.offset? = some n
  · obtain ⟨n, hlimit, hoffset⟩ := hbare
    obtain ⟨s, hs⟩ := exists_join_concat " " (parts.filter fun t => !t.isEmpty)
    exact ⟨s, fun d hd => writesAs_of_bareOffset hlimit hoffset (hparts d hd) hs⟩
  · have hend : ∀ limit, (Command.select q).bareOffset limit = [] := by
      intro limit
      rw [Command.bareOffset]
      split
      · next n hlimit hoffset => exact absurd ⟨n, hlimit, hoffset⟩ hbare
      · rfl
    obtain ⟨l, hl⟩ : ∃ l, ∀ d, (q.component d .limit).toExcept = .ok l := by
      simp only [component]
      cases q.limit? <;> exact ⟨_, fun _ => rfl⟩
    obtain ⟨o, ho⟩ : ∃ o, ∀ d, (q.component d .offset).toExcept = .ok o := by
      simp only [component]
      cases hoffset : q.offset? with
      | none => exact ⟨_, fun _ => rfl⟩
      | some n =>
        cases hlimit : q.limit? with
        | none => exact absurd ⟨n, hlimit, hoffset⟩ hbare
        | some m => exact ⟨offsetTemplate .generic (some m) n, fun _ => rfl⟩
    exact ⟨_, fun d hd => writesAs_of_bareOffset_eq_nil (hend _) (hparts d hd) (hl d) (ho d)⟩

end Query

namespace Command

lemma params_bareOffset (r : Command) (limit : String) : params (r.bareOffset limit) = [] := by
  cases r with
  | select q =>
    rw [bareOffset]
    split <;> rfl
  | insert q rows | update q row | delete q => rfl

/-- Only a `SELECT` depends on the dialect before it is written. -/
lemma template_eq_generic {r : Command} (h : ∀ q, r ≠ .select q) (d : Dialect) :
    r.template { dialect := d } = r.template { dialect := .generic } := by
  cases r with
  | select q => exact absurd rfl (h q)
  | insert q rows =>
    have hplain : ∀ d rows, (Config.mk d false).insertsCompound rows = false := by
      simp [Config.insertsCompound]
    simp only [template, Query.insertTemplate, hplain]
  | update q row | delete q => rfl

/-- The dialects that compile a command write one template. -/
lemma exists_writesAs {r : Command} {t₀ : Template}
    (h₀ : r.template { dialect := .generic } = .ok t₀) :
    ∃ t, ∀ d, (∃ u, r.template { dialect := d } = .ok u) → r.WritesAs d t := by
  have hothers : (∀ q, r ≠ .select q) → (∀ limit, r.bareOffset limit = []) →
      ∀ d, r.WritesAs d t₀ := by
    intro hr hend d
    have ht : r.template { dialect := d } = .ok t₀ := by rw [template_eq_generic hr, h₀]
    refine ⟨t₀.render d 0, compile_eq_ok.mpr ⟨t₀, ht, rfl⟩, ?_⟩
    rw [hend, List.append_nil]
    exact write_placeholdersFrom d 0 t₀
  cases r with
  | select q => exact Query.exists_writesAs h₀
  | insert q rows | update q row | delete q =>
    exact ⟨t₀, fun d _ => hothers (by simp) (fun _ => rfl) d⟩

/-- Apart from mysql the dialects compile the same commands, and fail with the same errors. -/
lemma failure?_template_eq_generic (r : Command) {d : Dialect} (hd : d ≠ .mysql) :
    failure? (r.template { dialect := d }) = failure? (r.template { dialect := .generic }) := by
  cases r with
  | select q =>
    simp only [template, Query.failure?_selectTemplate, Query.firstFailing?_eq_generic hd,
      Item.error?_eq_generic hd]
  | insert q rows => rw [template_eq_generic (by simp) d]
  | update q row | delete q => rfl

/-- Where mysql stops at a `FULL` join it says so. -/
lemma template_mysql_of_stopsAtFullJoin {r : Command} (h : r.StopsAtFullJoin) :
    r.template { dialect := .mysql } = .error (.unsupportedJoin .mysql .full) := by
  cases r with
  | select q =>
    obtain ⟨x, hx, hjoin⟩ := h
    rw [template, ← failure?_eq_some, Query.failure?_selectTemplate, hx, Option.bind_some,
      Item.error?_mysql_of_isFullJoin hjoin]
  | insert q rows | update q row | delete q => exact absurd h not_false

/-- Unless it stops at a `FULL` join, mysql has a template if the others have one, and fails with
their error, requoted, if they fail. -/
lemma template_mysql {r : Command} (h : ¬r.StopsAtFullJoin) :
    ((∃ t, r.template { dialect := .generic } = .ok t) →
      ∃ t, r.template { dialect := .mysql } = .ok t) ∧
    ∀ e, r.template { dialect := .generic } = .error e →
      ∃ e', r.template { dialect := .mysql } = .error e' ∧ r.Requoted e e' := by
  have hothers : (∀ q, r ≠ .select q) →
      ((∃ t, r.template { dialect := .generic } = .ok t) →
        ∃ t, r.template { dialect := .mysql } = .ok t) ∧
      ∀ e, r.template { dialect := .generic } = .error e →
        ∃ e', r.template { dialect := .mysql } = .error e' ∧ r.Requoted e e' := by
    intro hr
    rw [template_eq_generic hr .mysql]
    exact ⟨id, fun e he => ⟨e, he, .same (ne_invalidJoin hr (failure?_eq_some.mpr he))⟩⟩
  cases r with
  | insert q rows | update q row | delete q => exact hothers (by simp)
  | select q =>
    have hitems : ∀ x ∈ q.firstFailing? .mysql, x.isFullJoin = false := by
      intro x hx
      by_contra hjoin
      exact h ⟨x, hx, Bool.not_eq_false _ ▸ hjoin⟩
    refine ⟨fun hok => ?_, fun e => Query.exists_requoted hitems⟩
    rw [← failure?_eq_none, template, Query.failure?_selectTemplate] at hok
    rw [← failure?_eq_none, template, Query.failure?_selectTemplate,
      Query.firstFailing?_mysql hitems]
    cases hfirst : q.firstFailing? .generic with
    | none => rfl
    | some x =>
      -- a first item that fails has an error
      have hx := List.find?_some hfirst
      rw [hfirst, Option.bind_some] at hok
      simp [hok] at hx

/-- The dialects compile a command to one template, which each writes in its own way; sqlite and
mysql write a limit in front of an `OFFSET` without one. They fail together and with the same
error, but for mysql, which stops at a `FULL` join and quotes a table with backticks. -/
theorem compile_dialects (r : Command) :
    (∃ (t : Template) (generic postgres sqlite mysql : String),
      r.compile { dialect := .generic } = .ok ⟨generic, t.params⟩ ∧
      r.compile { dialect := .postgres } = .ok ⟨postgres, t.params⟩ ∧
      r.compile { dialect := .sqlite } = .ok ⟨sqlite, t.params⟩ ∧
      (r.StopsAtFullJoin →
        r.compile { dialect := .mysql } = .error (.unsupportedJoin .mysql .full)) ∧
      (¬r.StopsAtFullJoin → r.compile { dialect := .mysql } = .ok ⟨mysql, t.params⟩) ∧
      (t ++ r.bareOffset "").write '"' (questions t.params.length) = some generic ∧
      (t ++ r.bareOffset "").write '"' (numbers t.params.length) = some postgres ∧
      (t ++ r.bareOffset "LIMIT -1 ").write '"' (questions t.params.length) = some sqlite ∧
      (t ++ r.bareOffset "LIMIT 18446744073709551615 ").write '`' (questions t.params.length)
        = some mysql) ∨
    ∃ e,
      r.compile { dialect := .generic } = .error e ∧
      r.compile { dialect := .postgres } = .error e ∧
      r.compile { dialect := .sqlite } = .error e ∧
      (r.StopsAtFullJoin →
        r.compile { dialect := .mysql } = .error (.unsupportedJoin .mysql .full)) ∧
      (¬r.StopsAtFullJoin →
        ∃ e', r.compile { dialect := .mysql } = .error e' ∧ r.Requoted e e') := by
  have hstops : r.StopsAtFullJoin →
      r.compile { dialect := .mysql } = .error (.unsupportedJoin .mysql .full) :=
    fun hfull => compile_eq_error.mpr (template_mysql_of_stopsAtFullJoin hfull)
  cases h₀ : r.template { dialect := .generic } with
  | error e =>
    have hsame : ∀ {d : Dialect}, d ≠ .mysql → r.compile { dialect := d } = .error e := by
      intro d hd
      rw [compile_eq_error, ← failure?_eq_some, failure?_template_eq_generic r hd, h₀,
        failure?_error]
    refine .inr ⟨e, hsame (by decide), hsame (by decide), hsame (by decide), hstops, ?_⟩
    intro hfull
    obtain ⟨e', he', hquoted⟩ := (template_mysql hfull).2 e h₀
    exact ⟨e', compile_eq_error.mpr he', hquoted⟩
  | ok t₀ =>
    obtain ⟨t, ht⟩ := exists_writesAs h₀
    have hwrites : ∀ {d : Dialect}, d ≠ .mysql → r.WritesAs d t := by
      intro d hd
      apply ht d
      rw [← failure?_eq_none, failure?_template_eq_generic r hd, h₀, failure?_ok]
    obtain ⟨generic, hgeneric, hgeneric'⟩ := hwrites (d := .generic) (by decide)
    obtain ⟨postgres, hpostgres, hpostgres'⟩ := hwrites (d := .postgres) (by decide)
    obtain ⟨sqlite, hsqlite, hsqlite'⟩ := hwrites (d := .sqlite) (by decide)
    rw [Dialect.placeholdersFrom_eq_questions (by decide)] at hgeneric' hsqlite'
    rw [Dialect.placeholdersFrom_postgres] at hpostgres'
    -- there is a text for mysql also where mysql does not compile the command
    obtain ⟨mysql, hmysql'⟩ : ∃ mysql, (t ++ r.bareOffset Dialect.mysql.beforeBareOffset).write '`'
        (questions t.params.length) = some mysql :=
      exists_write (by rw [params_append, params_bareOffset, List.append_nil, length_questions])
    refine .inl ⟨t, generic, postgres, sqlite, mysql, hgeneric, hpostgres, hsqlite, hstops, ?_,
      hgeneric', hpostgres', hsqlite', hmysql'⟩
    intro hfull
    obtain ⟨sql, hsql, hsql'⟩ := ht .mysql ((template_mysql hfull).1 ⟨t₀, h₀⟩)
    rw [Dialect.placeholdersFrom_eq_questions (by decide)] at hsql'
    rw [hsql, Option.some.inj (hsql'.symm.trans hmysql')]

end Command

end BoundSql
