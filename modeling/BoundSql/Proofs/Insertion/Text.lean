import BoundSql.Proofs.Bindings

/-!
# The text of an insertion

An insertion is put together from the texts of its table, its columns and its values, row by row.
Both forms of the statement, the groups of values and the compound select, use the same texts.
-/

namespace BoundSql

namespace Template

/-- The texts of templates that are rendered one after the other. -/
def renderEach (d : Dialect) : Nat → List Template → List String
  | _, [] => []
  | bound, t :: ts => t.render d bound :: renderEach d (bound + t.params.length) ts

section Render

variable {d : Dialect} {bound : Nat}

@[simp] lemma render_nil : render d bound [] = "" := rfl

@[simp] lemma render_text_cons (s : String) (t : Template) :
    render d bound (.text s :: t) = s ++ render d bound t := by
  simp [render, chars, String.ofList_append]

lemma render_append (s t : Template) :
    render d bound (s ++ t) = render d bound s ++ render d (bound + s.params.length) t := by
  simp [render, chars_append, String.ofList_append]

lemma render_join (l : String) (ts : List Template) :
    render d bound (join l ts) = l.intercalate (renderEach d bound ts) := by
  induction ts generalizing bound with
  | nil => rfl
  | cons t ts ih =>
    cases ts with
    | nil => simp [renderEach]
    | cons u us =>
      rw [join_cons_cons, render_append, render_text_cons, ih]
      simp only [renderEach, String.intercalate_cons_cons, String.append_assoc]

/-- A template that binds nothing has the same text wherever it stands. -/
lemma render_of_params_eq_nil {t : Template} (h : t.params = []) :
    render d bound t = render d 0 t := by
  have hchars : chars d bound t = chars d 0 t := by
    induction t with
    | nil => rfl
    | cons p t ih =>
      cases p with
      | text s => exact congrArg (s.toList ++ ·) (ih h)
      | name s => exact congrArg ((d.quote s).toList ++ ·) (ih h)
      | slot v => simp at h
  rw [render, render, hchars]

lemma renderEach_of_params_eq_nil {ts : List Template} (h : ∀ t ∈ ts, t.params = []) :
    renderEach d bound ts = ts.map (render d 0) := by
  induction ts generalizing bound with
  | nil => rfl
  | cons t ts ih =>
    have ht : t.params = [] := h t List.mem_cons_self
    rw [renderEach, ih fun u hu => h u (List.mem_cons_of_mem _ hu), render_of_params_eq_nil ht,
      List.map_cons]

end Render

end Template

open Template

namespace Value

/-- The text of a value: that of an expression, or the placeholder after the `bound` ones that
have been written before. -/
def text (d : Dialect) (bound : Nat) : Value → String
  | .expr e => e.raw
  | .param _ => d.placeholder (bound + 1)

/-- The texts of values, one after the other. -/
def texts (d : Dialect) : Nat → List Value → List String
  | _, [] => []
  | bound, v :: vs => v.text d bound :: texts d (bound + v.bound?.toList.length) vs

/-- The texts of groups of values, one after the other. -/
def groupTexts (d : Dialect) : Nat → List (List Value) → List (List String)
  | _, [] => []
  | bound, vs :: rest =>
    texts d bound vs :: groupTexts d (bound + (vs.filterMap Value.bound?).length) rest

variable {d : Dialect} {bound : Nat}

@[simp] lemma render_template (v : Value) : v.template.render d bound = v.text d bound := by
  cases v with
  | expr e => simp [template, text]
  | param v => simp [template, text, render, chars]

@[simp] lemma length_texts (vs : List Value) : (texts d bound vs).length = vs.length := by
  induction vs generalizing bound with
  | nil => rfl
  | cons v vs ih => simp [texts, ih]

lemma map_length_groupTexts (groups : List (List Value)) :
    (groupTexts d bound groups).map List.length = groups.map List.length := by
  induction groups generalizing bound with
  | nil => rfl
  | cons vs rest ih => simp [groupTexts, ih]

lemma renderEach_template (vs : List Value) :
    renderEach d bound (vs.map Value.template) = texts d bound vs := by
  induction vs generalizing bound with
  | nil => rfl
  | cons v vs ih =>
    rw [List.map_cons, renderEach, ih, render_template, params_template, texts]

/-- Around each group of values there may be more text, if that binds nothing. -/
lemma renderEach_groups {wrap : List Value → Template} {wrapText : List String → String}
    (hparams : ∀ vs, (wrap vs).params = vs.filterMap Value.bound?)
    (hrender : ∀ bound vs, (wrap vs).render d bound = wrapText (texts d bound vs))
    (groups : List (List Value)) :
    renderEach d bound (groups.map wrap) = (groupTexts d bound groups).map wrapText := by
  induction groups generalizing bound with
  | nil => rfl
  | cons vs rest ih =>
    rw [List.map_cons, renderEach, ih, hrender, hparams, groupTexts, List.map_cons]

end Value

@[simp] lemma render_valueList {d : Dialect} {bound : Nat} (vs : List Value) :
    (valueList vs).render d bound = ", ".intercalate (Value.texts d bound vs) := by
  rw [valueList, render_join, Value.renderEach_template]

/-- The texts that an insertion is written of: its table, its columns, and the values of each
row. -/
structure InsertionText where
  table : String
  columns : List String
  groups : List (List String)
deriving DecidableEq

namespace InsertionText

/-- What both forms of the statement start with. -/
def opening (i : InsertionText) : String :=
  "INSERT INTO " ++ i.table ++ " (" ++ ", ".intercalate i.columns ++ ") "

/-- A group of values. -/
def group (items : List String) : String := "(" ++ ", ".intercalate items ++ ")"

/-- The statement with one group of values for each row. -/
def plain (i : InsertionText) : String :=
  i.opening ++ "VALUES " ++ ", ".intercalate (i.groups.map group)

/-- A select without a table. -/
def select (items : List String) : String := "SELECT " ++ ", ".intercalate items

/-- Items with the names of the columns. -/
def named (i : InsertionText) (items : List String) : List String :=
  List.zipWith (fun item column => item ++ " AS " ++ column) items i.columns

/-- One select for each row, of which the first names the columns. -/
def selects (i : InsertionText) : List String :=
  match i.groups with
  | [] => []
  | items :: rest => select (i.named items) :: rest.map select

/-- The statement with a compound select. -/
def compound (i : InsertionText) : String :=
  i.opening ++ " UNION ALL ".intercalate i.selects

end InsertionText

namespace Insertion

/-- The texts of an insertion in a dialect. -/
def text (d : Dialect) (i : Insertion) : InsertionText where
  table := i.table.render d 0
  columns := i.columns.map (render d 0)
  groups := Value.groupTexts d 0 i.groups

variable {d : Dialect} {i : Insertion}

lemma render_opening (h : i.Regular) (bound : Nat) :
    i.opening.render d bound = (i.text d).opening := by
  simp [opening, InsertionText.opening, text, render_append, render_join, h.table,
    render_of_params_eq_nil h.table, renderEach_of_params_eq_nil h.columns, String.append_assoc]

/-- The text of groups of values. -/
theorem render_plain (h : i.Regular) : i.plain.render d 0 = (i.text d).plain := by
  have hgroups : ∀ bound, renderEach d bound
      (i.groups.map fun vs => .text "(" :: valueList vs ++ [.text ")"])
        = (Value.groupTexts d bound i.groups).map InsertionText.group := by
    intro bound
    apply Value.renderEach_groups
    · intro vs
      simp
    · intro bound vs
      simp [InsertionText.group, render_append, String.append_assoc]
  rw [plain, render_append, render_opening h, render_text_cons, render_join, hgroups,
    params_opening h, InsertionText.plain, String.append_assoc]
  rfl

/-- The names of the columns stand behind the values. -/
lemma renderEach_namedItems (h : ∀ u ∈ i.columns, u.params = []) (bound : Nat) (vs : List Value) :
    renderEach d bound (i.namedItems vs) = (i.text d).named (Value.texts d bound vs) := by
  rw [namedItems, InsertionText.named, text]
  dsimp only
  generalize i.columns = columns at h ⊢
  induction vs generalizing bound columns with
  | nil => rfl
  | cons v vs ih =>
    cases columns with
    | nil => rfl
    | cons c cs =>
      have hc : c.params = [] := h c List.mem_cons_self
      have hrest := ih (bound + v.bound?.toList.length) cs
        fun u hu => h u (List.mem_cons_of_mem _ hu)
      simp [renderEach, Value.texts, render_append, hc, render_of_params_eq_nil hc, hrest,
        String.append_assoc]

/-- The text of a compound select. -/
theorem render_compound (h : i.Regular) : i.compound.render d 0 = (i.text d).compound := by
  have hrest : ∀ bound groups, renderEach d bound
      (groups.map fun vs => .text "SELECT " :: valueList vs)
        = (Value.groupTexts d bound groups).map InsertionText.select := by
    intro bound groups
    apply Value.renderEach_groups
    · intro vs
      simp
    · intro bound vs
      simp [InsertionText.select]
  have hselects : renderEach d 0 i.selects = (i.text d).selects := by
    rw [selects, InsertionText.selects, text]
    cases hgroups : i.groups with
    | nil => rfl
    | cons vs rest =>
      have hvs : vs ∈ i.groups := by simp [hgroups]
      have hparams := params_namedItems h hvs
      have hitems := renderEach_namedItems (d := d) h.columns 0 vs
      simp only [renderEach, Value.groupTexts, hrest, render_text_cons, render_join, hitems,
        params_text_cons, params_join, hparams, InsertionText.select]
      rw [Nat.zero_add]
      rfl
  rw [compound, render_append, render_opening h, render_join, params_opening h,
    List.length_nil, hselects, InsertionText.compound]

end Insertion

/-- The statement that an insertion is, with groups of values or with a compound select. -/
def Insertion.statement (d : Dialect) (compound : Bool) (i : Insertion) : Statement where
  sql := if compound then (i.text d).compound else (i.text d).plain
  params := i.groups.flatten.filterMap Value.bound?

/-- Rows compile to the statement of what they insert. -/
lemma Query.compileInsert_eq (c : Config) (q : Query) (rows : Rows) :
    q.compileInsert c rows =
      Insertion.statement c.dialect (c.insertsCompound rows.toList)
        <$> Insertion.ofRows q.table rows.toList := by
  rw [compileInsert, insertTemplate]
  cases hi : Insertion.ofRows q.table rows.toList with
  | error e => rfl
  | ok i =>
    have hregular : i.Regular := Insertion.regular_of_ofRows hi
    change Except.ok (Template.statement c.dialect _) = Except.ok _
    rw [Insertion.statement, List.filterMap_flatten, ← List.flatMap_def]
    cases c.insertsCompound rows.toList with
    | true =>
      rw [if_pos rfl, if_pos rfl, ← Insertion.render_compound hregular,
        ← Insertion.params_compound hregular]
      rfl
    | false =>
      rw [if_neg Bool.false_ne_true, if_neg Bool.false_ne_true, ← Insertion.render_plain hregular,
        ← Insertion.params_plain hregular]
      rfl

lemma Query.compileInsert_eq_ok {c : Config} {q : Query} {rows : Rows} {s : Statement} :
    q.compileInsert c rows = .ok s ↔ ∃ i, Insertion.ofRows q.table rows.toList = .ok i ∧
      i.statement c.dialect (c.insertsCompound rows.toList) = s := by
  rw [compileInsert_eq, map_eq_ok]

/-- An insertion fails where its rows cannot be put together. -/
lemma Query.compileInsert_eq_error {c : Config} {q : Query} {rows : Rows} {e : Error} :
    q.compileInsert c rows = .error e ↔ Insertion.ofRows q.table rows.toList = .error e := by
  rw [compileInsert_eq]
  cases Insertion.ofRows q.table rows.toList <;> simp [Functor.map, Except.map]

end BoundSql
