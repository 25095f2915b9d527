import BoundSql.Proofs.Bindings

/-!
# Replacing bound values

A function on values can be applied to every value that a command binds, and to every slot of a
template. Compiling commutes with that: the template of the changed command is the changed
template, and an error stays the error it is. So nothing that is bound has a say in what the
statement looks like or in whether there is one.
-/

namespace BoundSql

/-! ### Commands with their bound values replaced -/

/-- A value with what it binds replaced. -/
def Value.mapParam (f : SqlValue → SqlValue) : Value → Value
  | .expr e => .expr e
  | .param v => .param (f v)

/-- A predicate with the values that it binds replaced. -/
def Predicate.mapParams (f : SqlValue → SqlValue) : Predicate → Predicate
  | .compare column op value => .compare column op (value.mapParam f)
  | .isIn column values => .isIn column (values.map (Value.mapParam f))
  | .notIn column values => .notIn column (values.map (Value.mapParam f))
  | .isNull column => .isNull column
  | .notNull column => .notNull column
  | .between column low high => .between column (low.mapParam f) (high.mapParam f)
  | .notBetween column low high => .notBetween column (low.mapParam f) (high.mapParam f)
  | .compareColumns first op second => .compareColumns first op second
  | .raw sql => .raw sql

/-- A clause with the values that it binds replaced. -/
def Clause.mapParams (f : SqlValue → SqlValue) (c : Clause) : Clause :=
  { c with predicate := c.predicate.mapParams f }

/-- A query with the values that it binds replaced. -/
def Query.mapParams (f : SqlValue → SqlValue) (q : Query) : Query :=
  { q with clauses := q.clauses.map (Clause.mapParams f) }

/-- An entry of a row with the value that it binds replaced. -/
def Row.mapEntry (f : SqlValue → SqlValue) (e : String × Value) : String × Value :=
  (e.1, e.2.mapParam f)

/-- A row with the values that it binds replaced. -/
def Row.mapParams (f : SqlValue → SqlValue) (r : Row) : Row where
  entries := r.entries.map (mapEntry f)
  nodup := by simpa [List.map_map, Function.comp_def, mapEntry] using r.nodup

/-- Rows with the values that they bind replaced. -/
def Rows.mapParams (f : SqlValue → SqlValue) : Rows → Rows
  | .single r => .single (r.mapParams f)
  | .batch rs => .batch (rs.map (Row.mapParams f))

/-- A command with the values that it binds replaced. -/
def Command.mapParams (f : SqlValue → SqlValue) : Command → Command
  | .select q => .select (q.mapParams f)
  | .insert q rows => .insert (q.mapParams f) (rows.mapParams f)
  | .update q row => .update (q.mapParams f) (row.mapParams f)
  | .delete q => .delete (q.mapParams f)

/-! ### Templates with their slots replaced -/

/-- A piece with the value of its slot replaced. -/
def Piece.mapSlot (f : SqlValue → SqlValue) : Piece → Piece
  | .text s => .text s
  | .name s => .name s
  | .slot v => .slot (f v)

/-- A template with the values of its slots replaced. -/
def Template.mapSlots (f : SqlValue → SqlValue) (t : Template) : Template :=
  t.map (Piece.mapSlot f)

variable {f : SqlValue → SqlValue} {d : Dialect} {c : Config}

namespace Template

@[simp] lemma mapSlots_nil : mapSlots f [] = [] := rfl

@[simp] lemma mapSlots_text_cons (s : String) (t : Template) :
    mapSlots f (.text s :: t) = .text s :: mapSlots f t := rfl

@[simp] lemma mapSlots_append (s t : Template) :
    mapSlots f (s ++ t) = mapSlots f s ++ mapSlots f t := List.map_append

@[simp] lemma mapSlots_join (l : String) (ts : List Template) :
    mapSlots f (join l ts) = join l (ts.map (mapSlots f)) := by
  induction ts with
  | nil => rfl
  | cons t ts ih =>
    cases ts with
    | nil => simp
    | cons u us => simpa using ih

@[simp] lemma isEmpty_mapSlots (t : Template) : (mapSlots f t).isEmpty = t.isEmpty :=
  List.isEmpty_map

/-- The text of a template does not depend on the values of its slots. -/
@[simp] lemma chars_mapSlots (bound : Nat) (t : Template) :
    chars d bound (mapSlots f t) = chars d bound t := by
  induction t generalizing bound with
  | nil => rfl
  | cons p t ih =>
    cases p with
    | text s | name s | slot v => exact congrArg (_ ++ ·) (ih _)

@[simp] lemma params_mapSlots (t : Template) : params (mapSlots f t) = (params t).map f := by
  induction t with
  | nil => rfl
  | cons p t ih =>
    cases p with
    | text s | name s => exact ih
    | slot v => exact congrArg (f v :: ·) ih

/-- A template without slots stays as it is. -/
lemma mapSlots_eq_self {t : Template} (h : params t = []) : mapSlots f t = t := by
  induction t with
  | nil => rfl
  | cons p t ih =>
    cases p with
    | text s | name s => exact congrArg (_ :: ·) (ih h)
    | slot v => simp at h

@[simp] lemma trimEnd_mapSlots (t : Template) :
    trimEnd (mapSlots f t) = mapSlots f (trimEnd t) := by
  induction t using List.reverseRecOn with
  | nil => rfl
  | append_singleton t p ih =>
    cases p with
    | text s =>
      rw [mapSlots_append, mapSlots_text_cons, mapSlots_nil, trimEnd_concat_text,
        trimEnd_concat_text, ih]
      split_ifs
      · rfl
      · rw [mapSlots_append, mapSlots_text_cons, mapSlots_nil]
    | name s => simp [mapSlots, Piece.mapSlot]
    | slot v => simp [mapSlots, Piece.mapSlot]

end Template

open Template

/-! ### Compiling commutes with replacing -/

/-- Nothing changes where nothing is bound. -/
lemma map_mapSlots_eq_self {x : Except Error Template} (h : ∀ t, x = .ok t → params t = []) :
    mapSlots f <$> x = x := by
  cases x with
  | error e => rfl
  | ok t => exact congrArg Except.ok (mapSlots_eq_self (h t rfl))

@[simp] lemma Value.template_mapParam (v : Value) :
    (v.mapParam f).template = mapSlots f v.template := by
  cases v <;> rfl

@[simp] lemma valueList_map (vs : List Value) :
    valueList (vs.map (Value.mapParam f)) = mapSlots f (valueList vs) := by
  simp [valueList, Function.comp_def]

lemma rangeComparison_mapParam (column : Identifier) (keyword : String) (low high : Value) :
    rangeComparison column keyword (low.mapParam f) (high.mapParam f)
      = mapSlots f <$> rangeComparison column keyword low high := by
  rw [rangeComparison, rangeComparison]
  cases hc : column.template with
  | error e => rfl
  | ok c =>
    have hc : mapSlots f c = c := mapSlots_eq_self (column.params_template hc)
    simp [bind, Except.bind, pure, Except.pure, Functor.map, Except.map, hc]

lemma listMembership_map (column : Identifier) (keyword : String) (vs : List Value) :
    listMembership column keyword (vs.map (Value.mapParam f))
      = mapSlots f <$> listMembership column keyword vs := by
  rw [listMembership, listMembership]
  cases hc : column.template with
  | error e => rfl
  | ok c =>
    have hc : mapSlots f c = c := mapSlots_eq_self (column.params_template hc)
    simp [bind, Except.bind, pure, Except.pure, Functor.map, Except.map, hc]

lemma Predicate.template_mapParams (p : Predicate) :
    (p.mapParams f).template = mapSlots f <$> p.template := by
  cases p with
  | compare column op value =>
    simp only [mapParams, template]
    cases hc : column.template with
    | error e => rfl
    | ok c =>
      have hc : mapSlots f c = c := mapSlots_eq_self (column.params_template hc)
      simp [bind, Except.bind, pure, Except.pure, Functor.map, Except.map, hc]
  | isIn column values | notIn column values =>
    cases values with
    | nil => rfl
    | cons v vs => exact listMembership_map column _ (v :: vs)
  | isNull column | notNull column =>
    refine (map_mapSlots_eq_self fun t ht => ?_).symm
    exact params_template ht
  | between column low high | notBetween column low high =>
    exact rangeComparison_mapParam column _ low high
  | compareColumns first op second =>
    exact (map_mapSlots_eq_self fun t ht => params_columnComparison ht).symm
  | raw sql => rfl

/-- What has been compiled, with the values of its slots replaced. -/
def Outcome.mapSlots (f : SqlValue → SqlValue) (o : Outcome) : Outcome :=
  { o with template := o.template.mapSlots f }

lemma Outcome.toExcept_mapSlots (o : Outcome) :
    (o.mapSlots f).toExcept = Template.mapSlots f <$> o.toExcept := by
  obtain ⟨t, error?⟩ := o
  cases error? <;> rfl

lemma clauseChain_mapParams (cs : List Clause) :
    clauseChain (cs.map (Clause.mapParams f)) = (clauseChain cs).mapSlots f := by
  induction cs with
  | nil => rfl
  | cons c cs ih =>
    simp only [List.map_cons, clauseChain, ih, Clause.mapParams, Predicate.template_mapParams]
    cases c.predicate.template with
    | error e => rfl
    | ok t => simp [Outcome.mapSlots, Functor.map, Except.map]

lemma whereClause_mapParams (cs : List Clause) :
    whereClause (cs.map (Clause.mapParams f)) = (whereClause cs).mapSlots f := by
  rw [whereClause, whereClause, clauseChain_mapParams, List.isEmpty_map]
  split_ifs <;> rfl

namespace Query

/-- Of the components only the clauses bind values. -/
lemma component_mapParams (q : Query) (x : Component) :
    ((q.mapParams f).component d x).toExcept
      = Template.mapSlots f <$> (q.component d x).toExcept := by
  cases x with
  | clauses =>
    change (whereClause (q.clauses.map (Clause.mapParams f))).toExcept = _
    rw [whereClause_mapParams, Outcome.toExcept_mapSlots]
    rfl
  | aggregate | columns | table | joins | groups | sortKeys | limit | offset =>
    refine (map_mapSlots_eq_self fun t ht => ?_).symm
    simp [params_component ht]

lemma selectTemplate_mapParams (q : Query) :
    (q.mapParams f).selectTemplate d = Template.mapSlots f <$> q.selectTemplate d := by
  have hparts : Component.all.mapM (fun x => ((q.mapParams f).component d x).toExcept)
      = List.map (Template.mapSlots f) <$> Component.all.mapM fun x => (q.component d x).toExcept :=
    mapM_of_forall q.component_mapParams Component.all
  rw [selectTemplate, selectTemplate, hparts]
  cases Component.all.mapM fun x => (q.component d x).toExcept with
  | error e => rfl
  | ok parts =>
    have hfilter : (parts.map (Template.mapSlots f)).filter (fun t => !t.isEmpty)
        = (parts.filter fun t => !t.isEmpty).map (Template.mapSlots f) := by
      simp only [List.filter_map, Function.comp_def, isEmpty_mapSlots]
    exact congrArg Except.ok ((congrArg (join " ") hfilter).trans (mapSlots_join " " _).symm)

lemma deleteTemplate_mapParams (q : Query) :
    (q.mapParams f).deleteTemplate = Template.mapSlots f <$> q.deleteTemplate := by
  simp only [deleteTemplate, mapParams, whereClause_mapParams, Outcome.toExcept_mapSlots]
  cases ht : q.table.template with
  | error e => rfl
  | ok t =>
    have ht : Template.mapSlots f t = t := mapSlots_eq_self (Identifier.params_template ht)
    cases (whereClause q.clauses).toExcept with
    | error e => rfl
    | ok u =>
      simp [bind, Except.bind, pure, Except.pure, Functor.map, Except.map, ← trimEnd_mapSlots, ht]

end Query

namespace Row

@[simp] lemma columns_mapParams (r : Row) : (r.mapParams f).columns = r.columns := by
  simp [columns, mapParams, mapEntry, Function.comp_def]

@[simp] lemma get?_mapParams (r : Row) (column : String) :
    (r.mapParams f).get? column = (r.get? column).map (Value.mapParam f) := by
  simp only [get?, mapParams]
  induction r.entries with
  | nil => rfl
  | cons e es ih =>
    have hkey : (mapEntry f e).1 = e.1 := rfl
    rw [List.map_cons, List.lookup_cons, List.lookup_cons, ih, hkey]
    cases column == e.1 <;> rfl

@[simp] lemma isEmpty_mapParams (r : Row) : (r.mapParams f).isEmpty = r.isEmpty := List.isEmpty_map

lemma aligned_mapParams (first r : Row) (index : Nat) :
    (first.mapParams f).aligned index (r.mapParams f)
      = List.map (Value.mapParam f) <$> first.aligned index r := by
  simp only [aligned, columns_mapParams, get?_mapParams]
  split
  · rfl
  · apply mapM_of_forall
    intro column
    cases r.get? column <;> rfl

lemma alignedFrom_mapParams (first : Row) (index : Nat) (rows : List Row) :
    (first.mapParams f).alignedFrom index (rows.map (Row.mapParams f))
      = List.map (List.map (Value.mapParam f)) <$> first.alignedFrom index rows := by
  induction rows generalizing index with
  | nil => rfl
  | cons r rs ih =>
    simp only [List.map_cons, alignedFrom, aligned_mapParams, ih]
    cases first.aligned index r with
    | error e => rfl
    | ok vs => cases first.alignedFrom (index + 1) rs <;> rfl

end Row

namespace Insertion

/-- An insertion with the values that it binds replaced. -/
def mapParams (f : SqlValue → SqlValue) (i : Insertion) : Insertion :=
  { i with groups := i.groups.map (List.map (Value.mapParam f)) }

lemma ofRows_mapParams (table : Identifier) (rows : List Row) :
    ofRows table (rows.map (Row.mapParams f)) = mapParams f <$> ofRows table rows := by
  cases rows with
  | nil => rfl
  | cons first rest =>
    have hgroups := first.alignedFrom_mapParams (f := f) 0 (first :: rest)
    rw [List.map_cons] at hgroups
    simp only [List.map_cons, ofRows, Row.isEmpty_mapParams, Row.columns_mapParams, hgroups]
    split_ifs
    · rfl
    cases table.template with
    | error e => rfl
    | ok t =>
      cases first.columns.mapM columnReference with
      | error e => rfl
      | ok columns => cases first.alignedFrom 0 (first :: rest) <;> rfl

variable {i : Insertion}

lemma plain_mapParams (h : i.Regular) : (i.mapParams f).plain = mapSlots f i.plain := by
  have hopening : mapSlots f i.opening = i.opening := mapSlots_eq_self (params_opening h)
  have hgroups : ((i.mapParams f).groups.map fun vs => .text "(" :: valueList vs ++ [.text ")"])
      = (i.groups.map fun vs => .text "(" :: valueList vs ++ [.text ")"]).map (mapSlots f) := by
    simp [mapParams, Function.comp_def]
  rw [plain, plain, hgroups, mapSlots_append, hopening, mapSlots_text_cons, mapSlots_join]
  rfl

lemma namedItems_mapParams (hcolumns : ∀ u ∈ i.columns, params u = []) (vs : List Value) :
    (i.mapParams f).namedItems (vs.map (Value.mapParam f))
      = (i.namedItems vs).map (mapSlots f) := by
  simp only [namedItems, mapParams, List.zipWith_map_left, List.map_zipWith]
  generalize i.columns = columns at hcolumns
  induction columns generalizing vs with
  | nil => simp
  | cons c cs ih =>
    cases vs with
    | nil => rfl
    | cons v vs =>
      have hc : mapSlots f c = c := mapSlots_eq_self (hcolumns c List.mem_cons_self)
      have hcs := ih vs fun u hu => hcolumns u (List.mem_cons_of_mem _ hu)
      rw [List.zipWith_cons_cons, List.zipWith_cons_cons, hcs, Value.template_mapParam,
        mapSlots_append, mapSlots_text_cons, hc]

lemma compound_mapParams (h : i.Regular) :
    (i.mapParams f).compound = mapSlots f i.compound := by
  have hopening : mapSlots f i.opening = i.opening := mapSlots_eq_self (params_opening h)
  have hselects : (i.mapParams f).selects = i.selects.map (mapSlots f) := by
    simp only [selects]
    cases hgroups : i.groups with
    | nil => simp [mapParams, hgroups]
    | cons vs rest =>
      have hitems := namedItems_mapParams (f := f) h.columns vs
      simp only [mapParams, hgroups, List.map_cons] at hitems ⊢
      simp [hitems, Function.comp_def]
  rw [compound, compound, hselects, mapSlots_append, hopening, mapSlots_join]
  rfl

end Insertion

@[simp] lemma Rows.toList_mapParams (rows : Rows) :
    (rows.mapParams f).toList = rows.toList.map (Row.mapParams f) := by
  cases rows <;> rfl

@[simp] lemma Config.insertsCompound_map (rows : List Row) :
    c.insertsCompound (rows.map (Row.mapParams f)) = c.insertsCompound rows := by
  simp [insertsCompound]

lemma assignment_mapEntry (e : String × Value) :
    assignment (Row.mapEntry f e) = mapSlots f <$> assignment e := by
  simp only [assignment, Row.mapEntry]
  cases hc : columnReference e.1 with
  | error e => rfl
  | ok t =>
    have hc : mapSlots f t = t := mapSlots_eq_self (params_columnReference hc)
    simp [bind, Except.bind, pure, Except.pure, Functor.map, Except.map, hc]

namespace Query

lemma insertTemplate_mapParams (q : Query) (rows : Rows) :
    (q.mapParams f).insertTemplate c (rows.mapParams f)
      = Template.mapSlots f <$> q.insertTemplate c rows := by
  simp only [insertTemplate, mapParams, Rows.toList_mapParams, Insertion.ofRows_mapParams,
    Config.insertsCompound_map]
  cases hi : Insertion.ofRows q.table rows.toList with
  | error e => rfl
  | ok i =>
    have hregular : i.Regular := Insertion.regular_of_ofRows hi
    change Except.ok _ = Except.ok _
    split_ifs
    · rw [Insertion.compound_mapParams hregular]
    · rw [Insertion.plain_mapParams hregular]

lemma updateTemplate_mapParams (q : Query) (row : Row) :
    (q.mapParams f).updateTemplate (row.mapParams f)
      = Template.mapSlots f <$> q.updateTemplate row := by
  have hentries : (row.mapParams f).entries.mapM assignment
      = List.map (Template.mapSlots f) <$> row.entries.mapM assignment := by
    rw [Row.mapParams, List.mapM_map]
    exact mapM_of_forall assignment_mapEntry row.entries
  simp only [updateTemplate, Row.isEmpty_mapParams, hentries]
  split_ifs
  · rfl
  simp only [mapParams, whereClause_mapParams, Outcome.toExcept_mapSlots]
  cases ht : q.table.template with
  | error e => rfl
  | ok t =>
    have ht : Template.mapSlots f t = t := mapSlots_eq_self (Identifier.params_template ht)
    cases row.entries.mapM assignment with
    | error e => rfl
    | ok us =>
      cases (whereClause q.clauses).toExcept with
      | error e => rfl
      | ok u =>
        simp [bind, Except.bind, pure, Except.pure, Functor.map, Except.map, ← trimEnd_mapSlots, ht]

end Query

/-- Compiling commutes with replacing what is bound. -/
lemma Command.template_mapParams (r : Command) :
    (r.mapParams f).template c = mapSlots f <$> r.template c := by
  cases r with
  | select q => exact q.selectTemplate_mapParams
  | insert q rows => exact q.insertTemplate_mapParams rows
  | update q row => exact q.updateTemplate_mapParams row
  | delete q => exact q.deleteTemplate_mapParams

end BoundSql
