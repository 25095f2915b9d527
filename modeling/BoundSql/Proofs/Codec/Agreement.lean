import BoundSql.Proofs.Codec.Alike

/-!
# Two ways to decode a text

A query is decoded straight from a text, in the order of the text, or from the document that the
text is, with its keys in order. As long as no object repeats a key both ways lead to the same
query, and neither the order of the keys nor keys that a record does not have matter.
-/

namespace BoundSql

open Json (Reordered)

/-- What is made of related members is the same if it is the same for reordered ones. -/
lemma Json.bind_congr_of_rel {α : Type} {f : Json → Option α}
    (hf : ∀ {v v' : Json}, Reordered v v' → f v = f v') {v? v'? : Option Json}
    (h : Option.Rel Reordered v? v'?) : v?.bind f = v'?.bind f := by
  cases h with
  | none => rfl
  | some hv => exact hf hv

/-- What is decoded alike from members is the same, or else the same default. -/
lemma ReadAlike.elim_eq {α : Type} {R : Json.Relation} {read read' : Draft → Decoded α}
    (h : ReadAlike R read read') {v? v'? : Option Json} (hrel : Option.Rel R v? v'?)
    (hv : ∀ v, v? = some v → v.Distinct) (hv' : ∀ v, v'? = some v → v.Distinct) (a? : Option α) :
    v?.elim a? (fun v => (read v.draft).toOption)
      = v'?.elim a? fun v => (read' v.draft).toOption := by
  cases hrel with
  | none => rfl
  | some hR => exact h _ _ (hv _ rfl) (hv' _ rfl) hR

/-- What is decoded from nothing but objects is decoded alike if it is so from objects. -/
lemma ReadAlike.of_objects {α : Type} {R : Json.Relation} {read read' : Draft → Decoded α}
    (houtline : ∀ v v', R v v' → v.outline = v'.outline)
    (hnone : ∀ v : Json, (∀ fields, v ≠ .obj fields) →
      (read v.draft).toOption = none ∧ (read' v.draft).toOption = none)
    (hobj : ∀ fields fields', (Json.obj fields).Distinct → (Json.obj fields').Distinct →
      R (.obj fields) (.obj fields') →
        (read (Json.obj fields).draft).toOption = (read' (Json.obj fields').draft).toOption) :
    ReadAlike R read read' := by
  intro v v' hv hv' hR
  have hsame := houtline v v' hR
  by_cases h : ∃ fields, v = .obj fields
  · obtain ⟨fields, rfl⟩ := h
    cases v' with
    | obj fields' => exact hobj fields fields' hv hv' hR
    | null | bool b | num n | str s | arr items => simp [Json.outline] at hsame
  · have h' : ∀ fields', v' ≠ .obj fields' := by
      rintro fields' rfl
      cases v with
      | obj fields => exact h ⟨fields, rfl⟩
      | null | bool b | num n | str s | arr items => simp [Json.outline] at hsame
    rw [(hnone v (not_exists.mp h)).1, (hnone v' h').2]

/-! ### Aggregates and sort keys -/

namespace Aggregate

/-- The members of an aggregate. -/
def members : List (String × Json.Relation) := [("aggregator", Reordered), ("column", Reordered)]

lemma orderless_shape : shape.Orderless where
  other := rfl
  apart := by
    simp only [shape, List.pairwise_cons, List.forall_mem_cons, List.not_mem_nil,
      List.Pairwise.nil, false_imp_iff, implies_true, and_true]
    exact Field.Apart.of (by decide) (fun _ _ => rfl) (fun _ _ => rfl) fun _ _ _ => rfl

lemma readAlike_read (r r' : Reading) :
    ReadAlike (Json.Alike members) (Aggregate.read r) (Aggregate.read r') := by
  have hfields : Shape.FieldsAgree members shape.fields shape.fields :=
    .cons (.of Draft.readAlike_readString) (.cons (.of Identifier.readAlike_read) .nil)
  apply hfields.readAlike orderless_shape orderless_shape
  · simp [shape, Field.isSet_of]
  · simp [shape, Field.isSet_of]

end Aggregate

namespace SortKey

/-- The members of a sort key. -/
def members : List (String × Json.Relation) := [("column", Reordered), ("direction", Reordered)]

lemma orderless_shape : shape.Orderless where
  other := rfl
  apart := by
    simp only [shape, List.pairwise_cons, List.forall_mem_cons, List.not_mem_nil,
      List.Pairwise.nil, false_imp_iff, implies_true, and_true]
    exact Field.Apart.of (by decide) (fun _ _ => rfl) (fun _ _ => rfl) fun _ _ _ => rfl

lemma readAlike_read (r r' : Reading) :
    ReadAlike (Json.Alike members) (SortKey.read r) (SortKey.read r') := by
  have hfields : Shape.FieldsAgree members shape.fields shape.fields :=
    .cons (.of Identifier.readAlike_read) (.cons (.of Direction.readAlike_read) .nil)
  apply hfields.readAlike orderless_shape orderless_shape
  · simp [shape, Field.isSet_of]
  · simp [shape, Field.isSet_of]

end SortKey

/-! ### Joins -/

namespace Join

/-- The members of a join: its type, its table, and those of its condition. -/
def members : List (String × Json.Relation) :=
  [("type", Reordered), ("table", Reordered), ("column1", Reordered), ("operator", Reordered),
    ("column2", Reordered)]

lemma ofObject?_congr {fields fields' : List (String × Json)}
    (h : Json.Alike members (.obj fields) (.obj fields')) :
    ofObject? fields = ofObject? fields' := by
  have htype : Option.Rel Reordered (fields.lookup "type") (fields'.lookup "type") :=
    h.member? 0 _ _ rfl
  have htable : Option.Rel Reordered (fields.lookup "table") (fields'.lookup "table") :=
    h.member? 1 _ _ rfl
  have hfirst : Option.Rel Reordered (fields.lookup "column1") (fields'.lookup "column1") :=
    h.member? 2 _ _ rfl
  have hoperator : Option.Rel Reordered (fields.lookup "operator") (fields'.lookup "operator") :=
    h.member? 3 _ _ rfl
  have hsecond : Option.Rel Reordered (fields.lookup "column2") (fields'.lookup "column2") :=
    h.member? 4 _ _ rfl
  have hname : ∀ {v v' : Json}, Reordered v v' →
      ((v.nameOf? .setAside).bind fun s => Operator.names.lookup s)
        = (v'.nameOf? .setAside).bind fun s => Operator.names.lookup s := by
    intro v v' hv
    rw [Json.nameOf?_congr Iff.rfl hv]
  have hkind : JoinKind.ofObject? fields = JoinKind.ofObject? fields' := by
    rw [JoinKind.ofObject?, JoinKind.ofObject?]
    generalize fields.lookup "type" = v?, fields'.lookup "type" = v'? at htype
    cases htype with
    | none => rfl
    | some hv => simp only [Json.nameOf?_congr Iff.rfl hv]
  have hcondition : JoinCondition.ofObject? fields = JoinCondition.ofObject? fields' := by
    rw [JoinCondition.ofObject?, JoinCondition.ofObject?,
      Json.bind_congr_of_rel Identifier.ofJson?_congr hfirst,
      Json.bind_congr_of_rel hname hoperator,
      Json.bind_congr_of_rel Identifier.ofJson?_congr hsecond]
  rw [ofObject?, ofObject?, hkind, hcondition,
    Json.bind_congr_of_rel Identifier.ofJson?_congr htable]

lemma toOption_read_obj {r : Reading} (hr : r ≠ .setAside) {fields : List (String × Json)}
    (hnodup : (fields.map Prod.fst).Nodup) :
    (Join.read r (Json.obj fields).draft).toOption = ofObject? fields := by
  apply Option.ext
  intro j
  rw [Decoded.toOption_eq_some, read_obj hr hnodup]

lemma readAlike_read {r r' : Reading} (hr : r ≠ .setAside) (hr' : r' ≠ .setAside) :
    ReadAlike (Json.Alike members) (Join.read r) (Join.read r') := by
  apply ReadAlike.of_objects (fun _ _ h => h.outline)
  · intro v hv
    cases v with
    | obj fields => exact absurd rfl (hv fields)
    | null | bool b | num n | str s | arr items => exact ⟨rfl, rfl⟩
  · intro fields fields' hfields hfields' halike
    rw [toOption_read_obj hr hfields.nodup, toOption_read_obj hr' hfields'.nodup,
      ofObject?_congr halike]

end Join

/-! ### Clauses -/

namespace PredicateParts

/-- The fields of predicates stand apart, of whatever kind the predicates are. -/
lemma pairwise_apart : allFields.Pairwise Field.Apart := by
  simp only [allFields, List.pairwise_cons, List.forall_mem_cons, List.not_mem_nil,
    List.Pairwise.nil, false_imp_iff, implies_true, and_true]
  and_intros
  all_goals exact Field.Apart.of (by decide) (fun _ _ => rfl) (fun _ _ => rfl) fun _ _ _ => rfl

lemma isSet_empty {f : Field PredicateParts} (hf : f ∈ allFields) : f.isSet {} = false := by
  revert f
  simp only [allFields, List.forall_mem_cons, List.not_mem_nil, false_imp_iff, implies_true,
    and_true]
  and_intros <;> rfl

end PredicateParts

namespace PredicateKind

/-- The members of a predicate of a kind. -/
def members (kind : PredicateKind) : List (String × Json.Relation) :=
  kind.fields.map fun f => (f.name, Reordered)

lemma orderless_shape (kind : PredicateKind) : kind.shape.Orderless where
  other := rfl
  apart := by
    have hnames : kind.fields.Pairwise fun f g => f.name ≠ g.name := by
      apply List.pairwise_map.mp
      cases kind <;> decide
    apply hnames.imp_of_mem
    intro f g hf hg hname
    apply PredicateParts.pairwise_apart.forall (kind.fields_subset hf) (kind.fields_subset hg)
    rintro rfl
    exact hname rfl

open PredicateParts in
lemma fieldsAgree (kind : PredicateKind) :
    Shape.FieldsAgree kind.members kind.fields kind.fields := by
  have hcolumn : columnField.Agree ("column", Reordered) columnField :=
    .of Identifier.readAlike_read
  have hoperator : operatorField.Agree ("operator", Reordered) operatorField :=
    .of (Draft.readAlike_readName Iff.rfl _)
  have hlow : lowField.Agree ("low", Reordered) lowField := .of Value.readAlike_read
  have hhigh : highField.Agree ("high", Reordered) highField := .of Value.readAlike_read
  cases kind with
  | compare => exact .cons hcolumn (.cons hoperator (.cons (.of Value.readAlike_read) .nil))
  | isIn | notIn => exact .cons hcolumn (.cons (.of Value.readAlike_read.readList) .nil)
  | isNull | notNull => exact .cons hcolumn .nil
  | between | notBetween => exact .cons hcolumn (.cons hlow (.cons hhigh .nil))
  | compareColumns =>
    exact .cons (.of Identifier.readAlike_read)
      (.cons hoperator (.cons (.of Identifier.readAlike_read) .nil))
  | raw => exact .cons (.of Draft.readAlike_readString) .nil

/-- The fields of a predicate that were set aside are decoded alike. -/
lemma toOption_readFields_congr (kind : PredicateKind) {fields fields' : List (String × Json)}
    (hfields : (Json.obj fields).Distinct) (hfields' : (Json.obj fields').Distinct)
    (h : Json.Alike kind.members (.obj fields) (.obj fields')) :
    (kind.readFields fields).toOption = (kind.readFields fields').toOption := by
  have hunset : ∀ f ∈ kind.shape.fields, f.isSet {} = false :=
    fun f hf => PredicateParts.isSet_empty (kind.fields_subset hf)
  have hagree : Shape.FieldsAgree kind.members kind.shape.fields kind.shape.fields :=
    kind.fieldsAgree
  exact hagree.readAlike kind.orderless_shape kind.orderless_shape hunset hunset
    (fun p => p.build kind) .setAside .setAside _ _ hfields hfields' h

end PredicateKind

/-- The kind of predicate that is named by fields that were set aside. -/
def PredicateKind.ofFields? (fields : List (String × Json)) : Option PredicateKind :=
  (fields.lookup "type").elim none fun v => (PredicateKind.read .setAside v.draft).toOption

/-- A predicate that was set aside is decoded by its kind. -/
lemma Predicate.toOption_readFields {fields : List (String × Json)}
    (hnodup : (fields.map Prod.fst).Nodup) :
    (Predicate.readFields .setAside (Json.draftFields fields) none).toOption
      = (PredicateKind.ofFields? fields).bind fun kind =>
        (kind.readFields (fields.filter (·.1 != "type"))).toOption := by
  rw [readFields, Decoded.toOption_bind, Shape.toOption_readObject,
    (picks_taggedShape .setAside).toOption_readFields hnodup, PredicateKind.ofFields?]
  cases fields.lookup "type" with
  | none => rfl
  | some v =>
    rw [Option.elim_some, Option.elim_some]
    cases (PredicateKind.read .setAside v.draft).toOption <;> rfl

namespace Clause

/-- The connector of a clause that is an object. -/
def connectorOf? (r : Reading) (fields : List (String × Json)) : Option Connector :=
  (fields.lookup "connector").elim (some .and) fun v => (Connector.read r v.draft).toOption

/-- A clause that is an object is its connector and its predicate, which does not have the
connector among its fields. -/
lemma toOption_read_obj {r : Reading} {fields : List (String × Json)}
    (hnodup : (fields.map Prod.fst).Nodup) :
    (Clause.read r (Json.obj fields).draft).toOption
      = (connectorOf? r fields).bind fun connector => (PredicateKind.ofFields? fields).bind
        fun kind => (kind.readFields ((fields.filter (·.1 != "connector")).filter
          (·.1 != "type"))).toOption.map (Clause.mk connector) := by
  have hkind : PredicateKind.ofFields? (fields.filter (·.1 != "connector"))
      = PredicateKind.ofFields? fields := by
    rw [PredicateKind.ofFields?, lookup_filter (by simp), PredicateKind.ofFields?]
  have hpredicate := Predicate.toOption_readFields
    (hnodup.sublist (List.filter_sublist (p := (·.1 != "connector")).map Prod.fst))
  rw [hkind] at hpredicate
  have hrest : ∀ connector : Connector, (Predicate.readFields .setAside
      (Json.draftFields (fields.filter (·.1 != "connector"))) none >>= fun predicate =>
        pure (Clause.mk connector predicate)).toOption = (PredicateKind.ofFields? fields).bind
        fun kind => (kind.readFields ((fields.filter (·.1 != "connector")).filter
          (·.1 != "type"))).toOption.map (Clause.mk connector) := by
    intro connector
    rw [Decoded.toOption_bind, hpredicate, Option.bind_assoc]
    simp only [Option.map_eq_bind]
    rfl
  rw [Json.draft, Clause.read, Decoded.toOption_bind, Shape.toOption_readObject,
    (picks_shape r).toOption_readFields hnodup, connectorOf?]
  cases fields.lookup "connector" with
  | none => exact hrest .and
  | some v =>
    rw [Option.elim_some, Option.elim_some]
    cases (Connector.read r v.draft).toOption with
    | none => rfl
    | some connector => exact hrest connector

/-- The members of a clause: its connector, the tag of its predicate, and the members that the
predicate has by its tag. -/
def members : Json → List (String × Json.Relation)
  | .obj fields => ("connector", Reordered) :: ("type", Reordered) ::
    (PredicateKind.ofFields? fields).elim [] PredicateKind.members
  | .null | .bool _ | .num _ | .str _ | .arr _ => []

/-- Whether two clauses have alike members. -/
def Alike (v v' : Json) : Prop := Json.Alike (members v) v v'

section

variable {fields fields' : List (String × Json)} (hfields : (Json.obj fields).Distinct)
  (hfields' : (Json.obj fields').Distinct) (h : Alike (.obj fields) (.obj fields'))

include hfields hfields' h

lemma connectorOf?_congr {r r' : Reading} (hr : r = .setAside ↔ r' = .setAside) :
    connectorOf? r fields = connectorOf? r' fields' := by
  apply (Draft.readAlike_readName hr Connector.names).elim_eq
  · exact h.member? 0 "connector" Reordered rfl
  · exact hfields.lookup "connector"
  · exact hfields'.lookup "connector"

lemma kind_congr : PredicateKind.ofFields? fields = PredicateKind.ofFields? fields' := by
  apply PredicateKind.readAlike_read.elim_eq
  · exact h.member? 1 "type" Reordered rfl
  · exact hfields.lookup "type"
  · exact hfields'.lookup "type"

/-- The predicates of alike clauses are decoded alike. -/
lemma predicate_congr {kind : PredicateKind}
    (hkind : PredicateKind.ofFields? fields = some kind) :
    (kind.readFields ((fields.filter (·.1 != "connector")).filter (·.1 != "type"))).toOption
      = (kind.readFields
        ((fields'.filter (·.1 != "connector")).filter (·.1 != "type"))).toOption := by
  have hnames : ∀ f ∈ kind.fields, f.name ≠ "connector" ∧ f.name ≠ "type" := by
    have hmem : ∀ name ∈ kind.fields.map Field.name, name ≠ "connector" ∧ name ≠ "type" := by
      cases kind <;> decide
    exact List.forall_mem_map.mp hmem
  apply kind.toOption_readFields_congr ((hfields.filter _).filter _) ((hfields'.filter _).filter _)
  constructor
  · rfl
  · intro place name R hpart
    obtain ⟨f, hf, hfpart⟩ := List.mem_map.mp (List.mem_of_getElem? hpart)
    have hname : f.name = name := congrArg Prod.fst hfpart
    obtain ⟨hconnector, htype⟩ := hnames f hf
    -- the members of the predicate come after the connector and the tag
    have hmember : (members (.obj fields))[place + 2]? = some (name, R) := by
      rw [members, hkind]
      exact hpart
    have hrel : Option.Rel R (fields.lookup name) (fields'.lookup name) :=
      h.member? (place + 2) name R hmember
    rw [hname] at hconnector htype
    rw [Json.member?, Json.member?, lookup_filter (by simp [htype]),
      lookup_filter (by simp [hconnector]), lookup_filter (by simp [htype]),
      lookup_filter (by simp [hconnector])]
    exact hrel

end

lemma readAlike_read {r r' : Reading} (hr : r ≠ .setAside) (hr' : r' ≠ .setAside) :
    ReadAlike Alike (Clause.read r) (Clause.read r') := by
  apply ReadAlike.of_objects (fun _ _ h => h.outline)
  · intro v hv
    cases v with
    | obj fields => exact absurd rfl (hv fields)
    | null | bool b | num n | str s | arr items => exact ⟨rfl, rfl⟩
  · intro fields fields' hfields hfields' halike
    rw [toOption_read_obj hfields.nodup, toOption_read_obj hfields'.nodup,
      connectorOf?_congr hfields hfields' halike (iff_of_false hr hr'),
      ← kind_congr hfields hfields' halike]
    cases hkind : PredicateKind.ofFields? fields with
    | none => rfl
    | some kind => simp only [Option.bind_some, predicate_congr hfields hfields' halike hkind]

lemma alike_of_reordered {v v' : Json} (h : Reordered v v') : Alike v v' := by
  apply h.alike
  intro part hpart
  cases v with
  | obj fields =>
    rw [members, List.mem_cons, List.mem_cons] at hpart
    obtain rfl | rfl | hpart := hpart
    · exact fun _ _ => id
    · exact fun _ _ => id
    · cases hkind : PredicateKind.ofFields? fields with
      | none => simp [hkind] at hpart
      | some kind =>
        rw [hkind] at hpart
        obtain ⟨f, -, rfl⟩ := List.mem_map.mp hpart
        exact fun _ _ => id
  | null | bool b | num n | str s | arr items => simp [members] at hpart

end Clause

/-! ### Queries -/

namespace Query

/-- The members of a query. Its aggregate, joins, clauses and sort keys have members in turn. -/
def members : List (String × Json.Relation) :=
  [("from", Reordered), ("selects", Reordered), ("distinct", Reordered),
    ("aggregate", Json.Alike Aggregate.members),
    ("joins", Json.ItemsAlike (Json.Alike Join.members)),
    ("wheres", Json.ItemsAlike Clause.Alike), ("groups", Reordered),
    ("orderings", Json.ItemsAlike (Json.Alike SortKey.members)), ("limit", Reordered),
    ("offset", Reordered)]

/-- Whether two documents have the same members of a query, in whatever order and among whatever
other keys. -/
def Alike (j j' : Json) : Prop := Json.Alike members j j'

lemma orderless_shape (r : Reading) : (shape r).Orderless where
  other := rfl
  apart := by
    simp only [shape, List.pairwise_cons, List.forall_mem_cons, List.not_mem_nil,
      List.Pairwise.nil, false_imp_iff, implies_true, and_true]
    and_intros
    all_goals exact Field.Apart.of (by decide) (fun _ _ => rfl) (fun _ _ => rfl) fun _ _ _ => rfl

lemma fieldsAgree {r r' : Reading} (hr : r ≠ .setAside) (hr' : r' ≠ .setAside) :
    Shape.FieldsAgree members (shape r).fields (shape r').fields := by
  have hcount : ReadAlike Reordered (Draft.readOption Draft.readWord)
      (Draft.readOption Draft.readWord) :=
    Draft.readAlike_readOption (fun _ _ h => h.outline_eq) Draft.readAlike_readWord
  apply Shape.FieldsAgree.cons (.of Identifier.readAlike_read)
  apply Shape.FieldsAgree.cons (.of Identifier.readAlike_read.readList)
  apply Shape.FieldsAgree.cons (.of Draft.readAlike_readBool)
  apply Shape.FieldsAgree.cons (.of (Draft.readAlike_readOption (fun _ _ h => h.outline)
    (Aggregate.readAlike_read r r')))
  apply Shape.FieldsAgree.cons (.of (Draft.readAlike_readList (Join.readAlike_read hr hr')))
  apply Shape.FieldsAgree.cons (.of (Draft.readAlike_readList (Clause.readAlike_read hr hr')))
  apply Shape.FieldsAgree.cons (.of Identifier.readAlike_read.readList)
  apply Shape.FieldsAgree.cons (.of (Draft.readAlike_readList (SortKey.readAlike_read r r')))
  exact .cons (.of hcount) (.cons (.of hcount) .nil)

/-- Alike documents are decoded to the same query, be it straight from a text or not. -/
theorem readAlike_read {r r' : Reading} (hr : r ≠ .setAside) (hr' : r' ≠ .setAside) :
    ReadAlike Alike (read r) (read r') := by
  apply (fieldsAgree hr hr').readAlike (orderless_shape r) (orderless_shape r')
  · simp [shape, Field.isSet_of]
  · simp [shape, Field.isSet_of]

lemma alike_of_reordered {j j' : Json} (h : Reordered j j') : Alike j j' := by
  have hsame : ∀ v v', Reordered v v' → Reordered v v' := fun _ _ => id
  apply h.alike
  simp only [members, List.forall_mem_cons, List.not_mem_nil, false_imp_iff, implies_true,
    and_true]
  refine ⟨hsame, hsame, hsame, ?aggregate, ?joins, ?wheres, hsame, ?orderings, hsame, hsame⟩
  case aggregate => exact fun v v' hv => hv.alike (by simp [Aggregate.members])
  case joins => exact fun v v' hv => hv.itemsAlike fun w w' hw => hw.alike (by simp [Join.members])
  case wheres => exact fun v v' hv => hv.itemsAlike fun w w' hw => Clause.alike_of_reordered hw
  case orderings =>
    exact fun v v' hv => hv.itemsAlike fun w w' hw => hw.alike (by simp [SortKey.members])

lemma ofText_eq_ok_iff_read {s : String} {j : Json} (hs : Json.ofText s = .ok j) {q : Query} :
    ofText s = .ok q ↔ read .document j.canonical.draft = .ok q := by
  rw [ofText, Json.documentOfText, hs]
  constructor
  · exact read_of_ofDocument
  · -- what is decoded has no unknown tag, so that the look at the tags finds nothing
    intro hq
    have htags : (clauseTags j.canonical).find? PredicateKind.isUnknown = none := by
      rw [clauseTags_canonical]
      cases j with
      | obj fields =>
        rw [Option.eq_none_iff_forall_ne_some]
        exact fun tag htag => read_ne_ok_of_unknownTag? htag q hq
      | null | bool b | num n | str s | arr items => rfl
    simp only [Except.map_ok, ofDocument_eq, htags, hq]

/-- A document without repeated keys stands for what is decoded straight from its text. -/
lemma ofText_eq_ok_iff_decodeText {s : String} {j : Json} (hs : Json.ofText s = .ok j)
    (hj : j.Distinct) {q : Query} : ofText s = .ok q ↔ decodeText (read .direct) s = .ok q := by
  have hagree : ReadAlike Alike (read .document) (read .direct) :=
    readAlike_read (by decide) (by decide)
  have hread := hagree _ _ hj.canonical hj (alike_of_reordered hj.reordered_canonical)
  rw [ofText_eq_ok_iff_read hs, decodeText_of_ofText hs, ← Decoded.toOption_eq_some, hread,
    Decoded.toOption_eq_some]

/-- A text without repeated keys stands for a query just if it is a document and the query is
decoded straight from it. Of two such documents that are the same but for the order of keys, or
that have alike members, both stand for the same query, and the same is decoded from both. -/
theorem ofText_eq_ok_iff_direct (s : String) :
    ((∀ j, Json.ofText s = .ok j → j.Distinct) → ∀ q, ofText s = .ok q ↔
      (∃ j, Json.ofText s = .ok j) ∧ decodeText (read .direct) s = .ok q) ∧
    ∀ s' j j', Json.ofText s = .ok j → Json.ofText s' = .ok j' → j.Distinct → j'.Distinct →
      Json.Reordered j j' ∨ Alike j j' → ∀ q, (ofText s = .ok q ↔ ofText s' = .ok q) ∧
        (decodeText (read .direct) s = .ok q ↔ decodeText (read .direct) s' = .ok q) := by
  constructor
  · intro hdistinct q
    cases hs : Json.ofText s with
    | ok j => simpa using ofText_eq_ok_iff_decodeText hs (hdistinct j hs)
    | error f => simp [ofText, Json.documentOfText, hs]
  · intro s' j j' hs hs' hj hj' hrel q
    have halike : Alike j j' := by
      cases hrel with
      | inl hreordered => exact alike_of_reordered hreordered
      | inr halike => exact halike
    have hagree : ReadAlike Alike (read .direct) (read .direct) :=
      readAlike_read (by decide) (by decide)
    have hread := hagree _ _ hj hj' halike
    have hdirect : decodeText (read .direct) s = .ok q ↔ decodeText (read .direct) s' = .ok q := by
      rw [decodeText_of_ofText hs, decodeText_of_ofText hs', ← Decoded.toOption_eq_some, hread,
        Decoded.toOption_eq_some]
    rw [ofText_eq_ok_iff_decodeText hs hj, ofText_eq_ok_iff_decodeText hs' hj']
    exact ⟨hdirect, hdirect⟩

/-- A document with a clause. -/
def terse : Json :=
  .obj [("from", .str "t"),
    ("wheres", .arr [.obj [("type", .str "where_null"), ("column", .str "a")]])]

/-- The text of the document with a clause. -/
def terseText : String :=
  "\x7b\"from\":\"t\",\"wheres\":[\x7b\"type\":\"where_null\",\"column\":\"a\"\x7d]\x7d"

/-- The same document with its keys in another order and with keys that nothing asks for. -/
def padded : Json :=
  .obj [("x", .num (.int 0)), ("wheres", .arr [.obj [("column", .str "a"), ("y", .num (.int 0)),
    ("type", .str "where_null")]]), ("from", .str "t")]

/-- The text of the document with other keys. -/
def paddedText : String :=
  "\x7b\"x\":0,\"wheres\":[\x7b\"column\":\"a\",\"y\":0,\"type\":\"where_null\"\x7d],"
    ++ "\"from\":\"t\"\x7d"

lemma distinct_terse : terse.Distinct := by
  apply Json.Distinct.obj
  · decide
  · simp only [List.forall_mem_cons, List.not_mem_nil, false_imp_iff, implies_true, and_true]
    refine ⟨.str _, .arr ?_⟩
    rw [List.forall_mem_singleton]
    apply Json.Distinct.obj
    · decide
    · simp only [List.forall_mem_cons, List.not_mem_nil, false_imp_iff, implies_true, and_true]
      exact ⟨.str _, .str _⟩

lemma distinct_padded : padded.Distinct := by
  apply Json.Distinct.obj
  · decide
  · simp only [List.forall_mem_cons, List.not_mem_nil, false_imp_iff, implies_true, and_true]
    refine ⟨.num _, .arr ?_, .str _⟩
    rw [List.forall_mem_singleton]
    apply Json.Distinct.obj
    · decide
    · simp only [List.forall_mem_cons, List.not_mem_nil, false_imp_iff, implies_true, and_true]
      exact ⟨.str _, .num _, .str _⟩

lemma alike_terse_padded : Alike terse padded where
  outline := rfl
  member?
    | 0, _, _, rfl => .some (.refl _)
    | 5, _, _, rfl => by
      have hkind : PredicateKind.ofFields? [("type", .str "where_null"), ("column", .str "a")]
          = some .isNull := by decide
      refine .some ⟨rfl, ?_⟩
      rintro items items' ⟨⟩ ⟨⟩
      refine .cons ⟨rfl, ?_⟩ .nil
      rw [Clause.members, hkind]
      intro place name R hpart
      match place, hpart with
      | 0, rfl => exact .none
      | 1, rfl => exact .some (.refl _)
      | 2, rfl => exact .some (.refl _)
    | 1, _, _, rfl | 2, _, _, rfl | 3, _, _, rfl | 4, _, _, rfl | 6, _, _, rfl | 7, _, _, rfl
    | 8, _, _, rfl | 9, _, _, rfl => .none

/-- Neither the order of the keys nor the keys that nothing asks for matter. -/
theorem ofText_paddedText :
    Json.ofText terseText = .ok terse ∧ Json.ofText paddedText = .ok padded ∧
    terse.Distinct ∧ padded.Distinct ∧ Alike terse padded ∧
    ofText paddedText = .ok { table := .name "t", clauses := [⟨.and, .isNull (.name "a")⟩] } ∧
    decodeText (read .direct) paddedText
      = .ok { table := .name "t", clauses := [⟨.and, .isNull (.name "a")⟩] } := by
  have hterse : Json.ofText terseText = .ok terse := by cbv
  have hpadded : Json.ofText paddedText = .ok padded := by cbv
  have hdirect : decodeText (read .direct) terseText
      = .ok { table := .name "t", clauses := [⟨.and, .isNull (.name "a")⟩] } := by
    rw [decodeText_of_ofText hterse]
    rfl
  have hdistinct : ∀ j, Json.ofText terseText = .ok j → j.Distinct := by
    intro j hj
    rw [hterse, Except.ok.injEq] at hj
    exact hj ▸ distinct_terse
  have hofText := ((ofText_eq_ok_iff_direct terseText).1 hdistinct _).mpr ⟨⟨terse, hterse⟩, hdirect⟩
  have hsame := (ofText_eq_ok_iff_direct terseText).2 paddedText terse padded hterse hpadded
    distinct_terse distinct_padded (.inr alike_terse_padded)
  refine ⟨hterse, hpadded, distinct_terse, distinct_padded, alike_terse_padded, ?_, ?_⟩
  · exact (hsame _).1.mp hofText
  · exact (hsame _).2.mp hdirect

/-! ### Texts that are no documents -/

/-- A text with a number that is no double, under a key that nothing asks for. -/
def overflowText : String := "\x7b\"from\":\"t\",\"x\":1e999\x7d"

/-- What is met in the text. -/
def overflowDraft : Draft :=
  .obj [(.str (some "from"), .str (some "t")), (.str (some "x"), .num none)] none

/-- The text can be passed over as a whole, and the number is passed over in decoding, but it is
not part of any document: the query is decoded straight from the text, which does not stand for
it. -/
theorem ofText_overflowText :
    Draft.ofChars overflowText.toList = (overflowDraft, []) ∧ overflowDraft.skip = .ok () ∧
    decodeText (read .direct) overflowText = .ok { table := .name "t" } ∧
    ofText overflowText = .error (.badQuery (.fault .malformed)) := by
  have hdraft : Draft.ofChars overflowText.toList = (overflowDraft, []) := by cbv
  have hdirect : decodeText (read .direct) overflowText = .ok { table := .name "t" } := by
    rw [decodeText, hdraft]
    rfl
  have hdocument : Json.ofText overflowText = .error .malformed := by
    rw [Json.ofText, hdraft]
    rfl
  refine ⟨hdraft, rfl, hdirect, ?_⟩
  rw [ofText, Json.documentOfText, hdocument]
  rfl

end Query

end BoundSql
