import BoundSql.Proofs.Codec.Changes
import BoundSql.Proofs.Json.Canonical
import BoundSql.Proofs.Json.Printing

/-!
# Joins in documents

A join object is accepted for its type and its table alone. Its condition is there if all three of
its keys are and decode; a condition that is incomplete or wrong is left out without an error.
-/

namespace BoundSql

/-! ### Simple values -/

namespace Json

/-- The name that a value is: a string, or an object of which it is the only key and which says
nothing more. -/
def nameOf? (r : Reading) : Json → Option String
  | .str s | .obj [(s, .null)] => some s
  | .obj [(s, .obj [])] => if r = .setAside then some s else none
  | _ => none

/-- What is not set aside names the same wherever it comes from. -/
lemma nameOf?_of_ne {r : Reading} (hr : r ≠ .setAside) (j : Json) :
    j.nameOf? r = j.nameOf? .document := by
  simp [nameOf?, hr]

end Json

namespace Draft

variable {α : Type}

lemma variant_eq_ok {names : List (String × α)} {s : String} {a : α} :
    variant names s = .ok a ↔ names.lookup s = some a := by
  rw [variant]
  cases names.lookup s <;> simp

lemma readForms_draft {type : String} {forms : Json → Option α} {j : Json} {a : α} :
    readForms type forms j.draft = .ok a ↔ forms j = some a := by
  rw [readForms, j.settle_draft, Decoded.ofFault_ok, ok_bind]
  cases forms j <;> simp [pure_eq_ok]

/-- An object with one key is a name if its key is and its value says nothing. -/
lemma variant_and_readUnit {r : Reading} {names : List (String × α)} {s : String} {v : Json}
    {a : α} : variant names s = .ok a ∧ readUnit r v.draft = .ok () ↔
      ((Json.obj [(s, v)]).nameOf? r).bind (names.lookup ·) = some a := by
  rw [variant_eq_ok]
  cases v with
  | obj fields =>
    cases fields with
    | nil =>
      by_cases hr : r = .setAside <;>
        simp [Json.draft, Json.draftFields, readUnit, Json.nameOf?, hr]
    | cons e fields => simp [Json.draft, Json.draftFields, readUnit, Json.nameOf?]
  | null => simp [Json.draft, readUnit, Json.nameOf?]
  | bool b | num n | str s | arr items => simp [Json.draft, readUnit, Json.nameOf?]

lemma readNameSettled_draft {r : Reading} {names : List (String × α)} {j : Json} {a : α} :
    readNameSettled r names j.draft = .ok a ↔ (j.nameOf? r).bind (names.lookup ·) = some a := by
  cases j with
  | str s => exact variant_eq_ok
  | obj fields =>
    rcases fields with _ | ⟨⟨s, v⟩, _ | ⟨e, fields⟩⟩
    · simp [Json.draft, Json.draftFields, readNameSettled, Json.nameOf?]
    · rw [← variant_and_readUnit]
      simp only [Json.draft, Json.draftFields, readNameSettled, bind_eq_ok, pure_eq_ok]
      constructor
      · rintro ⟨b, hb, ⟨⟩, hunit, rfl⟩
        exact ⟨hb, hunit⟩
      · rintro ⟨hb, hunit⟩
        exact ⟨a, hb, (), hunit, rfl⟩
    · simp [Json.draft, Json.draftFields, readNameSettled, Json.nameOf?]
  | null | bool b | num n | arr items =>
    simp [Json.draft, readNameSettled, Json.nameOf?]

lemma readNameDirect_draft {names : List (String × α)} {j : Json} {a : α} :
    readNameDirect names j.draft = .ok a ↔ (j.nameOf? .direct).bind (names.lookup ·) = some a := by
  cases j with
  | str s => exact variant_eq_ok
  | obj fields =>
    rcases fields with _ | ⟨⟨s, v⟩, _ | ⟨e, fields⟩⟩
    · simp [Json.draft, Json.draftFields, readNameDirect, Json.nameOf?]
    · rw [← variant_and_readUnit]
      simp only [Json.draft, Json.draftFields, readNameDirect, key, Decoded.ofFault_ok, ok_bind,
        List.isEmpty_nil, if_true, check, bind_eq_ok, pure_eq_ok]
      constructor
      · rintro ⟨b, hb, ⟨⟩, hunit, rfl⟩
        exact ⟨hb, hunit⟩
      · rintro ⟨hb, hunit⟩
        exact ⟨a, hb, (), hunit, rfl⟩
    · simp [Json.draft, Json.draftFields, readNameDirect, Json.nameOf?, bind_eq_ok]
  | null | bool b | num n | arr items =>
    simp [Json.draft, readNameDirect, Json.nameOf?]

/-- A name is decoded wherever it comes from. -/
lemma readName_draft {r : Reading} {names : List (String × α)} {j : Json} {a : α} :
    readName r names j.draft = .ok a ↔ (j.nameOf? r).bind (names.lookup ·) = some a := by
  cases r with
  | direct => exact readNameDirect_draft
  | document | setAside => exact readNameSettled_draft

end Draft

/-- The condition that the fields of an object spell out in full, if they do. -/
def JoinCondition.ofObject? (fields : List (String × Json)) : Option JoinCondition := do
  let first ← (fields.lookup "column1").bind Identifier.ofJson?
  let operator ← (fields.lookup "operator").bind fun j =>
    (j.nameOf? .setAside).bind (Operator.names.lookup ·)
  let second ← (fields.lookup "column2").bind Identifier.ofJson?
  pure { first, operator, second }

/-- The kind of join that an object in a document names: an inner join if it names none. -/
def JoinKind.ofObject? (fields : List (String × Json)) : Option JoinKind :=
  match fields.lookup "type" with
  | none => some .inner
  | some j => (j.nameOf? .document).bind (JoinKind.names.lookup ·)

/-- The join that an object in a document stands for, if its type and its table do not forbid it. -/
def Join.ofObject? (fields : List (String × Json)) : Option Join := do
  let kind ← JoinKind.ofObject? fields
  let table ← (fields.lookup "table").bind Identifier.ofJson?
  pure ⟨kind, table, JoinCondition.ofObject? fields⟩

/-! ### Conditions -/

namespace JoinCondition

lemma part_first (r : Reading) :
    (shape r).Part "column1" 0 JoinConditionParts.first Identifier.read :=
  .of rfl (fun _ _ => rfl) (by simp [shape, Field.name_of, Field.forall_set_of])
    (Shape.get_of_ignore rfl)

lemma part_operator (r : Reading) :
    (shape r).Part "operator" 1 JoinConditionParts.operator (Operator.read r) :=
  .of rfl (fun _ _ => rfl) (by simp [shape, Field.name_of, Field.forall_set_of])
    (Shape.get_of_ignore rfl)

lemma part_second (r : Reading) :
    (shape r).Part "column2" 2 JoinConditionParts.second Identifier.read :=
  .of rfl (fun _ _ => rfl) (by simp [shape, Field.name_of, Field.forall_set_of])
    (Shape.get_of_ignore rfl)

lemma lawful_shape (r : Reading) : (shape r).Lawful where
  set := by
    simp [shape, Field.name_of, Field.isSet_of, Field.forall_set_of]
  rest _ _ := Shape.get_of_ignore rfl

lemma build_eq_ok {p : JoinConditionParts} {c : JoinCondition} :
    p.build = .ok c ↔
      p.first = some c.first ∧ p.operator = some c.operator ∧ p.second = some c.second := by
  simp only [JoinConditionParts.build, bind_eq_ok, required_eq_ok, pure_eq_ok]
  constructor
  · rintro ⟨first, hfirst, operator, hoperator, second, hsecond, rfl⟩
    exact ⟨hfirst, hoperator, hsecond⟩
  · rintro ⟨hfirst, hoperator, hsecond⟩
    exact ⟨_, hfirst, _, hoperator, _, hsecond, rfl⟩

lemma ofObject?_eq_some {fields : List (String × Json)} {c : JoinCondition} :
    ofObject? fields = some c ↔
      (∃ v, fields.lookup "column1" = some v ∧ Identifier.read v.draft = .ok c.first) ∧
      (∃ v, fields.lookup "operator" = some v ∧ Operator.read .setAside v.draft = .ok c.operator) ∧
      ∃ v, fields.lookup "column2" = some v ∧ Identifier.read v.draft = .ok c.second := by
  have hoperator : ∀ {v : Json} {op : Operator}, Operator.read .setAside v.draft = .ok op ↔
      (v.nameOf? .setAside).bind (Operator.names.lookup ·) = some op := Draft.readNameSettled_draft
  simp only [Identifier.read, Draft.readForms_draft, hoperator, ofObject?,
    Option.bind_eq_bind, Option.bind_eq_some_iff]
  constructor
  · rintro ⟨first, hfirst, operator, hoperator, second, hsecond, h⟩
    obtain rfl := Option.some.inj h
    exact ⟨hfirst, hoperator, hsecond⟩
  · rintro ⟨hfirst, hoperator, hsecond⟩
    exact ⟨_, hfirst, _, hoperator, _, hsecond, rfl⟩

/-- Fields make up a condition if each of its keys is there and decodes, and only then. -/
lemma ofFields?_eq_some {fields : List (String × Json)} (hnodup : (fields.map Prod.fst).Nodup)
    {c : JoinCondition} : ofFields? fields = some c ↔ ofObject? fields = some c := by
  rw [ofFields?, Decoded.toOption_eq_some, Shape.readObject_eq_ok, ofObject?_eq_some]
  simp only [build_eq_ok]
  constructor
  · rintro ⟨p, hp, hfirst, hoperator, hsecond⟩
    exact ⟨(part_first _).exists_of_readFields hp rfl hfirst,
      (part_operator _).exists_of_readFields hp rfl hoperator,
      (part_second _).exists_of_readFields hp rfl hsecond⟩
  · rintro ⟨⟨v₁, hv₁, hfirst⟩, ⟨v₂, hv₂, hoperator⟩, v₃, hv₃, hsecond⟩
    have hset : ∀ e ∈ fields, ∀ f ∈ (shape .setAside).fields, f.name = e.1 →
        ∀ p, ∃ p', f.set e.2.draft p = .ok p' := by
      intro e he f hf hname p
      have hlookup := lookup_eq_some_of_mem hnodup he
      rw [← hname] at hlookup
      simp only [shape, List.mem_cons, List.not_mem_nil, or_false] at hf
      obtain rfl | rfl | rfl := hf
      · rw [← Option.some.inj (hv₁.symm.trans hlookup)]
        exact ⟨_, Field.set_of.mpr ⟨_, hfirst, rfl⟩⟩
      · rw [← Option.some.inj (hv₂.symm.trans hlookup)]
        exact ⟨_, Field.set_of.mpr ⟨_, hoperator, rfl⟩⟩
      · rw [← Option.some.inj (hv₃.symm.trans hlookup)]
        exact ⟨_, Field.set_of.mpr ⟨_, hsecond, rfl⟩⟩
    obtain ⟨p, hp⟩ := (lawful_shape .setAside).exists_readFields hnodup hset
      (fun e _ _ => Shape.exists_ignore e.1 e.2) (p := {}) (by simp [shape, Field.isSet_of])
    exact ⟨p, hp, (part_first _).get_of_readFields hp hv₁ hfirst,
      (part_operator _).get_of_readFields hp hv₂ hoperator,
      (part_second _).get_of_readFields hp hv₃ hsecond⟩

lemma ofFields?_eq_ofObject? {fields : List (String × Json)}
    (hnodup : (fields.map Prod.fst).Nodup) : ofFields? fields = ofObject? fields :=
  Option.ext fun _ => ofFields?_eq_some hnodup

end JoinCondition

/-! ### Joins -/

namespace Join

lemma part_kind (r : Reading) :
    (shape r).Part "type" 0 (fun p => p.decoded.kind) (JoinKind.read r) :=
  .of rfl (fun _ _ => rfl) (by simp [shape, Field.name_of, Field.forall_set_of])
    fun _ _ _ _ h => by rw [Kept.decoded_of_keep h]

lemma part_table (r : Reading) :
    (shape r).Part "table" 1 (fun p => p.decoded.table) Identifier.read :=
  .of rfl (fun _ _ => rfl) (by simp [shape, Field.name_of, Field.forall_set_of])
    fun _ _ _ _ h => by rw [Kept.decoded_of_keep h]

lemma lawful_shape (r : Reading) : (shape r).Lawful where
  set := by simp [shape, Field.name_of, Field.isSet_of, Field.forall_set_of]
  rest := by
    intro f hf k d p p' h
    have hdecoded := Kept.decoded_of_keep h
    simp only [shape, List.mem_cons, List.not_mem_nil, or_false] at hf
    obtain rfl | rfl := hf <;> rw [Field.isSet_of, Field.isSet_of, hdecoded]

/-- The condition of a join is looked for in all its fields. -/
lemma ofFields?_kept {r : Reading} {fields : List (String × Json)} {p : Kept JoinParts}
    (hnodup : (fields.map Prod.fst).Nodup)
    (hp : (shape r).readFields (Json.draftFields fields) { decoded := {} } = .ok p) :
    JoinCondition.ofFields? p.fields = JoinCondition.ofObject? fields := by
  have hfields := Kept.fields_of_readFields (s := shape r) rfl
    (by simp [shape, Field.forall_set_of]) hp
  rw [List.nil_append] at hfields
  have hlookup : ∀ k ∈ ["column1", "operator", "column2"], (fields.filter fun e =>
      ((shape r).fields.find? (·.name == e.1)).isNone).lookup k = fields.lookup k := by
    intro k hk
    simp only [List.mem_cons, List.not_mem_nil, or_false] at hk
    obtain rfl | rfl | rfl := hk <;> exact lookup_filter fun _ => rfl
  rw [hfields, JoinCondition.ofFields?_eq_ofObject? (hnodup.sublist (List.filter_sublist.map _)),
    JoinCondition.ofObject?, JoinCondition.ofObject?, hlookup _ (by simp), hlookup _ (by simp),
    hlookup _ (by simp)]

lemma ofObject?_eq_some {fields : List (String × Json)} {j : Join} :
    ofObject? fields = some j ↔ JoinKind.ofObject? fields = some j.kind ∧
      (∃ v, fields.lookup "table" = some v ∧ Identifier.read v.draft = .ok j.table) ∧
      j.on? = JoinCondition.ofObject? fields := by
  simp only [Identifier.read, Draft.readForms_draft, ofObject?, Option.bind_eq_bind,
    Option.bind_eq_some_iff]
  constructor
  · rintro ⟨kind, hkind, table, htable, h⟩
    obtain rfl := Option.some.inj h
    exact ⟨hkind, htable, rfl⟩
  · rintro ⟨hkind, htable, hon⟩
    exact ⟨_, hkind, _, htable, by rw [← hon]; rfl⟩

/-- A join object is accepted if its type and its table are, and only then. -/
lemma read_obj {r : Reading} (hr : r ≠ .setAside) {fields : List (String × Json)}
    (hnodup : (fields.map Prod.fst).Nodup) {j : Join} :
    Join.read r (Json.obj fields).draft = .ok j ↔ ofObject? fields = some j := by
  have hkind : ∀ {v : Json} {k : JoinKind}, JoinKind.read r v.draft = .ok k ↔
      (v.nameOf? .document).bind (JoinKind.names.lookup ·) = some k := by
    intro v k
    rw [← Json.nameOf?_of_ne hr]
    exact Draft.readName_draft
  rw [Json.draft, Join.read, Shape.readObject_eq_ok, ofObject?_eq_some, JoinKind.ofObject?]
  simp only [bind_eq_ok, required_eq_ok, pure_eq_ok]
  constructor
  · rintro ⟨p, hp, table, htable, rfl⟩
    refine ⟨?_, (part_table _).exists_of_readFields hp rfl htable, ofFields?_kept hnodup hp⟩
    cases htype : fields.lookup "type" with
    | none => simp only [(part_kind _).eq_none_of_readFields hp rfl htype, Option.getD_none]
    | some v =>
      have hpart := (part_kind _).readFields hp
      rw [htype] at hpart
      obtain ⟨-, k, hk, hget⟩ := hpart
      simp only [hget, Option.getD_some, hkind.mp hk]
  · rintro ⟨htype, ⟨v, hv, htable⟩, hon⟩
    have hset : ∀ e ∈ fields, ∀ f ∈ (shape r).fields, f.name = e.1 →
        ∀ p, ∃ p', f.set e.2.draft p = .ok p' := by
      intro e he f hf hname p
      have hlookup := lookup_eq_some_of_mem hnodup he
      rw [← hname] at hlookup
      simp only [shape, List.mem_cons, List.not_mem_nil, or_false] at hf
      obtain rfl | rfl := hf
      · rw [Field.name_of] at hlookup
        simp only [hlookup] at htype
        exact ⟨_, Field.set_of.mpr ⟨_, hkind.mpr htype, rfl⟩⟩
      · rw [← Option.some.inj (hv.symm.trans hlookup)]
        exact ⟨_, Field.set_of.mpr ⟨_, htable, rfl⟩⟩
    obtain ⟨p, hp⟩ := (lawful_shape r).exists_readFields hnodup hset
      (fun e _ _ p => ⟨_, Kept.keep_draft e.1 e.2 p⟩) (p := { decoded := {} })
      (by simp [shape, Field.isSet_of])
    refine ⟨p, hp, _, (part_table _).get_of_readFields hp hv htable, ?_⟩
    rw [ofFields?_kept hnodup hp, ← hon]
    cases hlookup : fields.lookup "type" with
    | none =>
      rw [(part_kind _).eq_none_of_readFields hp rfl hlookup]
      simp only [hlookup] at htype
      rw [Option.getD_none, Option.some.inj htype]
    | some w =>
      simp only [hlookup] at htype
      rw [(part_kind _).get_of_readFields hp hlookup (hkind.mpr htype), Option.getD_some]

/-- A join in a document is an object. -/
lemma exists_of_read {v : Json} {j : Join} (h : Join.read .document v.draft = .ok j) :
    ∃ fields, v = .obj fields := by
  cases v with
  | obj fields => exact ⟨fields, rfl⟩
  | null | bool b | num n | str s | arr items => exact absurd h (Draft.wrongType_ne_ok _ _ _)

/-- The join without its condition. -/
def withoutCondition (j : Join) : Join := { j with on? := none }

end Join

/-! ### Objects without a condition -/

namespace JoinCondition

/-- The keys of a condition. -/
def keys : List String := ["column1", "operator", "column2"]

/-- Whether a field of an object does not belong to a condition. -/
def isForeign (e : String × Json) : Bool := e.1 ∉ keys

lemma ofFields?_filter_isForeign (fields : List (String × Json)) :
    ofFields? (fields.filter isForeign) = none := by
  rw [Option.eq_none_iff_forall_ne_some]
  intro c hc
  rw [ofFields?, Decoded.toOption_eq_some, Shape.readObject_eq_ok] at hc
  obtain ⟨p, hp, hbuild⟩ := hc
  obtain ⟨v, hv, -⟩ := (part_first _).exists_of_readFields hp rfl (build_eq_ok.mp hbuild).1
  have hforeign := List.of_mem_filter (Json.mem_of_lookup_eq_some hv)
  simp [isForeign, keys] at hforeign

end JoinCondition

/-- A join object without the fields of its condition. -/
def Json.withoutCondition : Json → Json
  | .obj fields => .obj (fields.filter JoinCondition.isForeign)
  | j => j

/-- What is decoded of a join object, without the fields of its condition. -/
def Kept.withoutCondition (p : Kept JoinParts) : Kept JoinParts :=
  { p with fields := p.fields.filter JoinCondition.isForeign }

namespace Join

lemma step_withoutCondition {e : String × Json} (he : JoinCondition.isForeign e = true)
    (p : Kept JoinParts) : (shape .document).step e.1 e.2 p.withoutCondition
      = Kept.withoutCondition <$> (shape .document).step e.1 e.2 p := by
  apply Shape.step_eq_map
  · rintro f hf -
    simp only [shape, List.mem_cons, List.not_mem_nil, or_false] at hf
    obtain rfl | rfl := hf
    all_goals
      refine ⟨rfl, Field.set_map ?_ e.2.draft p⟩
      exact fun _ _ => rfl
  · intro _
    change Kept.keep e.1 e.2.draft p.withoutCondition
      = Kept.withoutCondition <$> Kept.keep e.1 e.2.draft p
    rw [Kept.keep_draft, Kept.keep_draft, Except.map_ok]
    simp [Kept.withoutCondition, he]

/-- A field of the condition is set aside, and dropped again with it. -/
lemma map_step_of_not_isForeign {e : String × Json} (he : JoinCondition.isForeign e = false)
    (p : Kept JoinParts) :
    Kept.withoutCondition <$> (shape .document).step e.1 e.2 p = .ok p.withoutCondition := by
  have hkey : e.1 ∈ JoinCondition.keys := by simpa [JoinCondition.isForeign] using he
  have hfind : (shape .document).fields.find? (·.name == e.1) = none := by
    simp only [JoinCondition.keys, List.mem_cons, List.not_mem_nil, or_false] at hkey
    obtain h | h | h := hkey <;> rw [h] <;> rfl
  rw [Shape.step, hfind]
  change Kept.withoutCondition <$> Kept.keep e.1 e.2.draft p = _
  rw [Kept.keep_draft, Except.map_ok]
  simp [Kept.withoutCondition, he]

/-- The condition of a join object may be dropped before the object is decoded or afterwards. -/
lemma read_withoutCondition (v : Json) :
    Join.read .document v.withoutCondition.draft
      = withoutCondition <$> Join.read .document v.draft := by
  cases v with
  | obj fields =>
    have hfields := Shape.readFields_filter (fun e => step_withoutCondition)
      (fun e => map_step_of_not_isForeign) fields { decoded := {} }
    change (shape .document).readFields _ { decoded := {} } = _ at hfields
    rw [Json.withoutCondition, Json.draft, Json.draft, Join.read, Join.read, Shape.readObject,
      Shape.readObject, hfields]
    cases (shape .document).readFields (Json.draftFields fields) { decoded := {} } with
    | error _ => rfl
    | ok p =>
      simp only [Except.map_ok, bind, Except.bind, Draft.check, Decoded.ofFault_ok,
        Kept.withoutCondition, JoinCondition.ofFields?_filter_isForeign]
      cases required "table" p.decoded.table <;> rfl
  | null | bool b | num n | str s | arr items => rfl

end Join

/-! ### Documents -/

namespace Query

lemma part_joins (r : Reading) :
    (shape r).Part "joins" 4 QueryParts.joins (Draft.readList (Join.read r)) :=
  .of rfl (fun _ _ => rfl) (by simp [shape, Field.name_of, Field.forall_set_of])
    (Shape.get_of_ignore rfl)

/-- The join objects of a document: they stand under the key `joins`, or in the fifth place. -/
def joinObjects (document : Json) : List Json :=
  match document.member? "joins" 4 with
  | some (.arr joins) => joins
  | _ => []

/-- The query without the conditions of its joins. -/
def withoutJoinConditions (q : Query) : Query :=
  { q with joins := q.joins.map Join.withoutCondition }

end Query

/-- The parts of a query without the conditions of its joins. -/
def QueryParts.withoutJoinConditions (p : QueryParts) : QueryParts :=
  { p with joins := p.joins.map fun js => js.map Join.withoutCondition }

/-- A list of join objects without their conditions. -/
def Json.withoutConditions : Json → Json
  | .arr joins => .arr (joins.map withoutCondition)
  | j => j

/-- A document without the conditions of its join objects. -/
def Json.withoutJoinConditions (document : Json) : Json :=
  document.mapMember "joins" 4 withoutConditions

namespace Query

lemma clauseTags_withoutJoinConditions (document : Json) :
    clauseTags document.withoutJoinConditions = clauseTags document := by
  cases document with
  | obj fields =>
    have hlookup : ∀ change : Json → Json,
        (fields.map fun e => (e.1, if e.1 = "joins" then change e.2 else e.2)).lookup "wheres"
          = fields.lookup "wheres" := by
      intro change
      induction fields with
      | nil => rfl
      | cons e fields ih =>
        rw [List.map_cons, List.lookup_cons, List.lookup_cons, ih]
        by_cases hk : "wheres" = e.1
        · rw [← hk, if_neg (by decide)]
        · rw [beq_false_of_ne hk]
    simp only [Json.withoutJoinConditions, Json.mapMember, clauseTags, hlookup]
  | null | bool b | num n | str s | arr items => rfl

lemma readList_withoutConditions (v : Json) :
    Draft.readList (Join.read .document) v.withoutConditions.draft
      = List.map Join.withoutCondition <$> Draft.readList (Join.read .document) v.draft := by
  cases v with
  | arr items =>
    have hitems : (items.mapM fun v => Join.read .document v.withoutCondition.draft)
        = List.map Join.withoutCondition <$> items.mapM fun v => Join.read .document v.draft :=
      mapM_of_forall Join.read_withoutCondition items
    simp only [Json.withoutConditions, Json.draft, Json.draftItems_eq_map, Draft.readList,
      List.map_map, List.mapM_map, Function.comp_def, hitems]
    cases items.mapM fun v => Join.read .document v.draft <;> rfl
  | null | bool b | num n | str s | obj fields => rfl

lemma read_withoutJoinConditions (document : Json) :
    read .document document.withoutJoinConditions.draft
      = withoutJoinConditions <$> read .document document.draft := by
  have hpart := part_joins .document
  refine hpart.read_mapMember (g := QueryParts.withoutJoinConditions) ?_ ?_ ?_ ?_ rfl ?_ .document
    document
  · simp [shape, Field.isSet_of, QueryParts.withoutJoinConditions]
  · intro f hf v p
    obtain rfl := Option.some.inj hf
    simp only [Field.of, readList_withoutConditions]
    cases Draft.readList (Join.read .document) v.draft <;> rfl
  · intro f hf d p
    simp only [shape, List.eraseIdx_cons_succ, List.eraseIdx_cons_zero, List.mem_cons,
      List.not_mem_nil, or_false] at hf
    obtain rfl | rfl | rfl | rfl | rfl | rfl | rfl | rfl | rfl := hf
    all_goals
      refine Field.set_map ?_ d p
      exact fun _ _ => rfl
  · intro k d p
    change Shape.ignore k d p.withoutJoinConditions
      = QueryParts.withoutJoinConditions <$> Shape.ignore k d p
    rw [Shape.ignore, Shape.ignore]
    cases Decoded.ofFault d.skip <;> rfl
  · intro p
    simp only [QueryParts.build, QueryParts.withoutJoinConditions]
    cases p.table with
    | none => rfl
    | some table => cases p.joins <;> rfl

/-- A document is accepted or refused whatever the conditions of its joins are. -/
lemma ofDocument_withoutJoinConditions (document : Json) :
    ofDocument document.withoutJoinConditions = withoutJoinConditions <$> ofDocument document := by
  rw [ofDocument, ofDocument, read_withoutJoinConditions, clauseTags_withoutJoinConditions]
  cases (clauseTags document).forM fun tag => do let _ ← PredicateKind.parse tag with
  | error e => rfl
  | ok _ =>
    change _ = withoutJoinConditions <$> (match read .document document.draft with | _ => _)
    cases read .document document.draft <;> rfl

lemma lists_of_build {p : QueryParts} {q : Query} (h : p.build = .ok q) :
    q.joins = p.joins.getD [] ∧ q.clauses = p.clauses.getD [] := by
  simp only [QueryParts.build, bind_eq_ok, pure_eq_ok] at h
  obtain ⟨table, -, rfl⟩ := h
  exact ⟨rfl, rfl⟩

/-- What a document stands for is read from it. -/
lemma read_of_ofDocument {document : Json} {q : Query} (h : ofDocument document = .ok q) :
    read .document document.draft = .ok q := by
  obtain ⟨-, -, hread⟩ := bind_eq_ok.mp h
  cases hq : read .document document.draft with
  | error e => simp [hq] at hread
  | ok q' =>
    rw [hq] at hread
    rw [pure_eq_ok.mp hread]

/-- The joins of a query are what its join objects stand for. -/
lemma joins_of_read {document : Json} {q : Query}
    (h : read .document document.canonical.draft = .ok q) :
    List.Forall₂ (fun v j => ∃ fields, v = .obj fields ∧ Join.ofObject? fields = some j)
      (joinObjects document.canonical) q.joins := by
  obtain ⟨p, hp, hjoins⟩ := (part_joins .document).exists_of_read rfl h
  rw [joinObjects, (lists_of_build hp).1]
  cases hmember : document.canonical.member? "joins" 4 with
  | none =>
    rw [hmember] at hjoins
    rw [hjoins]
    exact .nil
  | some v =>
    rw [hmember] at hjoins
    obtain ⟨js, hjs, hget⟩ := hjoins
    obtain ⟨items, rfl, hitems⟩ := Draft.readList_draft.mp hjs
    obtain ⟨w, hw⟩ := Json.exists_of_member? hmember
    have hcanonical := Json.canonical_eq_arr hw.symm
    rw [hget]
    refine ((List.forall₂_and_left _ _).mpr ⟨hcanonical, hitems⟩).imp ?_
    rintro v j ⟨⟨w, hw⟩, hj⟩
    obtain ⟨fields, rfl⟩ := Join.exists_of_read hj
    exact ⟨fields, rfl,
      (Join.read_obj (by decide) (Json.canonical_eq_obj hw.symm).1.nodup).mp hj⟩

/-- The joins of a text that is accepted are what its join objects stand for: a condition is there
if its three keys are and decode. Whether a text is accepted, and what is wrong with it otherwise,
does not depend on the conditions of its joins. -/
theorem joins_of_ofText {s : String} {document : Json}
    (hs : Json.documentOfText s = .ok document) :
    (∀ q, ofText s = .ok q →
      List.Forall₂ (fun v j => ∃ fields, v = .obj fields ∧ Join.ofObject? fields = some j)
        (joinObjects document) q.joins) ∧
    ofDocument document.withoutJoinConditions = withoutJoinConditions <$> ofText s := by
  have htext : ofText s = ofDocument document := by rw [ofText, hs]
  rw [htext]
  refine ⟨fun q hq => ?_, ofDocument_withoutJoinConditions document⟩
  obtain ⟨j, -, rfl⟩ := map_eq_ok.mp hs
  exact joins_of_read (read_of_ofDocument hq)

/-- A document whose `CROSS` join has a condition without its second column. -/
def halfJoined : Json :=
  .obj [("from", .str "a"),
    ("joins", .arr [.obj [("type", .str "CROSS"), ("table", .str "b"), ("column1", .str "a.id"),
      ("operator", .str "=")]])]

/-- A text with half a condition is accepted, and its join has no condition. -/
theorem joins_of_halfJoined :
    Json.documentOfText halfJoined.text = .ok halfJoined.canonical ∧
      ofText halfJoined.text = .ok { table := .name "a", joins := [⟨.cross, .name "b", none⟩] } ∧
      List.Forall₂ (fun v j => ∃ fields, v = .obj fields ∧ Join.ofObject? fields = some j)
        (joinObjects halfJoined.canonical) [⟨.cross, .name "b", none⟩] := by
  have hfits : Json.Fits 3 halfJoined := by
    refine .obj ?_
    simp only [List.forall_mem_cons, List.not_mem_nil, false_imp_iff, implies_true, and_true]
    refine ⟨.str _, .arr ?_⟩
    simp only [List.forall_mem_cons, List.not_mem_nil, false_imp_iff, implies_true, and_true]
    refine .obj ?_
    simp [Json.Fits.str]
  have hdocument : Json.documentOfText halfJoined.text = .ok halfJoined.canonical := by
    rw [Json.documentOfText, hfits.ofText (by decide)]
    rfl
  have hquery : ofText halfJoined.text
      = .ok { table := .name "a", joins := [⟨.cross, .name "b", none⟩] } := by
    rw [ofText, hdocument]
    rfl
  exact ⟨hdocument, hquery, (joins_of_ofText hdocument).1 _ hquery⟩

end Query

end BoundSql
