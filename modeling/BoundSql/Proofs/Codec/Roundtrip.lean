import BoundSql.Proofs.Codec.Written
import BoundSql.Proofs.Json.Reading

/-!
# Queries and their texts

A query is read back from its own text, with null for every double that is not finite. A query
that was read from a text has no such doubles, and so it is read back as it is.
-/

namespace BoundSql

open Decimal

/-! ### Values that were read -/

/-- A double that was read is finite, also one that stands for a large integer. -/
lemma SqlValue.finite_of_ofJson? {n : Nat} {j : Json} (hj : Json.Fits n j) {v : SqlValue}
    (h : ofJson? j = some v) : v.finite = v := by
  cases hj with
  | null | bool b | str s =>
    obtain rfl := Option.some.inj h
    rfl
  | int _ =>
    rw [ofJson?] at h
    split_ifs at h
    · obtain rfl := Option.some.inj h
      rfl
    · obtain ⟨x, hx, rfl⟩ := Option.map_eq_some_iff.mp h
      rw [finite, if_pos (Double.isFinite_ofDecimal? hx)]
  | real hx =>
    obtain rfl := Option.some.inj h
    rw [finite, if_pos hx]
  | arr _ =>
    obtain ⟨bytes, -, rfl⟩ := Option.map_eq_some_iff.mp h
    rfl
  | obj _ => exact absurd h (by simp [ofJson?])

lemma Value.finite_of_ofJson? {n : Nat} {j : Json} (hj : Json.Fits n j) {v : Value}
    (h : ofJson? j = some v) : v.mapParam .finite = v := by
  rw [ofJson?] at h
  split at h
  · obtain rfl := Option.some.inj h
    rfl
  · obtain ⟨w, hw, rfl⟩ := Option.map_eq_some_iff.mp h
    rw [mapParam, SqlValue.finite_of_ofJson? hj hw]

lemma Value.finite_of_read {n : Nat} {j : Json} (hj : Json.Fits n j) {v : Value}
    (h : Value.read j.draft = .ok v) : v.mapParam .finite = v :=
  finite_of_ofJson? hj (Draft.readForms_draft.mp h)

lemma Value.finite_of_readList {n : Nat} {j : Json} (hj : Json.Fits n j) {vs : List Value}
    (h : Draft.readList Value.read j.draft = .ok vs) : vs.map (mapParam .finite) = vs := by
  obtain ⟨items, rfl, hitems⟩ := Draft.readList_draft.mp h
  cases hj with
  | arr hj =>
    refine (List.map_congr_left fun v hv => ?_).trans vs.map_id
    obtain ⟨w, hw, hv⟩ := exists_of_mem_forall₂ hitems hv
    exact finite_of_read (hj w hw) hv

/-! ### Predicates and clauses -/

/-- Whether the doubles among the parts of a predicate are finite. -/
structure PredicateParts.Finite (p : PredicateParts) : Prop where
  value : ∀ v, p.value = some v → v.mapParam .finite = v
  values : ∀ vs, p.values = some vs → vs.map (Value.mapParam .finite) = vs
  low : ∀ v, p.low = some v → v.mapParam .finite = v
  high : ∀ v, p.high = some v → v.mapParam .finite = v

namespace PredicateParts

/-- The fields of all kinds of predicate. -/
def allFields : List (Field PredicateParts) :=
  [columnField, operatorField, valueField, valuesField, lowField, highField, firstField,
    secondField, sqlField]

/-- What a field decodes is finite. -/
lemma Finite.set {f : Field PredicateParts} (hf : f ∈ allFields) {n : Nat} {j : Json}
    (hj : Json.Fits n j) {p p' : PredicateParts} (hp : p.Finite)
    (h : f.set j.draft p = .ok p') : p'.Finite := by
  simp only [allFields, List.mem_cons, List.not_mem_nil, or_false] at hf
  obtain rfl | rfl | rfl | rfl | rfl | rfl | rfl | rfl | rfl := hf
  all_goals obtain ⟨a, ha, rfl⟩ := Field.set_of.mp h
  · exact ⟨hp.value, hp.values, hp.low, hp.high⟩
  · exact ⟨hp.value, hp.values, hp.low, hp.high⟩
  · exact ⟨fun v hv => Option.some.inj hv ▸ Value.finite_of_read hj ha, hp.values, hp.low, hp.high⟩
  · exact ⟨hp.value, fun vs hvs => Option.some.inj hvs ▸ Value.finite_of_readList hj ha, hp.low,
      hp.high⟩
  · exact ⟨hp.value, hp.values, fun v hv => Option.some.inj hv ▸ Value.finite_of_read hj ha,
      hp.high⟩
  · exact ⟨hp.value, hp.values, hp.low, fun v hv => Option.some.inj hv ▸ Value.finite_of_read hj ha⟩
  · exact ⟨hp.value, hp.values, hp.low, hp.high⟩
  · exact ⟨hp.value, hp.values, hp.low, hp.high⟩
  · exact ⟨hp.value, hp.values, hp.low, hp.high⟩

/-- A predicate is finite if its parts are. -/
lemma Finite.build {p : PredicateParts} (hp : p.Finite) {k : PredicateKind} {b : Predicate}
    (h : p.build k = .ok b) : b.mapParams .finite = b := by
  cases k <;>
    simp only [PredicateParts.build, bind_eq_ok, map_eq_ok, required_eq_ok, pure_eq_ok] at h
  case compare =>
    obtain ⟨column, -, op, -, v, hv, rfl⟩ := h
    rw [Predicate.mapParams, hp.value v hv]
  case isIn | notIn =>
    obtain ⟨column, -, vs, hvs, rfl⟩ := h
    rw [Predicate.mapParams, hp.values vs hvs]
  case between | notBetween =>
    obtain ⟨column, -, low, hlow, high, hhigh, rfl⟩ := h
    rw [Predicate.mapParams, hp.low low hlow, hp.high high hhigh]
  case compareColumns =>
    obtain ⟨first, -, op, -, second, -, rfl⟩ := h
    rfl
  all_goals
    obtain ⟨a, -, rfl⟩ := h
    rfl

end PredicateParts

lemma PredicateKind.fields_subset (k : PredicateKind) : k.fields ⊆ PredicateParts.allFields := by
  cases k <;> simp [fields, PredicateParts.allFields]

/-- The doubles of a predicate that was read are finite, since no field adds others. -/
lemma PredicateKind.finite_of_readFields {k : PredicateKind} {n : Nat}
    {fields : List (String × Json)} (hfields : ∀ e ∈ fields, Json.Fits n e.2) {p : Predicate}
    (h : k.readFields fields = .ok p) : p.mapParams .finite = p := by
  obtain ⟨parts, hparts, hbuild⟩ := Shape.readObject_eq_ok.mp h
  have hstart : PredicateParts.Finite {} := ⟨by simp, by simp, by simp, by simp⟩
  refine PredicateParts.Finite.build ?_ hbuild
  refine Shape.readFields_induction PredicateParts.Finite ?_ hstart hparts
  intro e he p p' hp hstep
  obtain ⟨f, hf, -, hset⟩ | ⟨-, hother⟩ := Shape.step_eq_ok.mp hstep
  · exact hp.set (k.fields_subset (List.mem_of_find?_eq_some hf)) (hfields e he) hset
  · have hignore : Shape.ignore e.1 e.2.draft p = .ok p' := hother
    exact (Shape.ignore_eq_ok.mp hignore).2 ▸ hp

lemma Predicate.finite_of_readFields {r : Reading} {n : Nat} {fields : List (String × Json)}
    (hfields : ∀ e ∈ fields, Json.Fits n e.2) {p : Predicate}
    (h : readFields r (Json.draftFields fields) none = .ok p) : p.mapParams .finite = p := by
  obtain ⟨⟨kind, kept⟩, hkind, hp⟩ := bind_eq_ok.mp h
  obtain ⟨parts, hparts, hfinish⟩ := Shape.readObject_eq_ok.mp hkind
  obtain ⟨kind', -, hfinish⟩ := bind_eq_ok.mp hfinish
  obtain ⟨rfl, rfl⟩ := Prod.mk.inj (pure_eq_ok.mp hfinish)
  rw [(picks_taggedShape r).fields_of_readFields hparts] at hp
  exact PredicateKind.finite_of_readFields (fun e he => hfields e (List.mem_of_mem_filter he)) hp

lemma Clause.finite_of_read {r : Reading} {n : Nat} {j : Json} (hj : Json.Fits n j) {c : Clause}
    (h : Clause.read r j.draft = .ok c) : c.mapParams .finite = c := by
  cases hj with
  | obj hfields =>
    obtain ⟨p, hp, h⟩ := bind_eq_ok.mp h
    obtain ⟨predicate, hpredicate, h⟩ := bind_eq_ok.mp h
    obtain ⟨parts, hparts, hfinish⟩ := Shape.readObject_eq_ok.mp hp
    obtain rfl := pure_eq_ok.mp hfinish
    obtain rfl := pure_eq_ok.mp h
    rw [(picks_shape r).fields_of_readFields hparts] at hpredicate
    rw [mapParams, Predicate.finite_of_readFields
      (fun e he => hfields e (List.mem_of_mem_filter he)) hpredicate]
  | null | bool b | str s | int _ | real _ | arr _ => exact absurd h (Draft.wrongType_ne_ok _ _ _)

/-! ### Queries -/

lemma Json.Fits.exists_of_member? {n : Nat} {j v : Json} (hj : Fits n j) {name : String}
    {place : Nat} (h : j.member? name place = some v) : ∃ m, Fits m v := by
  cases hj with
  | arr hitems => exact ⟨_, hitems v (List.mem_of_getElem? h)⟩
  | obj hfields => exact ⟨_, hfields _ (mem_of_lookup_eq_some h)⟩
  | null | bool b | str s | int _ | real _ => simp [member?] at h

namespace Query

lemma part_clauses (r : Reading) :
    (shape r).Part "wheres" 5 QueryParts.clauses (Draft.readList (Clause.read r)) :=
  .of rfl (fun _ _ => rfl) (by simp [shape, Field.name_of, Field.forall_set_of])
    (Shape.get_of_ignore rfl)

/-- The doubles of a query that was read from a document are finite. -/
lemma finite_of_read {r : Reading} {n : Nat} {j : Json} (hj : Json.Fits n j) {q : Query}
    (h : Query.read r j.draft = .ok q) : q.mapParams .finite = q := by
  obtain ⟨p, hp, hclauses⟩ := (part_clauses r).exists_of_read rfl h
  have hfinite : ∀ c ∈ q.clauses, c.mapParams .finite = c := by
    rw [(lists_of_build hp).2]
    cases hmember : j.member? "wheres" 5 with
    | none =>
      rw [hmember] at hclauses
      simp [hclauses]
    | some v =>
      rw [hmember] at hclauses
      obtain ⟨cs, hcs, hget⟩ := hclauses
      obtain ⟨items, rfl, hitems⟩ := Draft.readList_draft.mp hcs
      obtain ⟨m, hv⟩ := hj.exists_of_member? hmember
      rw [hget]
      intro c hc
      obtain ⟨w, hw, hread⟩ := exists_of_mem_forall₂ hitems hc
      cases hv with
      | arr hv => exact Clause.finite_of_read (hv w hw) hread
  rw [mapParams, (List.map_congr_left hfinite).trans q.clauses.map_id]

/-- The doubles of a query that was read from a text are finite. -/
lemma finite_of_ofText {s : String} {q : Query} (h : ofText s = .ok q) :
    q.mapParams .finite = q := by
  rw [ofText] at h
  split at h
  · next document hdocument =>
    exact finite_of_read (Json.fits_of_documentOfText hdocument) (read_of_ofDocument h)
  · simp at h

/-- A query is read back from its text, with null for doubles that are not finite, and one that
was read from a text is read back as it is. -/
theorem ofText_text : (∀ q : Query, ofText q.text = .ok (q.mapParams SqlValue.finite)) ∧
    ∀ (s : String) (q : Query), ofText s = .ok q → ofText q.text = .ok q := by
  refine ⟨ofText_toText, fun s q h => ?_⟩
  rw [ofText_toText, finite_of_ofText h]

/-- The query that compares a column with a value. -/
def comparison (value : SqlValue) : Query :=
  { ofTable (.name "t") with clauses := [⟨.and, .compare (.name "a") .eq (.param value)⟩] }

/-- A comparison with not-a-number comes back as a comparison with null, which comes back as it
is. -/
theorem ofText_comparison :
    ofText (comparison (.float ⟨0x7FF8000000000000⟩)).text = .ok (comparison .null) ∧
      ofText (comparison .null).text = .ok (comparison .null) := by
  have hnan : ofText (comparison (.float ⟨0x7FF8000000000000⟩)).text = .ok (comparison .null) :=
    ofText_text.1 (comparison (.float ⟨0x7FF8000000000000⟩))
  exact ⟨hnan, ofText_text.2 _ _ hnan⟩

end Query

end BoundSql
