import BoundSql.Proofs.Codec.Records

/-!
# Canonical documents

In a canonical document the keys of an object are in strictly increasing order, so that no key
comes twice, and all values are canonical themselves.
-/

namespace BoundSql.Json

/-! ### The order of the keys -/

lemma keyBefore_iff_lt {as bs : List Char} : keyBefore as bs = true ↔ as < bs := by
  induction as generalizing bs with
  | nil => cases bs <;> simp [keyBefore]
  | cons a as ih =>
    cases bs with
    | nil => simp [keyBefore]
    | cons b bs => simp [keyBefore, ih, List.cons_lt_cons_iff, Char.lt_def, UInt32.lt_iff_toNat_lt]

/-- Whether the keys of fields are in strictly increasing order. -/
def Ordered (fs : List (String × Json)) : Prop :=
  fs.Pairwise fun e e' => e.1.toList < e'.1.toList

lemma Ordered.nodup {fs : List (String × Json)} (h : Ordered fs) : (fs.map Prod.fst).Nodup := by
  rw [List.Nodup, List.pairwise_map]
  refine h.imp fun {e e'} hlt heq => ?_
  rw [heq] at hlt
  exact lt_irrefl _ hlt

lemma mem_putField {k : String} {v : Json} {fs : List (String × Json)} {e : String × Json}
    (h : e ∈ putField k v fs) : e = (k, v) ∨ e ∈ fs := by
  induction fs with
  | nil => exact .inl (List.mem_singleton.mp h)
  | cons f fs ih =>
    obtain ⟨k', v'⟩ := f
    rw [putField] at h
    split_ifs at h
    · exact (List.mem_cons.mp h).imp_right (List.mem_cons_of_mem _)
    · exact List.mem_cons.mp h
    · obtain rfl | h := List.mem_cons.mp h
      · exact .inr List.mem_cons_self
      · exact (ih h).imp_right (List.mem_cons_of_mem _)

lemma Ordered.putField {fs : List (String × Json)} (h : Ordered fs) (k : String) (v : Json) :
    Ordered (putField k v fs) := by
  induction fs with
  | nil => exact List.pairwise_singleton _ _
  | cons f fs ih =>
    obtain ⟨k', v'⟩ := f
    obtain ⟨hlt, hfs⟩ := List.pairwise_cons.mp h
    rw [Json.putField]
    split_ifs with heq hbefore
    · subst heq
      exact List.pairwise_cons.mpr ⟨hlt, hfs⟩
    · rw [keyBefore_iff_lt] at hbefore
      refine List.pairwise_cons.mpr ⟨fun e he => ?_, h⟩
      obtain rfl | he := List.mem_cons.mp he
      · exact hbefore
      · exact hbefore.trans (hlt e he)
    · refine List.pairwise_cons.mpr ⟨fun e he => ?_, ih hfs⟩
      obtain rfl | he := mem_putField he
      · rw [keyBefore_iff_lt, not_lt] at hbefore
        exact lt_of_le_of_ne hbefore fun h => heq (String.toList_injective h).symm
      · exact hlt e he

/-! ### Canonical forms -/

lemma canonicalItems_eq_map (items : List Json) : canonicalItems items = items.map canonical := by
  induction items with
  | nil => simp [canonicalItems]
  | cons v vs ih => simp [canonicalItems, ih]

/-- The keys of a canonical object are in order, and its values are canonical. -/
lemma canonicalFields_ordered {fs done : List (String × Json)} (hordered : Ordered done)
    (hdone : ∀ e ∈ done, ∃ v, e.2 = canonical v) :
    Ordered (canonicalFields fs done) ∧
      ∀ e ∈ canonicalFields fs done, ∃ v, e.2 = canonical v := by
  induction fs generalizing done with
  | nil =>
    rw [canonicalFields]
    exact ⟨hordered, hdone⟩
  | cons f fs ih =>
    obtain ⟨k, v⟩ := f
    rw [canonicalFields]
    refine ih (hordered.putField k v.canonical) fun e he => ?_
    obtain rfl | he := mem_putField he
    · exact ⟨v, rfl⟩
    · exact hdone e he

lemma canonical_eq_obj {j : Json} {fs : List (String × Json)} (h : j.canonical = .obj fs) :
    Ordered fs ∧ ∀ e ∈ fs, ∃ v, e.2 = canonical v := by
  cases j with
  | obj fields =>
    rw [canonical, obj.injEq] at h
    rw [← h]
    exact canonicalFields_ordered List.Pairwise.nil (by simp)
  | null | bool b | num n | str s | arr items => simp [canonical] at h

lemma mem_of_lookup_eq_some {α : Type} {fields : List (String × α)} {k : String} {a : α}
    (h : fields.lookup k = some a) : (k, a) ∈ fields := by
  obtain ⟨l₁, l₂, rfl, -⟩ := List.lookup_eq_some_iff.mp h
  simp

lemma canonical_eq_arr {j : Json} {items : List Json} (h : j.canonical = .arr items) :
    ∀ v ∈ items, ∃ w, v = canonical w := by
  cases j with
  | arr items' =>
    rw [canonical, arr.injEq, canonicalItems_eq_map] at h
    intro v hv
    rw [← h] at hv
    obtain ⟨w, -, rfl⟩ := List.mem_map.mp hv
    exact ⟨w, rfl⟩
  | null | bool b | num n | str s | obj fields => simp [canonical] at h

/-- What stands in a canonical record is canonical. -/
lemma exists_of_member? {j v : Json} {name : String} {place : Nat}
    (h : j.canonical.member? name place = some v) : ∃ w, v = canonical w := by
  cases hj : j.canonical with
  | obj fields =>
    rw [hj, member?] at h
    exact (canonical_eq_obj hj).2 _ (mem_of_lookup_eq_some h)
  | arr items =>
    rw [hj, member?] at h
    exact canonical_eq_arr hj v (List.mem_of_getElem? h)
  | null | bool b | num n | str s => simp [hj, member?] at h

/-! ### What stands under a key -/

lemma lookup_cons_eq_ite {α : Type} (k k' : String) (a : α) (fields : List (String × α)) :
    ((k, a) :: fields).lookup k' = if k' = k then some a else fields.lookup k' := by
  rw [List.lookup_cons]
  by_cases h : k' = k
  · rw [if_pos h, h, BEq.rfl]
  · rw [if_neg h, beq_false_of_ne h]

lemma lookup_putField (k k' : String) (v : Json) (fs : List (String × Json)) :
    (putField k v fs).lookup k' = if k' = k then some v else fs.lookup k' := by
  induction fs with
  | nil => rw [putField, lookup_cons_eq_ite]
  | cons f fs ih =>
    obtain ⟨k₀, v₀⟩ := f
    rw [putField]
    split_ifs with hk <;> simp only [lookup_cons_eq_ite, ih] <;> grind

/-- Of repeated keys the last one counts. -/
lemma lookup_canonicalFields (k : String) (fs done : List (String × Json)) :
    (canonicalFields fs done).lookup k
      = ((fs.reverse.lookup k).map canonical).or (done.lookup k) := by
  induction fs generalizing done with
  | nil => rw [canonicalFields]; rfl
  | cons f fs ih =>
    obtain ⟨k₀, v₀⟩ := f
    rw [canonicalFields, ih, lookup_putField, List.reverse_cons, List.lookup_append,
      lookup_cons_eq_ite]
    cases fs.reverse.lookup k with
    | some v => rfl
    | none => by_cases h : k = k₀ <;> simp [h]

/-- What stands in a document under a key, the last one if it is repeated, or at a place if the
document is an array. -/
def lastMember? (name : String) (place : Nat) : Json → Option Json
  | .obj fields => fields.reverse.lookup name
  | .arr items => items[place]?
  | .null | .bool _ | .num _ | .str _ => none

lemma member?_canonical (j : Json) (name : String) (place : Nat) :
    j.canonical.member? name place = (j.lastMember? name place).map canonical := by
  cases j with
  | obj fields =>
    rw [canonical, member?, lookup_canonicalFields]
    exact Option.or_none
  | arr items => rw [canonical, member?, canonicalItems_eq_map, List.getElem?_map, lastMember?]
  | null | bool b | num n | str s => rfl

end BoundSql.Json
