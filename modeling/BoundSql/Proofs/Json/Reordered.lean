import BoundSql.Proofs.Json.Reading

/-!
# The order of keys

Documents may differ in nothing but the order of the keys of their objects. If no object repeats a
key, a document and its canonical form differ in this way.
-/

namespace BoundSql

/-- Related lists have related elements at each place. -/
lemma rel_getElem?_of_forall₂ {α β : Type} {R : α → β → Prop} {xs : List α} {ys : List β}
    (h : List.Forall₂ R xs ys) (i : Nat) : Option.Rel R xs[i]? ys[i]? := by
  induction h generalizing i with
  | nil => exact .none
  | cons hxy _ ih =>
    cases i with
    | zero => exact .some hxy
    | succ i => exact ih i

namespace Json

/-- Whether no object repeats a key. -/
inductive Distinct : Json → Prop where
  | null : Distinct .null
  | bool (b : Bool) : Distinct (.bool b)
  | num (n : JsonNumber) : Distinct (.num n)
  | str (s : String) : Distinct (.str s)
  | arr {items : List Json} : (∀ v ∈ items, Distinct v) → Distinct (.arr items)
  | obj {fields : List (String × Json)} : (fields.map Prod.fst).Nodup →
      (∀ e ∈ fields, Distinct e.2) → Distinct (.obj fields)

/-- Whether two values are the same but for the order of the keys in their objects. -/
inductive Reordered : Json → Json → Prop where
  | refl (j : Json) : Reordered j j
  | arr {items items' : List Json} : items.length = items'.length →
      (∀ v v', (v, v') ∈ items.zip items' → Reordered v v') → Reordered (.arr items) (.arr items')
  | obj {fields fields' : List (String × Json)} :
      (fields.map Prod.fst).Perm (fields'.map Prod.fst) →
      (∀ k v v', fields.lookup k = some v → fields'.lookup k = some v' → Reordered v v') →
      Reordered (.obj fields) (.obj fields')

/-- A value without what it contains: of an array its length is left, and of an object nothing. -/
def outline : Json → Json
  | .arr items => .arr (items.map fun _ => .null)
  | .obj _ => .obj []
  | j => j

lemma lookup_eq_none_iff_notMem {α : Type} {fields : List (String × α)} {k : String} :
    fields.lookup k = none ↔ k ∉ fields.map Prod.fst := by
  rw [List.lookup_eq_none_iff]
  simp only [bne_iff_ne, ne_eq, List.mem_map, not_exists, not_and]
  constructor
  · rintro h e he rfl
    exact h e he rfl
  · rintro h e he rfl
    exact h e he rfl

/-- Without repeated keys it does not matter from which end a key is looked for. -/
lemma lookup_reverse {α : Type} {fields : List (String × α)} (h : (fields.map Prod.fst).Nodup)
    (k : String) : fields.reverse.lookup k = fields.lookup k := by
  cases hk : fields.lookup k with
  | none =>
    rw [lookup_eq_none_iff_notMem] at hk ⊢
    simpa using hk
  | some v =>
    have hnodup : (fields.reverse.map Prod.fst).Nodup := by
      rw [List.map_reverse, List.nodup_reverse]
      exact h
    exact lookup_eq_some_of_mem hnodup (List.mem_reverse.mpr (mem_of_lookup_eq_some hk))

/-! ### Parts of reordered values -/

namespace Reordered

variable {j j' : Json}

lemma outline_eq (h : Reordered j j') : j.outline = j'.outline := by
  cases h with
  | refl j => rfl
  | arr hlength _ => simp [outline, List.map_const', hlength]
  | obj _ _ => rfl

lemma of_forall₂ {items items' : List Json} (h : List.Forall₂ Reordered items items') :
    Reordered (.arr items) (.arr items') := by
  obtain ⟨hlength, hitems⟩ := List.forall₂_iff_zip.mp h
  exact .arr hlength fun v v' hmem => hitems hmem

lemma forall₂ {items items' : List Json} (h : Reordered (.arr items) (.arr items')) :
    List.Forall₂ Reordered items items' := by
  cases h with
  | refl _ => exact List.forall₂_same.mpr fun v _ => .refl v
  | arr hlength hitems =>
    exact List.forall₂_iff_zip.mpr ⟨hlength, fun hmem => hitems _ _ hmem⟩

lemma perm {fields fields' : List (String × Json)} (h : Reordered (.obj fields) (.obj fields')) :
    (fields.map Prod.fst).Perm (fields'.map Prod.fst) := by
  cases h with
  | refl _ => exact .refl _
  | obj hkeys _ => exact hkeys

lemma lookup {fields fields' : List (String × Json)} (h : Reordered (.obj fields) (.obj fields'))
    (k : String) : Option.Rel Reordered (fields.lookup k) (fields'.lookup k) := by
  cases h with
  | refl _ => cases fields.lookup k with
    | none => exact .none
    | some v => exact .some (.refl v)
  | obj hkeys hvalues =>
    cases hv : fields.lookup k with
    | none =>
      rw [lookup_eq_none_iff_notMem, hkeys.mem_iff, ← lookup_eq_none_iff_notMem] at hv
      rw [hv]
      exact .none
    | some v =>
      have hmem : k ∈ fields'.map Prod.fst :=
        hkeys.mem_iff.mp (List.mem_map_of_mem (mem_of_lookup_eq_some hv))
      cases hv' : fields'.lookup k with
      | none => exact absurd hmem (lookup_eq_none_iff_notMem.mp hv')
      | some v' => exact .some (hvalues k v v' hv hv')

lemma member? (h : Reordered j j') (name : String) (place : Nat) :
    Option.Rel Reordered (j.member? name place) (j'.member? name place) := by
  cases h with
  | refl j => cases j.member? name place with
    | none => exact .none
    | some v => exact .some (.refl v)
  | arr hlength hitems => exact rel_getElem?_of_forall₂ (forall₂ (.arr hlength hitems)) place
  | obj hkeys hvalues => exact lookup (.obj hkeys hvalues) name

end Reordered

lemma Distinct.nodup {fields : List (String × Json)} (h : (Json.obj fields).Distinct) :
    (fields.map Prod.fst).Nodup := by
  cases h with
  | obj hnodup _ => exact hnodup

lemma Distinct.lookup {fields : List (String × Json)} (h : (Json.obj fields).Distinct) (k : String)
    (v : Json) (hv : fields.lookup k = some v) : v.Distinct := by
  cases h with
  | obj _ hfields => exact hfields _ (mem_of_lookup_eq_some hv)

lemma Distinct.member? {j v : Json} (h : j.Distinct) {name : String} {place : Nat}
    (hv : j.member? name place = some v) : v.Distinct := by
  cases h with
  | null | bool b | num n | str s => simp [Json.member?] at hv
  | arr hitems => exact hitems v (List.mem_of_getElem? hv)
  | obj hnodup hfields => exact (Distinct.obj hnodup hfields).lookup name v hv

/-- No keys are repeated if some fields of an object are left out. -/
lemma Distinct.filter {fields : List (String × Json)} (h : (Json.obj fields).Distinct)
    (keep : String × Json → Bool) : (Json.obj (fields.filter keep)).Distinct := by
  cases h with | obj hnodup hfields =>
  apply Distinct.obj
  · exact hnodup.sublist (List.filter_sublist.map Prod.fst)
  · intro e he
    exact hfields e (List.mem_of_mem_filter he)

/-! ### Canonical forms -/

/-- The canonical form of an object without repeated keys has the same keys. -/
lemma perm_canonicalFields {fields : List (String × Json)} (h : (fields.map Prod.fst).Nodup) :
    ((canonicalFields fields []).map Prod.fst).Perm (fields.map Prod.fst) := by
  have hordered : Ordered (canonicalFields fields []) :=
    (canonicalFields_ordered List.Pairwise.nil (by simp)).1
  apply (List.perm_ext_iff_of_nodup hordered.nodup h).mpr
  intro k
  rw [← not_iff_not, ← lookup_eq_none_iff_notMem, ← lookup_eq_none_iff_notMem,
    lookup_canonicalFields, lookup_reverse h]
  simp

lemma lookup_canonicalFields_of_nodup {fields : List (String × Json)}
    (h : (fields.map Prod.fst).Nodup) (k : String) :
    (canonicalFields fields []).lookup k = (fields.lookup k).map canonical := by
  rw [lookup_canonicalFields, lookup_reverse h, List.lookup_nil, Option.or_none]

lemma Distinct.canonical {j : Json} (h : j.Distinct) : j.canonical.Distinct := by
  induction h with
  | null => exact .null
  | bool b => exact .bool b
  | num n => exact .num n
  | str s => exact .str s
  | arr _ ih =>
    rw [Json.canonical, canonicalItems_eq_map]
    exact .arr (List.forall_mem_map.mpr ih)
  | @obj fields hnodup _ ih =>
    rw [Json.canonical]
    have hordered : Ordered (canonicalFields fields []) :=
      (canonicalFields_ordered List.Pairwise.nil (by simp)).1
    apply Distinct.obj hordered.nodup
    intro e he
    have hlookup := lookup_eq_some_of_mem hordered.nodup he
    rw [lookup_canonicalFields_of_nodup hnodup] at hlookup
    obtain ⟨v, hv, hcanonical⟩ := Option.map_eq_some_iff.mp hlookup
    rw [← hcanonical]
    exact ih _ (mem_of_lookup_eq_some hv)

/-- A document without repeated keys is its canonical form but for the order of the keys. -/
theorem Distinct.reordered_canonical {j : Json} (h : j.Distinct) : Reordered j.canonical j := by
  induction h with
  | null | bool b | num n | str s => exact .refl _
  | arr _ ih =>
    rw [Json.canonical, canonicalItems_eq_map]
    apply Reordered.of_forall₂
    exact List.forall₂_map_left_iff.mpr (List.forall₂_same.mpr ih)
  | @obj fields hnodup _ ih =>
    rw [Json.canonical]
    apply Reordered.obj (perm_canonicalFields hnodup)
    intro k v v' hv hv'
    rw [lookup_canonicalFields_of_nodup hnodup, hv', Option.map_some, Option.some.injEq] at hv
    rw [← hv]
    exact ih _ (mem_of_lookup_eq_some hv')

end Json

/-! ### Drafts of documents -/

namespace Draft

lemma key_eq_ok {d : Draft} {k : String} : d.key = .ok k ↔ d = .str (some k) := by
  cases d with
  | str s? => cases s? <;> simp [key]
  | torn quoted f g => cases quoted <;> simp [key]
  | null | bool b | num n | arr items close | obj fields close | deep d | missing => simp [key]

lemma check_eq_ok {close : Option Fault} {u : Unit} : check close = .ok u ↔ close = none := by
  cases close <;> simp [check]

mutual
/-- A draft that settles has no faults in it. -/
lemma eq_draft_of_settle (d : Draft) {j : Json} (h : d.settle = .ok j) : d = j.draft := by
  match d with
  | .null | .bool _ =>
    rw [settle, Except.ok.injEq] at h
    rw [← h, Json.draft]
  | .num n? =>
    cases n? with
    | none => simp [settle] at h
    | some n =>
      rw [settle, Except.ok.injEq] at h
      rw [← h, Json.draft]
  | .str s? =>
    cases s? with
    | none => simp [settle] at h
    | some s =>
      rw [settle, Except.ok.injEq] at h
      rw [← h, Json.draft]
  | .arr items close =>
    rw [settle] at h
    obtain ⟨vs, hvs, h⟩ := bind_eq_ok.mp h
    obtain ⟨_, hclose, h⟩ := bind_eq_ok.mp h
    rw [← pure_eq_ok.mp h, Json.draft, eq_draftItems_of_settleItems items hvs,
      check_eq_ok.mp hclose]
  | .obj fields close =>
    rw [settle] at h
    obtain ⟨es, hes, h⟩ := bind_eq_ok.mp h
    obtain ⟨_, hclose, h⟩ := bind_eq_ok.mp h
    rw [← pure_eq_ok.mp h, Json.draft, eq_draftFields_of_settleFields fields hes,
      check_eq_ok.mp hclose]
  | .deep _ | .missing | .torn _ _ _ => simp [settle] at h

lemma eq_draftItems_of_settleItems (ds : List Draft) {vs : List Json}
    (h : settleItems ds = .ok vs) : ds = Json.draftItems vs := by
  match ds with
  | [] =>
    rw [settleItems, Except.ok.injEq] at h
    rw [← h, Json.draftItems]
  | d :: ds =>
    rw [settleItems] at h
    obtain ⟨v, hv, h⟩ := bind_eq_ok.mp h
    obtain ⟨vs, hvs, h⟩ := bind_eq_ok.mp h
    rw [← pure_eq_ok.mp h, Json.draftItems, eq_draft_of_settle d hv,
      eq_draftItems_of_settleItems ds hvs]

lemma eq_draftFields_of_settleFields (fs : List (Draft × Draft)) {es : List (String × Json)}
    (h : settleFields fs = .ok es) : fs = Json.draftFields es := by
  match fs with
  | [] =>
    rw [settleFields, Except.ok.injEq] at h
    rw [← h, Json.draftFields]
  | (k, d) :: fs =>
    rw [settleFields] at h
    obtain ⟨s, hs, h⟩ := bind_eq_ok.mp h
    obtain ⟨v, hv, h⟩ := bind_eq_ok.mp h
    obtain ⟨es, hes, h⟩ := bind_eq_ok.mp h
    rw [← pure_eq_ok.mp h, Json.draftFields, key_eq_ok.mp hs, eq_draft_of_settle d hv,
      eq_draftFields_of_settleFields fs hes]
end

end Draft

/-- A text that is a document is decoded like the document. -/
lemma decodeText_of_ofText {α : Type} {read : Draft → Decoded α} {s : String} {j : Json}
    (h : Json.ofText s = .ok j) : decodeText read s = read j.draft := by
  rw [Json.ofText] at h
  rw [decodeText]
  cases hchars : Draft.ofChars s.toList with | mk d rest =>
  rw [hchars] at h
  obtain ⟨v, hv, h⟩ := bind_eq_ok.mp h
  split_ifs at h with hrest
  obtain rfl := pure_eq_ok.mp h
  rw [d.eq_draft_of_settle hv]
  dsimp only
  simp only [hrest, if_true]
  cases read v.draft <;> rfl

end BoundSql
