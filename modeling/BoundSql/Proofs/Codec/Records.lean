import BoundSql.Codec.Query
import BoundSql.Proofs.Success

/-!
# Records and their fields

A record is decoded field by field into parts. Each part belongs to one field: it is what this
field decodes, and no other field touches it. So a part of a decoded record is what stands under
the key of its field, or at the place of the field if the record is an array.
-/

namespace BoundSql

lemma ok_bind {ε α β : Type} (a : α) (f : α → Except ε β) : (.ok a : Except ε α) >>= f = f a := rfl

namespace Json

lemma draftItems_eq_map (items : List Json) : draftItems items = items.map draft := by
  induction items with
  | nil => simp [draftItems]
  | cons v vs ih => simp [draftItems, ih]

end Json

/-- Without repeated keys a field is what its key leads to. -/
lemma lookup_eq_some_of_mem {α : Type} {fields : List (String × α)}
    (h : (fields.map Prod.fst).Nodup) {e : String × α} (he : e ∈ fields) :
    fields.lookup e.1 = some e.2 := by
  induction fields with
  | nil => simp at he
  | cons f fields ih =>
    rw [List.map_cons, List.nodup_cons] at h
    obtain rfl | he := List.mem_cons.mp he
    · rw [List.lookup_cons, BEq.rfl]
    · have hne : e.1 ≠ f.1 := fun heq => h.1 (heq ▸ List.mem_map_of_mem he)
      rw [List.lookup_cons, beq_false_of_ne hne]
      exact ih h.2 he

/-- The key of a field that is kept leads to the same value among the fields that are kept. -/
lemma lookup_filter {α : Type} {fields : List (String × α)} {keep : String × α → Bool} {k : String}
    (h : ∀ v, keep (k, v) = true) : (fields.filter keep).lookup k = fields.lookup k := by
  induction fields with
  | nil => rfl
  | cons f fields ih =>
    obtain ⟨k', v⟩ := f
    rw [List.filter_cons, List.lookup_cons]
    by_cases hk : k = k'
    · rw [hk] at h ⊢
      rw [h v, if_pos rfl, List.lookup_cons, BEq.rfl]
    · rw [beq_false_of_ne hk, ← ih]
      split_ifs
      · rw [List.lookup_cons, beq_false_of_ne hk]
      · rfl

namespace Decoded

variable {α : Type}

@[simp] lemma ofFault_ok (a : α) : ofFault (.ok a) = .ok a := rfl

lemma ofFault_eq_ok {x : Except Fault α} {a : α} : ofFault x = .ok a ↔ x = .ok a := by
  cases x <;> simp [ofFault]

lemma toOption_eq_some {x : Decoded α} {a : α} : x.toOption = some a ↔ x = .ok a := by
  cases x <;> simp [toOption]

lemma toOption_bind {β : Type} (x : Decoded α) (f : α → Decoded β) :
    (x >>= f).toOption = x.toOption.bind fun a => (f a).toOption := by
  cases x <;> rfl

@[simp] lemma mismatch_ne_ok (m : Mismatch) (a : α) : (mismatch m : Decoded α) ≠ .ok a := by
  simp [mismatch]

@[simp] lemma malformed_ne_ok (a : α) : (malformed : Decoded α) ≠ .ok a := by
  simp [malformed]

end Decoded

@[simp] lemma Draft.wrongType_ne_ok {α : Type} (expected : String) (d : Draft) (a : α) :
    (d.wrongType expected : Decoded α) ≠ .ok a := by
  simp [wrongType, bind_eq_ok]

/-- A list is decoded item by item. -/
lemma Draft.readList_draft {α : Type} {read : Draft → Decoded α} {j : Json} {as : List α} :
    readList read j.draft = .ok as ↔
      ∃ items, j = .arr items ∧ List.Forall₂ (fun v a => read v.draft = .ok a) items as := by
  cases j with
  | arr items =>
    rw [Json.draft, readList, Json.draftItems_eq_map, List.mapM_map, bind_eq_ok]
    simp only [mapM_eq_ok, check, Decoded.ofFault_ok, Json.arr.injEq, exists_eq_left']
    exact ⟨fun ⟨_, hitems, h⟩ => pure_eq_ok.mp h ▸ hitems, fun h => ⟨as, h, rfl⟩⟩
  | null | bool b | num n | str s | obj fields =>
    simp only [reduceCtorEq, false_and, exists_false, iff_false]
    exact wrongType_ne_ok _ _ _

lemma required_eq_ok {α : Type} {name : String} {a? : Option α} {a : α} :
    required name a? = .ok a ↔ a? = some a := by
  cases a? <;> simp [required]

/-- A field sets its part to what it decodes. -/
lemma Field.set_of {σ α : Type} {name : String} {get : σ → Option α} {put : α → σ → σ}
    {read : Draft → Decoded α} {d : Draft} {p p' : σ} :
    (Field.of name get put read).set d p = .ok p' ↔ ∃ a, read d = .ok a ∧ put a p = p' := by
  simp only [of, bind_eq_ok, pure_eq_ok]

lemma Field.set_ok {σ α : Type} {name : String} {get : σ → Option α} {put : α → σ → σ}
    {read : Draft → Decoded α} {d : Draft} {p : σ} {a : α} (h : read d = .ok a) :
    (Field.of name get put read).set d p = .ok (put a p) :=
  set_of.mpr ⟨a, h, rfl⟩

lemma Field.name_of {σ α : Type} {name : String} {get : σ → Option α} {put : α → σ → σ}
    {read : Draft → Decoded α} : (Field.of name get put read).name = name := rfl

lemma Field.isSet_of {σ α : Type} {name : String} {get : σ → Option α} {put : α → σ → σ}
    {read : Draft → Decoded α} {p : σ} :
    (Field.of name get put read).isSet p = (get p).isSome := rfl

/-- What holds of all that a field does. -/
lemma Field.forall_set_of {σ α : Type} {name : String} {get : σ → Option α} {put : α → σ → σ}
    {read : Draft → Decoded α} {P : σ → σ → Prop} :
    (∀ d p p', (Field.of name get put read).set d p = .ok p' → P p p') ↔
      ∀ d p a, read d = .ok a → P p (put a p) := by
  simp only [set_of]
  exact ⟨fun h d p a ha => h d p _ ⟨a, ha, rfl⟩, fun h d p p' ⟨a, ha, hp⟩ => hp ▸ h d p a ha⟩

mutual
/-- Documents can be skipped. -/
lemma Json.skip_draft (j : Json) : j.draft.skip = .ok () := by
  match j with
  | .null | .bool _ | .num _ | .str _ => simp [draft, Draft.skip]
  | .arr items => simp [draft, Draft.skip, skipItems_draftItems items, Draft.check, bind_eq_ok]
  | .obj fields => simp [draft, Draft.skip, skipFields_draftFields fields, Draft.check, bind_eq_ok]

lemma Json.skipItems_draftItems (items : List Json) :
    Draft.skipItems (draftItems items) = .ok () := by
  match items with
  | [] => simp [draftItems, Draft.skipItems]
  | v :: vs => simp [draftItems, Draft.skipItems, skip_draft v, skipItems_draftItems vs, bind_eq_ok]

lemma Json.skipFields_draftFields (fields : List (String × Json)) :
    Draft.skipFields (draftFields fields) = .ok () := by
  match fields with
  | [] => simp [draftFields, Draft.skipFields]
  | (k, v) :: fs =>
    simp [draftFields, Draft.skipFields, Draft.skipKey, skip_draft v, skipFields_draftFields fs,
      bind_eq_ok]
end

namespace Shape

variable {σ α β : Type} {s : Shape σ}

lemma ignore_eq_ok {k : String} {d : Draft} {p p' : σ} :
    ignore k d p = .ok p' ↔ d.skip = .ok () ∧ p = p' := by
  simp only [ignore, bind_eq_ok, pure_eq_ok, Decoded.ofFault_eq_ok, exists_and_right]
  exact and_congr_left fun _ => ⟨fun ⟨(), h⟩ => h, fun h => ⟨(), h⟩⟩

lemma exists_ignore (k : String) (v : Json) (p : σ) : ∃ p', ignore k v.draft p = .ok p' :=
  ⟨p, ignore_eq_ok.mpr ⟨v.skip_draft, rfl⟩⟩

/-- What is skipped leaves the record alone. -/
lemma get_of_ignore (hs : s.other = ignore) {get : σ → α} (k : String) (d : Draft) (p p' : σ)
    (h : s.other k d p = .ok p') : get p' = get p := by
  rw [hs, ignore_eq_ok] at h
  rw [h.2]

/-! ### Step by step -/

/-- What one field of an object does to the parts. -/
def step (s : Shape σ) (k : String) (v : Json) (p : σ) : Decoded σ :=
  match s.fields.find? (·.name == k) with
  | some f => if f.isSet p then Decoded.mismatch (.duplicateField k) else f.set v.draft p
  | none => s.other k v.draft p

lemma readFields_cons (e : String × Json) (fields : List (String × Json)) (p : σ) :
    s.readFields (Json.draftFields (e :: fields)) p
      = s.step e.1 e.2 p >>= s.readFields (Json.draftFields fields) := by
  rw [Json.draftFields, readFields, Draft.key, Decoded.ofFault_ok, step]
  simp only [bind, Except.bind]
  cases s.fields.find? (·.name == e.1) with
  | none => rfl
  | some f =>
    dsimp only
    split_ifs <;> rfl

lemma step_eq_ok {k : String} {v : Json} {p p' : σ} :
    s.step k v p = .ok p' ↔
      (∃ f, s.fields.find? (·.name == k) = some f ∧ f.isSet p = false ∧ f.set v.draft p = .ok p') ∨
      s.fields.find? (·.name == k) = none ∧ s.other k v.draft p = .ok p' := by
  rw [step]
  cases hfind : s.fields.find? (·.name == k) with
  | none => simp
  | some f => cases hset : f.isSet p <;> simp [hset]

lemma readFields_nil (p : σ) : s.readFields (Json.draftFields []) p = .ok p := by
  rw [Json.draftFields, readFields]

/-- A field of the record that comes first is decoded first. -/
lemma readFields_own {f : Field σ} {k : String} {v : Json} {fields : List (String × Json)}
    {p q : σ} (hfind : s.fields.find? (·.name == k) = some f) (hunset : f.isSet p = false)
    (hset : f.set v.draft p = .ok q) :
    s.readFields (Json.draftFields ((k, v) :: fields)) p
      = s.readFields (Json.draftFields fields) q := by
  rw [readFields_cons, step_eq_ok.mpr (.inl ⟨f, hfind, hunset, hset⟩), ok_bind]

/-- What one field keeps is kept by all fields of an object. -/
lemma readFields_induction (Inv : σ → Prop) {fields : List (String × Json)} {p p' : σ}
    (hstep : ∀ e ∈ fields, ∀ p p', Inv p → s.step e.1 e.2 p = .ok p' → Inv p')
    (hp : Inv p) (h : s.readFields (Json.draftFields fields) p = .ok p') : Inv p' := by
  induction fields generalizing p with
  | nil =>
    rw [Json.draftFields, readFields, Except.ok.injEq] at h
    exact h ▸ hp
  | cons e fields ih =>
    rw [readFields_cons, bind_eq_ok] at h
    obtain ⟨q, hq, h⟩ := h
    exact ih (fun e he => hstep e (List.mem_cons_of_mem _ he))
      (hstep e List.mem_cons_self p q hp hq) h

/-- What one field keeps is kept by all elements of an array. -/
lemma readElements_induction (Inv : σ → Prop) {fs : List (Field σ)} {items : List Json}
    {p p' : σ} {rest : List Draft}
    (hset : ∀ f ∈ fs, ∀ v ∈ items, ∀ p p', Inv p → f.set v.draft p = .ok p' → Inv p')
    (hp : Inv p) (h : readElements fs (Json.draftItems items) p = .ok (p', rest)) : Inv p' := by
  induction fs generalizing items p with
  | nil =>
    simp only [readElements, Except.ok.injEq, Prod.mk.injEq] at h
    exact h.1 ▸ hp
  | cons f fs ih =>
    cases items with
    | nil =>
      simp only [Json.draftItems, readElements, Except.ok.injEq, Prod.mk.injEq] at h
      exact h.1 ▸ hp
    | cons v items =>
      rw [Json.draftItems, readElements, bind_eq_ok] at h
      obtain ⟨q, hq, h⟩ := h
      exact ih (fun f hf v hv => hset f (List.mem_cons_of_mem _ hf) v (List.mem_cons_of_mem _ hv))
        (hset f List.mem_cons_self v List.mem_cons_self p q hp hq) h

/-! ### Success -/

/-- A field is marked as decoded by nothing but its own value. -/
structure Lawful (s : Shape σ) : Prop where
  set : ∀ f ∈ s.fields, ∀ g ∈ s.fields, f.name ≠ g.name →
    ∀ d p p', g.set d p = .ok p' → f.isSet p' = f.isSet p
  rest : ∀ f ∈ s.fields, ∀ k d p p', s.other k d p = .ok p' → f.isSet p' = f.isSet p

lemma Lawful.isSet_step (hs : s.Lawful) {k : String} {v : Json} {p p' : σ}
    (h : s.step k v p = .ok p') {f : Field σ} (hf : f ∈ s.fields) (hk : f.name ≠ k) :
    f.isSet p' = f.isSet p := by
  obtain ⟨g, hg, -, h⟩ | ⟨-, h⟩ := step_eq_ok.mp h
  · have hname : g.name = k := by simpa using List.find?_some hg
    exact hs.set f hf g (List.mem_of_find?_eq_some hg) (hname ▸ hk) _ _ _ h
  · exact hs.rest f hf _ _ _ _ h

/-- An object without repeated keys is decoded if each of its fields can be. -/
lemma Lawful.exists_readFields (hs : s.Lawful) {fields : List (String × Json)}
    (hnodup : (fields.map Prod.fst).Nodup)
    (hset : ∀ e ∈ fields, ∀ f ∈ s.fields, f.name = e.1 →
      ∀ p, ∃ p', f.set e.2.draft p = .ok p')
    (hother : ∀ e ∈ fields, (∀ f ∈ s.fields, f.name ≠ e.1) →
      ∀ p, ∃ p', s.other e.1 e.2.draft p = .ok p')
    {p : σ} (hunset : ∀ f ∈ s.fields, f.name ∈ fields.map Prod.fst → f.isSet p = false) :
    ∃ p', s.readFields (Json.draftFields fields) p = .ok p' := by
  induction fields generalizing p with
  | nil => exact ⟨p, by rw [Json.draftFields, readFields]⟩
  | cons e fields ih =>
    rw [List.map_cons, List.nodup_cons] at hnodup
    obtain ⟨q, hq⟩ : ∃ q, s.step e.1 e.2 p = .ok q := by
      cases hfind : s.fields.find? (·.name == e.1) with
      | none =>
        have hnone : ∀ f ∈ s.fields, f.name ≠ e.1 := by simpa using hfind
        obtain ⟨q, hq⟩ := hother e List.mem_cons_self hnone p
        exact ⟨q, step_eq_ok.mpr (.inr ⟨hfind, hq⟩)⟩
      | some f =>
        have hf := List.mem_of_find?_eq_some hfind
        have hname : f.name = e.1 := by simpa using List.find?_some hfind
        obtain ⟨q, hq⟩ := hset e List.mem_cons_self f hf hname p
        exact ⟨q, step_eq_ok.mpr (.inl ⟨f, hfind, hunset f hf (by simp [hname]), hq⟩)⟩
    rw [readFields_cons, hq]
    refine ih hnodup.2 (fun e he => hset e (List.mem_cons_of_mem _ he))
      (fun e he => hother e (List.mem_cons_of_mem _ he)) fun f hf hmem => ?_
    have hne : f.name ≠ e.1 := fun heq => hnodup.1 (heq ▸ hmem)
    rw [hs.isSet_step hq hf hne]
    exact hunset f hf (List.mem_cons_of_mem _ hmem)

/-! ### Parts -/

/-- A part of the record belongs to the field with a name, at a place: this field decodes it, and
whatever else is decoded leaves it alone. -/
structure Part (s : Shape σ) (name : String) (place : Nat) (get : σ → Option α)
    (read : Draft → Decoded α) : Prop where
  /-- the field sets the part to what it decodes -/
  own : ∃ f, s.fields[place]? = some f ∧ f.name = name ∧ (∀ p, f.isSet p = (get p).isSome) ∧
    ∀ d p p', f.set d p = .ok p' → ∃ a, read d = .ok a ∧ get p' = some a
  others : ∀ g ∈ s.fields.eraseIdx place, g.name ≠ name ∧
    ∀ d p p', g.set d p = .ok p' → get p' = get p
  rest : ∀ k d p p', s.other k d p = .ok p' → get p' = get p

namespace Part

variable {name : String} {place : Nat} {get : σ → Option α} {put : α → σ → σ}
  {read : Draft → Decoded α}

lemma of (hplace : s.fields[place]? = some (.of name get put read))
    (hget : ∀ a p, get (put a p) = some a)
    (hothers : ∀ g ∈ s.fields.eraseIdx place, g.name ≠ name ∧
      ∀ d p p', g.set d p = .ok p' → get p' = get p)
    (hrest : ∀ k d p p', s.other k d p = .ok p' → get p' = get p) :
    s.Part name place get read where
  own := ⟨_, hplace, rfl, fun _ => rfl, fun d p p' h => by
    obtain ⟨a, ha, rfl⟩ := Field.set_of.mp h
    exact ⟨a, ha, hget a p⟩⟩
  others := hothers
  rest := hrest

/-- Under the name of the part its field is found, and under no other name. -/
lemma find? (h : s.Part name place get read) {k : String} {f : Field σ}
    (hfind : s.fields.find? (·.name == k) = some f) :
    s.fields[place]? = some f ∧ k = name ∨ f ∈ s.fields.eraseIdx place ∧ k ≠ name := by
  obtain ⟨f₀, hf₀, hname, -⟩ := h.own
  have hk : f.name = k := by simpa using List.find?_some hfind
  obtain ⟨i, hi⟩ := List.mem_iff_getElem?.mp (List.mem_of_find?_eq_some hfind)
  by_cases heq : i = place
  · rw [heq] at hi
    rw [hi, Option.some.injEq] at hf₀
    exact .inl ⟨hi, by rw [← hk, hf₀, hname]⟩
  · have hmem : f ∈ s.fields.eraseIdx place := List.mem_eraseIdx_iff_getElem?.mpr ⟨i, heq, hi⟩
    exact .inr ⟨hmem, hk ▸ (h.others f hmem).1⟩

/-- A part of a record that is an object is what its key decodes to, if it has this key. -/
lemma readFields (h : s.Part name place get read) {fields : List (String × Json)} {p p' : σ}
    (hfields : s.readFields (Json.draftFields fields) p = .ok p') :
    match fields.lookup name with
    | none => get p' = get p
    | some v => get p = none ∧ ∃ a, read v.draft = .ok a ∧ get p' = some a := by
  obtain ⟨f₀, hplace, hname, hisSet, hset⟩ := h.own
  induction fields generalizing p with
  | nil =>
    rw [Json.draftFields, Shape.readFields, Except.ok.injEq] at hfields
    rw [hfields]
    rfl
  | cons e fields ih =>
    rw [readFields_cons, bind_eq_ok] at hfields
    obtain ⟨q, hq, hfields⟩ := hfields
    have ih := ih hfields
    obtain ⟨f, hfind, hunset, hq⟩ | ⟨hfind, hq⟩ := step_eq_ok.mp hq
    · obtain ⟨hf, hk⟩ | ⟨hf, hk⟩ := h.find? hfind
      · -- once the part is decoded, its key does not come again
        obtain rfl : f = f₀ := Option.some.inj (hf.symm.trans hplace)
        obtain ⟨a, ha, hget⟩ := hset _ _ _ hq
        have hp : get p = none := by simpa [hisSet] using hunset
        rw [List.lookup_cons, beq_iff_eq.mpr hk.symm]
        refine ⟨hp, a, ha, ?_⟩
        cases hlookup : fields.lookup name with
        | none =>
          rw [hlookup] at ih
          exact ih.trans hget
        | some v =>
          rw [hlookup] at ih
          simp [hget] at ih
      · rw [List.lookup_cons, beq_false_of_ne hk.symm, ← (h.others f hf).2 _ _ _ hq]
        exact ih
    · have hk : e.1 ≠ name := by
        rintro rfl
        have hmem := List.mem_of_getElem? hplace
        simpa [hname] using List.find?_eq_none.mp hfind f₀ hmem
      rw [List.lookup_cons, beq_false_of_ne hk.symm, ← h.rest _ _ _ _ hq]
      exact ih

lemma exists_of_readFields (h : s.Part name place get read) {fields : List (String × Json)}
    {p p' : σ} {a : α} (hfields : s.readFields (Json.draftFields fields) p = .ok p')
    (hp : get p = none) (hget : get p' = some a) :
    ∃ v, fields.lookup name = some v ∧ read v.draft = .ok a := by
  have hpart := h.readFields hfields
  cases hlookup : fields.lookup name with
  | none =>
    rw [hlookup] at hpart
    rw [hpart.trans hp] at hget
    exact absurd hget.symm (Option.some_ne_none a)
  | some v =>
    rw [hlookup] at hpart
    obtain ⟨-, b, hb, hb'⟩ := hpart
    exact ⟨v, rfl, Option.some.inj (hget.symm.trans hb') ▸ hb⟩

lemma get_of_readFields (h : s.Part name place get read) {fields : List (String × Json)}
    {p p' : σ} {v : Json} {a : α} (hfields : s.readFields (Json.draftFields fields) p = .ok p')
    (hv : fields.lookup name = some v) (ha : read v.draft = .ok a) : get p' = some a := by
  have hpart := h.readFields hfields
  rw [hv] at hpart
  obtain ⟨-, b, hb, hget⟩ := hpart
  rw [hget, Except.ok.inj (ha.symm.trans hb)]

lemma eq_none_of_readFields (h : s.Part name place get read) {fields : List (String × Json)}
    {p p' : σ} (hfields : s.readFields (Json.draftFields fields) p = .ok p')
    (hp : get p = none) (hv : fields.lookup name = none) : get p' = none := by
  have hpart := h.readFields hfields
  rw [hv] at hpart
  exact hpart.trans hp

/-- A part of a record that is an array is what the element at its place decodes to, if there is
one. -/
lemma readElements (h : s.Part name place get read) {items : List Json} {p p' : σ}
    {rest : List Draft}
    (hitems : Shape.readElements s.fields (Json.draftItems items) p = .ok (p', rest)) :
    match items[place]? with
    | none => get p' = get p
    | some v => ∃ a, read v.draft = .ok a ∧ get p' = some a := by
  obtain ⟨f, hplace, -, -, hset⟩ := h.own
  have hothers : ∀ g ∈ s.fields.eraseIdx place, ∀ d p p', g.set d p = .ok p' → get p' = get p :=
    fun g hg => (h.others g hg).2
  clear h
  generalize s.fields = fs at hplace hothers hitems
  induction fs generalizing place items p with
  | nil => simp at hplace
  | cons g fs ih =>
    cases items with
    | nil =>
      simp only [Json.draftItems, Shape.readElements, Except.ok.injEq, Prod.mk.injEq] at hitems
      simp [hitems.1]
    | cons v items =>
      rw [Json.draftItems, Shape.readElements, bind_eq_ok] at hitems
      obtain ⟨q, hq, hitems⟩ := hitems
      cases place with
      | zero =>
        obtain rfl : g = f := Option.some.inj hplace
        obtain ⟨a, ha, hget⟩ := hset _ _ _ hq
        refine ⟨a, ha, readElements_induction (fun p => get p = some a) ?_ hget hitems⟩
        intro g' hg' v _ p p' hp hp'
        rw [hothers g' hg' _ _ _ hp', hp]
      | succ place =>
        rw [List.getElem?_cons_succ, ← hothers g List.mem_cons_self _ _ _ hq]
        exact ih hplace (fun g' hg' => hothers g' (List.mem_cons_of_mem _ hg')) hitems

end Part

end Shape

/-- What stands in a record under a key, or at a place if the record is an array. -/
def Json.member? (name : String) (place : Nat) : Json → Option Json
  | .obj fields => fields.lookup name
  | .arr items => items[place]?
  | .null | .bool _ | .num _ | .str _ => none

namespace Shape

variable {σ α β : Type} {s : Shape σ} {name : String} {place : Nat} {get : σ → Option α}
  {read : Draft → Decoded α}

lemma readObject_eq_ok {fields : List (String × Json)} {start : σ} {finish : σ → Except String β}
    {b : β} :
    s.readObject (Json.draftFields fields) none start finish = .ok b ↔
      ∃ p, s.readFields (Json.draftFields fields) start = .ok p ∧ finish p = .ok b := by
  simp only [readObject, bind_eq_ok, Draft.check, Decoded.ofFault_ok, exists_const]
  refine exists_congr fun p => and_congr_right fun _ => ?_
  cases finish p <;> simp [pure_eq_ok]

lemma toOption_readObject {fields : List (String × Json)} {start : σ}
    {finish : σ → Except String β} :
    (s.readObject (Json.draftFields fields) none start finish).toOption
      = (s.readFields (Json.draftFields fields) start).toOption.bind
        fun p => (finish p).toOption := by
  rw [readObject, Decoded.toOption_bind]
  congr
  funext p
  cases finish p <;> rfl

lemma readObject_of_readFields {fields : List (String × Json)} {start p : σ}
    (hp : s.readFields (Json.draftFields fields) start = .ok p) (finish : σ → Except String β) :
    s.readObject (Json.draftFields fields) none start finish
      = match finish p with
        | .ok b => .ok b
        | .error name => Decoded.mismatch (.missingField name) := by
  rw [readObject, hp, ok_bind]
  rfl

@[simp] lemma surplus_ne_ok (r : Reading) (given known : Nat) (a : α) :
    (surplus r given known : Decoded α) ≠ .ok a := by
  cases r <;> simp [surplus]

lemma readArray_eq_ok {r : Reading} {items : List Json} {start : σ}
    {finish : σ → Except String β} {b : β}
    (h : s.readArray r (Json.draftItems items) none start finish = .ok b) :
    ∃ p rest, readElements s.fields (Json.draftItems items) start = .ok (p, rest) ∧
      finish p = .ok b := by
  obtain ⟨⟨p, rest⟩, hp, h⟩ := bind_eq_ok.mp h
  refine ⟨p, rest, hp, ?_⟩
  cases hfinish : finish p with
  | error e =>
    simp only [hfinish] at h
    split_ifs at h <;> exact absurd h (Decoded.mismatch_ne_ok _ _)
  | ok b' =>
    simp only [hfinish] at h
    split_ifs at h
    · exact congrArg _ (pure_eq_ok.mp h)
    · exact absurd h (surplus_ne_ok _ _ _ _)
    · exact congrArg _ (pure_eq_ok.mp h)
    · exact absurd h (surplus_ne_ok _ _ _ _)

/-- A record is made of parts, each of which is what stands under its key or at its place. -/
lemma Part.exists_of_read (h : s.Part name place get read) {r : Reading} {start : σ}
    {finish : σ → Except String β} {j : Json} {b : β} (hstart : get start = none)
    (hread : s.read r start finish j.draft = .ok b) :
    ∃ p, finish p = .ok b ∧ match j.member? name place with
      | none => get p = none
      | some v => ∃ a, read v.draft = .ok a ∧ get p = some a := by
  cases j with
  | obj fields =>
    obtain ⟨p, hp, hfinish⟩ := readObject_eq_ok.mp hread
    refine ⟨p, hfinish, ?_⟩
    have hpart := h.readFields hp
    rw [Json.member?]
    cases hlookup : fields.lookup name with
    | none =>
      rw [hlookup] at hpart
      exact hpart.trans hstart
    | some v =>
      rw [hlookup] at hpart
      exact hpart.2
  | arr items =>
    obtain ⟨p, rest, hp, hfinish⟩ := readArray_eq_ok hread
    refine ⟨p, hfinish, ?_⟩
    have hpart := h.readElements hp
    rw [Json.member?]
    cases hitem : items[place]? with
    | none =>
      rw [hitem] at hpart
      exact hpart.trans hstart
    | some v =>
      rw [hitem] at hpart
      exact hpart
  | null | bool b | num n | str s => exact absurd hread (Draft.wrongType_ne_ok _ _ _)

end Shape

/-- What is set aside leaves what is decoded alone. -/
lemma Kept.decoded_of_keep {α : Type} {k : String} {d : Draft} {p p' : Kept α}
    (h : Kept.keep k d p = .ok p') : p'.decoded = p.decoded := by
  obtain ⟨v, -, h⟩ := bind_eq_ok.mp h
  rw [← pure_eq_ok.mp h]

lemma Kept.keep_draft {α : Type} (k : String) (v : Json) (p : Kept α) :
    Kept.keep k v.draft p = .ok { p with fields := p.fields ++ [(k, v)] } := by
  rw [Kept.keep, v.settle_draft, Decoded.ofFault_ok]
  rfl

/-- The fields that are set aside are those of which the record does not know the keys. -/
lemma Kept.fields_of_readFields {α : Type} {s : Shape (Kept α)} (hother : s.other = Kept.keep)
    (hset : ∀ f ∈ s.fields, ∀ d p p', f.set d p = .ok p' → p'.fields = p.fields)
    {fields : List (String × Json)} {p p' : Kept α}
    (h : s.readFields (Json.draftFields fields) p = .ok p') :
    p'.fields = p.fields ++ fields.filter fun e => (s.fields.find? (·.name == e.1)).isNone := by
  induction fields generalizing p with
  | nil =>
    rw [Json.draftFields, Shape.readFields, Except.ok.injEq] at h
    simp [h]
  | cons e fields ih =>
    rw [Shape.readFields_cons, bind_eq_ok] at h
    obtain ⟨q, hq, h⟩ := h
    rw [ih h, List.filter_cons]
    obtain ⟨f, hfind, -, hq⟩ | ⟨hfind, hq⟩ := Shape.step_eq_ok.mp hq
    · simp [hfind, hset f (List.mem_of_find?_eq_some hfind) _ _ _ hq]
    · rw [hother, Kept.keep_draft, Except.ok.injEq] at hq
      simp [hfind, ← hq]

/-! ### Records of which one field is picked -/

/-- A shape that decodes one field and sets the others aside. -/
structure Shape.Picks {α : Type} (s : Shape (Kept (Option α))) (name : String)
    (read : Draft → Decoded α) : Prop where
  fields : s.fields = [.of name Kept.decoded (fun a p => { p with decoded := some a }) read]
  other : s.other = Kept.keep

namespace Shape.Picks

variable {α : Type} {s : Shape (Kept (Option α))} {name : String} {read : Draft → Decoded α}

lemma part (h : s.Picks name read) : s.Part name 0 Kept.decoded read :=
  .of (by rw [h.fields]; rfl) (fun _ _ => rfl) (by simp [h.fields]) fun _ _ _ _ hp => by
    rw [h.other] at hp
    rw [Kept.decoded_of_keep hp]

lemma lawful (h : s.Picks name read) : s.Lawful where
  set := by simp [h.fields]
  rest := by
    intro f hf k d p p' hp
    rw [h.fields, List.mem_singleton] at hf
    rw [h.other] at hp
    rw [hf, Field.isSet_of, Field.isSet_of, Kept.decoded_of_keep hp]

/-- All fields but the one that is picked are set aside. -/
lemma fields_of_readFields (h : s.Picks name read) {fields : List (String × Json)}
    {p : Kept (Option α)}
    (hp : s.readFields (Json.draftFields fields) { decoded := none } = .ok p) :
    p.fields = fields.filter (·.1 != name) := by
  have hkept := Kept.fields_of_readFields h.other
    (by simp [h.fields, Field.forall_set_of]) hp
  rw [hkept, List.nil_append]
  refine List.filter_congr fun e _ => ?_
  rw [h.fields, List.find?_singleton, Field.name_of]
  by_cases hname : e.1 = name
  · simp [hname]
  · simp [hname, Ne.symm hname]

/-- Only the field that is picked can fail. -/
lemma exists_readFields (h : s.Picks name read) {fields : List (String × Json)}
    (hnodup : (fields.map Prod.fst).Nodup)
    (hread : ∀ v, fields.lookup name = some v → ∃ a, read v.draft = .ok a) :
    ∃ p, s.readFields (Json.draftFields fields) { decoded := none } = .ok p := by
  have hset : ∀ e ∈ fields, ∀ f ∈ s.fields, f.name = e.1 →
      ∀ p, ∃ p', f.set e.2.draft p = .ok p' := by
    intro e he f hf hname p
    rw [h.fields, List.mem_singleton] at hf
    subst hf
    rw [Field.name_of] at hname
    obtain ⟨a, ha⟩ := hread e.2 (hname ▸ lookup_eq_some_of_mem hnodup he)
    exact ⟨_, Field.set_ok ha⟩
  have hother : ∀ e ∈ fields, (∀ f ∈ s.fields, f.name ≠ e.1) →
      ∀ p, ∃ p', s.other e.1 e.2.draft p = .ok p' := by
    intro e _ _ p
    rw [h.other]
    exact ⟨_, Kept.keep_draft _ _ _⟩
  apply h.lawful.exists_readFields hnodup hset hother
  simp [h.fields, Field.isSet_of]

lemma readFields (h : s.Picks name read) {fields : List (String × Json)}
    (hnodup : (fields.map Prod.fst).Nodup) {v : Json} {a : α} (hv : fields.lookup name = some v)
    (ha : read v.draft = .ok a) :
    s.readFields (Json.draftFields fields) { decoded := none }
      = .ok ⟨some a, fields.filter (·.1 != name)⟩ := by
  obtain ⟨p, hp⟩ := h.exists_readFields hnodup fun w hw => by
    rw [hv, Option.some.injEq] at hw
    exact ⟨a, hw ▸ ha⟩
  rw [hp, ← h.fields_of_readFields hp, ← h.part.get_of_readFields hp hv ha]

lemma readFields_of_lookup_eq_none (h : s.Picks name read) {fields : List (String × Json)}
    (hnodup : (fields.map Prod.fst).Nodup) (hnone : fields.lookup name = none) :
    s.readFields (Json.draftFields fields) { decoded := none }
      = .ok ⟨none, fields.filter (·.1 != name)⟩ := by
  obtain ⟨p, hp⟩ := h.exists_readFields hnodup (by simp [hnone])
  rw [hp, ← h.fields_of_readFields hp, ← h.part.eq_none_of_readFields hp rfl hnone]

/-- The field that is picked is decoded if it is there, and the others are set aside. -/
lemma toOption_readFields (h : s.Picks name read) {fields : List (String × Json)}
    (hnodup : (fields.map Prod.fst).Nodup) :
    (s.readFields (Json.draftFields fields) { decoded := none }).toOption
      = ((fields.lookup name).elim (some none) fun v => (read v.draft).toOption.map some).map
        fun a? => ⟨a?, fields.filter (·.1 != name)⟩ := by
  cases hlookup : fields.lookup name with
  | none =>
    rw [h.readFields_of_lookup_eq_none hnodup hlookup]
    rfl
  | some v =>
    rw [Option.elim_some]
    cases hread : read v.draft with
    | ok a =>
      rw [h.readFields hnodup hlookup hread]
      rfl
    | error e =>
      apply Option.eq_none_iff_forall_ne_some.mpr
      intro p hp
      have hpart := h.part.readFields (Decoded.toOption_eq_some.mp hp)
      rw [hlookup] at hpart
      obtain ⟨-, a, ha, -⟩ := hpart
      simp [hread] at ha

end Shape.Picks

end BoundSql
