import BoundSql.Proofs.Json.Reordered

/-!
# Records in any order

The fields of a record do not get in the way of each other, so that it does not matter in which
order they are decoded. A record without repeated keys is what its fields take from the members of
the document, one after the other in the order of the record.
-/

namespace BoundSql

/-! ### Fields that stand apart -/

namespace Field

variable {σ : Type}

/-- What a field does to the parts of a record: it leaves them alone if it has no value. -/
def take (f : Field σ) (v? : Option Json) (p : σ) : Option σ :=
  match v? with
  | none => some p
  | some v => (f.set v.draft p).toOption

/-- Whether two fields do not get in the way of each other. -/
structure Apart (f g : Field σ) : Prop where
  name : f.name ≠ g.name
  left : ∀ d p p', g.set d p = .ok p' → f.isSet p' = f.isSet p
  right : ∀ d p p', f.set d p = .ok p' → g.isSet p' = g.isSet p
  commute : ∀ d d' p, ((f.set d p).toOption.bind fun q => (g.set d' q).toOption)
    = (g.set d' p).toOption.bind fun q => (f.set d q).toOption

instance : Std.Symm (Apart (σ := σ)) where
  symm _ _ h :=
    { name := h.name.symm
      left := h.right
      right := h.left
      commute := fun d d' p => (h.commute d' d p).symm }

lemma toOption_set_of {α : Type} {name : String} {get : σ → Option α} {put : α → σ → σ}
    {read : Draft → Decoded α} {d : Draft} {p : σ} :
    ((Field.of name get put read).set d p).toOption = (read d).toOption.map fun a => put a p := by
  simp only [of]
  cases read d <;> rfl

/-- Fields for different parts stand apart. -/
lemma Apart.of {α β : Type} {name name' : String} {get : σ → Option α} {get' : σ → Option β}
    {put : α → σ → σ} {put' : β → σ → σ} {read : Draft → Decoded α} {read' : Draft → Decoded β}
    (hname : name ≠ name') (hget : ∀ b p, get (put' b p) = get p)
    (hget' : ∀ a p, get' (put a p) = get' p)
    (hput : ∀ a b p, put' b (put a p) = put a (put' b p)) :
    Apart (Field.of name get put read) (Field.of name' get' put' read') where
  name := hname
  left := by simp [forall_set_of, isSet_of, hget]
  right := by simp [forall_set_of, isSet_of, hget']
  commute d d' p := by
    simp only [toOption_set_of]
    cases (read d).toOption <;> cases (read' d').toOption <;> simp [hput]

lemma Apart.take_comm {f g : Field σ} (h : Apart f g) (v? w? : Option Json) (p : σ) :
    (f.take v? p).bind (g.take w?) = (g.take w? p).bind (f.take v?) := by
  cases v? with
  | none =>
    change g.take w? p = (g.take w? p).bind some
    rw [Option.bind_fun_some]
  | some v =>
    cases w? with
    | none =>
      change (f.take (some v) p).bind some = f.take (some v) p
      rw [Option.bind_fun_some]
    | some w => exact h.commute v.draft w.draft p

end Field

namespace Shape

variable {σ β : Type} {s s' : Shape σ}

/-- The parts of a record, taken from a document field by field. -/
def gather (j : Json) : List (Field σ) → Nat → σ → Option σ
  | [], _, p => some p
  | f :: fs, place, p => (f.take (j.member? f.name place) p).bind (gather j fs (place + 1))

/-- A shape whose fields stand apart and which skips the fields that it does not have. -/
structure Orderless (s : Shape σ) : Prop where
  other : s.other = ignore
  apart : s.fields.Pairwise Field.Apart

lemma gather_congr {j j' : Json} {fs fs' : List (Field σ)} {place place' : Nat}
    (hlength : fs.length = fs'.length)
    (h : ∀ (i : Nat) (f f' : Field σ), fs[i]? = some f → fs'[i]? = some f' → ∀ p,
      f.take (j.member? f.name (place + i)) p = f'.take (j'.member? f'.name (place' + i)) p)
    (p : σ) : gather j fs place p = gather j' fs' place' p := by
  induction fs generalizing fs' place place' p with
  | nil =>
    cases fs' with
    | nil => rfl
    | cons f' fs' => simp at hlength
  | cons f fs ih =>
    cases fs' with
    | nil => simp at hlength
    | cons f' fs' =>
      have hrest : ∀ p, gather j fs (place + 1) p = gather j' fs' (place' + 1) p := by
        apply ih (Nat.succ.inj hlength)
        intro i g g' hg hg' p
        rw [Nat.add_assoc, Nat.add_assoc, Nat.add_comm 1 i]
        exact h (i + 1) g g' hg hg' p
      have hfirst := h 0 f f' rfl rfl p
      rw [Nat.add_zero, Nat.add_zero] at hfirst
      rw [gather, gather, hfirst]
      exact congrArg _ (funext hrest)

/-- A document without members leaves the parts of a record alone. -/
lemma gather_of_member?_eq_none {j : Json} (h : ∀ name place, j.member? name place = none)
    (fs : List (Field σ)) (place : Nat) (p : σ) : gather j fs place p = some p := by
  induction fs generalizing place with
  | nil => rfl
  | cons f fs ih =>
    rw [gather, h]
    exact ih (place + 1)

/-! ### Objects -/

/-- A field of the document that no field of the record asks for may be dropped. -/
lemma gather_of_foreign {e : String × Json} {fields : List (String × Json)} {fs : List (Field σ)}
    (h : ∀ f ∈ fs, f.name ≠ e.1) (place : Nat) (p : σ) :
    gather (.obj (e :: fields)) fs place p = gather (.obj fields) fs place p := by
  apply gather_congr rfl
  intro i f f' hf hf' p
  obtain rfl := Option.some.inj (hf.symm.trans hf')
  have hne : f.name ≠ e.1 := h f (List.mem_of_getElem? hf)
  rw [Json.member?, Json.member?, List.lookup_cons, beq_false_of_ne hne]

/-- A field of the document may be taken before all others. -/
lemma gather_cons {e : String × Json} {fields : List (String × Json)} {fs : List (Field σ)}
    (hapart : fs.Pairwise Field.Apart) {g : Field σ} (hg : g ∈ fs) (hname : g.name = e.1)
    (he : e.1 ∉ fields.map Prod.fst) (place : Nat) (p : σ) :
    gather (.obj (e :: fields)) fs place p
      = (g.take (some e.2) p).bind (gather (.obj fields) fs place) := by
  induction fs generalizing place p with
  | nil => simp at hg
  | cons f fs ih =>
    obtain ⟨hf, hapart⟩ := List.pairwise_cons.mp hapart
    obtain rfl | hg := List.mem_cons.mp hg
    · have hforeign : ∀ f ∈ fs, f.name ≠ e.1 := fun f hmem => hname ▸ (hf f hmem).name.symm
      have hnone : fields.lookup g.name = none := by
        rw [Json.lookup_eq_none_iff_notMem, hname]
        exact he
      have hown : ((e :: fields).lookup g.name) = some e.2 := by
        rw [hname, List.lookup_cons, BEq.rfl]
      simp only [gather, Json.member?, hown, hnone, gather_of_foreign hforeign]
      rfl
    · -- the field is taken before the first one, from which it stands apart
      have hapart' : Field.Apart f g := hf g hg
      have hne : f.name ≠ e.1 := hname ▸ hapart'.name
      have hmember : (e :: fields).lookup f.name = fields.lookup f.name := by
        rw [List.lookup_cons, beq_false_of_ne hne]
      simp only [gather, Json.member?, hmember, ih hapart hg]
      rw [← Option.bind_assoc, hapart'.take_comm, Option.bind_assoc]

/-- An object without repeated keys is what its fields take from it. -/
lemma Orderless.toOption_readFields (hs : s.Orderless) {fields : List (String × Json)}
    (hnodup : (fields.map Prod.fst).Nodup) {p : σ}
    (hunset : ∀ f ∈ s.fields, f.name ∈ fields.map Prod.fst → f.isSet p = false) :
    (s.readFields (Json.draftFields fields) p).toOption = gather (.obj fields) s.fields 0 p := by
  induction fields generalizing p with
  | nil =>
    rw [readFields_nil, gather_of_member?_eq_none fun _ _ => rfl]
    rfl
  | cons e fields ih =>
    rw [List.map_cons, List.nodup_cons] at hnodup
    rw [readFields_cons, step]
    cases hfind : s.fields.find? (·.name == e.1) with
    | none =>
      have hforeign : ∀ f ∈ s.fields, f.name ≠ e.1 := by simpa using hfind
      have hskip : s.other e.1 e.2.draft p = .ok p := by
        rw [hs.other]
        exact ignore_eq_ok.mpr ⟨e.2.skip_draft, rfl⟩
      dsimp only
      rw [hskip, ok_bind, gather_of_foreign hforeign]
      exact ih hnodup.2 fun f hf hmem => hunset f hf (List.mem_cons_of_mem _ hmem)
    | some g =>
      have hg : g ∈ s.fields := List.mem_of_find?_eq_some hfind
      have hname : g.name = e.1 := by simpa using List.find?_some hfind
      have hgunset : g.isSet p = false := hunset g hg (by simp [hname])
      dsimp only
      rw [hgunset, if_neg Bool.false_ne_true, gather_cons hs.apart hg hname hnodup.1, Field.take]
      cases hset : g.set e.2.draft p with
      | error _ => rfl
      | ok q =>
        -- the field that is set now is not met again, since its key is not repeated
        apply ih hnodup.2
        intro f hf hmem
        have hne : f ≠ g := by
          rintro rfl
          exact hnodup.1 (hname ▸ hmem)
        have hapart : Field.Apart f g := hs.apart.forall hf hg hne
        rw [hapart.left _ _ _ hset]
        exact hunset f hf (List.mem_cons_of_mem _ hmem)

/-! ### Arrays -/

/-- The places of an array count from its first item. -/
lemma gather_tail (v : Json) (items : List Json) (fs : List (Field σ)) (place : Nat) (p : σ) :
    gather (.arr (v :: items)) fs (place + 1) p = gather (.arr items) fs place p := by
  apply gather_congr rfl
  intro i f f' hf hf' p
  obtain rfl := Option.some.inj (hf.symm.trans hf')
  rw [Json.member?, Json.member?, Nat.add_right_comm, List.getElem?_cons_succ]

/-- The fields of an array take its items, as far as there are both. -/
lemma toOption_readElements (fs : List (Field σ)) (items : List Json) (p : σ) :
    (readElements fs (Json.draftItems items) p).toOption
      = (gather (.arr items) fs 0 p).map fun p => (p, Json.draftItems (items.drop fs.length)) := by
  induction fs generalizing items p with
  | nil => rfl
  | cons f fs ih =>
    cases items with
    | nil =>
      rw [gather_of_member?_eq_none fun _ _ => rfl]
      rfl
    | cons v items =>
      rw [Json.draftItems, readElements, gather, Json.member?, List.getElem?_cons_zero, Field.take]
      cases f.set v.draft p with
      | error _ => rfl
      | ok q =>
        rw [ok_bind, ih, ← gather_tail v]
        rfl

end Shape

/-! ### Records -/

/-- Whether a value can be a record of some length: an array may not be longer. -/
def Json.isRecord (length : Nat) : Json → Bool
  | .obj _ => true
  | .arr items => items.length ≤ length
  | .null | .bool _ | .num _ | .str _ => false

lemma Json.isRecord_outline (length : Nat) (j : Json) :
    j.outline.isRecord length = j.isRecord length := by
  cases j <;> simp [outline, isRecord]

namespace Shape

variable {σ β : Type} {s s' : Shape σ}

lemma toOption_surplus (r : Reading) (given known : Nat) :
    (surplus r given known : Decoded β).toOption = none := by
  cases r <;> rfl

/-- A record without repeated keys is what its fields take from it. -/
lemma Orderless.toOption_read (hs : s.Orderless) {j : Json} (hj : j.Distinct) {r : Reading}
    {start : σ} (hunset : ∀ f ∈ s.fields, f.isSet start = false) (finish : σ → Except String β) :
    (s.read r start finish j.draft).toOption = if j.isRecord s.fields.length then
        (gather j s.fields 0 start).bind fun p => (finish p).toOption
      else none := by
  cases hj with
  | null | bool b | num n | str s => rfl
  | @obj fields hnodup _ =>
    rw [Json.isRecord, if_pos rfl, Json.draft, read, toOption_readObject,
      hs.toOption_readFields hnodup fun f hf _ => hunset f hf]
  | @arr items _ =>
    rw [Json.isRecord, Json.draft, read, readArray, Decoded.toOption_bind, toOption_readElements]
    cases gather (.arr items) s.fields 0 start with
    | none => simp
    | some p =>
      rw [Option.map_some, Option.bind_some, Option.bind_some]
      simp only [Json.draftItems_eq_map, List.length_map, List.isEmpty_map, List.isEmpty_iff,
        List.drop_eq_nil_iff, Draft.check, Decoded.ofFault_ok, decide_eq_true_eq]
      cases finish p with
      | error e => split_ifs <;> rfl
      | ok b => split_ifs <;> first | rfl | exact toOption_surplus _ _ _

end Shape

/-! ### Alike documents -/

/-- What two values may have in common. -/
abbrev Json.Relation := Json → Json → Prop

/-- Whether two documents have alike members: of a record this lists the members, each with a name
and with what it has in common in both documents. -/
structure Json.Alike (parts : List (String × Json.Relation)) (j j' : Json) : Prop where
  outline : j.outline = j'.outline
  member? : ∀ (place : Nat) (name : String) (R : Json.Relation),
    parts[place]? = some (name, R) → Option.Rel R (j.member? name place) (j'.member? name place)

/-- Whether two decoders lead to the same wherever values without repeated keys have something in
common. -/
def ReadAlike {α : Type} (R : Json.Relation) (read read' : Draft → Decoded α) : Prop :=
  ∀ v v', v.Distinct → v'.Distinct → R v v' → (read v.draft).toOption = (read' v'.draft).toOption

/-- Reordered values are alike in all their members. -/
lemma Json.Reordered.alike {parts : List (String × Json.Relation)} {j j' : Json}
    (hparts : ∀ part ∈ parts, ∀ v v', Reordered v v' → part.2 v v') (h : Reordered j j') :
    Alike parts j j' where
  outline := h.outline_eq
  member? := by
    intro place name R hpart
    have hR : ∀ v v', Reordered v v' → R v v' := hparts (name, R) (List.mem_of_getElem? hpart)
    have hrel := h.member? name place
    generalize j.member? name place = v?, j'.member? name place = v'? at hrel ⊢
    cases hrel with
    | none => exact .none
    | some hv => exact .some (hR _ _ hv)

section Agreement

variable {σ α β : Type} {parts : List (String × Json.Relation)}

/-- Whether two fields take the same from alike members. -/
structure Field.Agree (part : String × Json.Relation) (f f' : Field σ) : Prop where
  name : f.name = part.1
  name' : f'.name = part.1
  set : ∀ v v', v.Distinct → v'.Distinct → part.2 v v' →
    ∀ p, (f.set v.draft p).toOption = (f'.set v'.draft p).toOption

lemma Field.Agree.of {name : String} {R : Json.Relation} {get : σ → Option α} {put : α → σ → σ}
    {read read' : Draft → Decoded α} (h : ReadAlike R read read') :
    Agree (name, R) (Field.of name get put read) (Field.of name get put read') where
  name := rfl
  name' := rfl
  set v v' hv hv' hR p := by rw [toOption_set_of, toOption_set_of, h v v' hv hv' hR]

/-- Whether two lists of fields take the same from alike members, one by one. -/
inductive Shape.FieldsAgree :
    List (String × Json.Relation) → List (Field σ) → List (Field σ) → Prop where
  | nil : FieldsAgree [] [] []
  | cons {part parts f f' fs fs'} : f.Agree part f' → FieldsAgree parts fs fs' →
      FieldsAgree (part :: parts) (f :: fs) (f' :: fs')

lemma Shape.FieldsAgree.length_eq {fs fs' : List (Field σ)} (h : FieldsAgree parts fs fs') :
    fs.length = fs'.length := by
  induction h with
  | nil => rfl
  | cons _ _ ih => exact congrArg Nat.succ ih

/-- Fields that agree gather the same from alike documents. -/
lemma Shape.FieldsAgree.gather_eq {fs fs' : List (Field σ)} (h : FieldsAgree parts fs fs')
    {j j' : Json} (hj : j.Distinct) (hj' : j'.Distinct) {place : Nat}
    (hmember : ∀ (i : Nat) (name : String) (R : Json.Relation), parts[i]? = some (name, R) →
      Option.Rel R (j.member? name (place + i)) (j'.member? name (place + i))) (p : σ) :
    gather j fs place p = gather j' fs' place p := by
  induction h generalizing place p with
  | nil => rfl
  | @cons part parts f f' fs fs' hf _ ih =>
    have htake : f.take (j.member? f.name place) p = f'.take (j'.member? f'.name place) p := by
      rw [hf.name, hf.name']
      have hrel := hmember 0 part.1 part.2 rfl
      rw [Nat.add_zero] at hrel
      generalize hv : j.member? part.1 place = v?, hv' : j'.member? part.1 place = v'? at hrel
      cases hrel with
      | none => rfl
      | some hR => exact hf.set _ _ (hj.member? hv) (hj'.member? hv') hR p
    have hrest : ∀ p, gather j fs (place + 1) p = gather j' fs' (place + 1) p := by
      apply ih
      intro i name R hpart
      rw [Nat.add_assoc, Nat.add_comm 1 i]
      exact hmember (i + 1) name R hpart
    rw [gather, gather, htake]
    exact congrArg _ (funext hrest)

/-- Records of which the fields agree are decoded alike. -/
lemma Shape.FieldsAgree.readAlike {s s' : Shape σ} (h : FieldsAgree parts s.fields s'.fields)
    (hs : s.Orderless) (hs' : s'.Orderless) {start : σ}
    (hunset : ∀ f ∈ s.fields, f.isSet start = false)
    (hunset' : ∀ f ∈ s'.fields, f.isSet start = false) (finish : σ → Except String β)
    (r r' : Reading) :
    ReadAlike (Json.Alike parts) (s.read r start finish) (s'.read r' start finish) := by
  intro j j' hj hj' halike
  have hmember : ∀ (i : Nat) (name : String) (R : Json.Relation), parts[i]? = some (name, R) →
      Option.Rel R (j.member? name (0 + i)) (j'.member? name (0 + i)) := by
    intro i name R hpart
    rw [Nat.zero_add]
    exact halike.member? i name R hpart
  have hrecord : j.isRecord s.fields.length = j'.isRecord s'.fields.length := by
    rw [← Json.isRecord_outline, halike.outline, Json.isRecord_outline, h.length_eq]
  rw [hs.toOption_read hj hunset, hs'.toOption_read hj' hunset', hrecord,
    h.gather_eq hj hj' hmember]

end Agreement

end BoundSql
