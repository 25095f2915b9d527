import BoundSql.Proofs.Codec.Records

/-!
# Changes that decoding respects

A part of a document may be changed before it is decoded, or what it leads to afterwards, if the
field that it belongs to allows this.
-/

namespace BoundSql

/-- What is put into another part may be put there first. -/
lemma Field.set_map {σ α : Type} {name : String} {get : σ → Option α} {put : α → σ → σ}
    {read : Draft → Decoded α} {g : σ → σ} (hput : ∀ a p, put a (g p) = g (put a p)) (d : Draft)
    (p : σ) : (Field.of name get put read).set d (g p)
      = g <$> (Field.of name get put read).set d p := by
  simp only [of]
  cases read d with
  | error _ => rfl
  | ok a => exact congrArg Except.ok (hput a p)

namespace Shape

variable {σ : Type} {s : Shape σ} {g : σ → σ}

lemma step_eq_map {k : String} {v v' : Json} {p : σ}
    (hset : ∀ f ∈ s.fields, f.name = k →
      f.isSet (g p) = f.isSet p ∧ f.set v'.draft (g p) = g <$> f.set v.draft p)
    (hother : (∀ f ∈ s.fields, f.name ≠ k) → s.other k v'.draft (g p) = g <$> s.other k v.draft p) :
    s.step k v' (g p) = g <$> s.step k v p := by
  rw [step, step]
  cases hfind : s.fields.find? (·.name == k) with
  | none => exact hother (by simpa using hfind)
  | some f =>
    have hname : f.name = k := by simpa using List.find?_some hfind
    obtain ⟨hisSet, hf⟩ := hset f (List.mem_of_find?_eq_some hfind) hname
    dsimp only
    rw [hisSet, hf]
    split_ifs <;> rfl

/-- Fields may be changed before they are decoded, or what they lead to afterwards. -/
lemma readFields_map {change : String → Json → Json}
    (hstep : ∀ k v p, s.step k (change k v) (g p) = g <$> s.step k v p)
    (fields : List (String × Json)) (p : σ) :
    s.readFields (Json.draftFields (fields.map fun e => (e.1, change e.1 e.2))) (g p)
      = g <$> s.readFields (Json.draftFields fields) p := by
  induction fields generalizing p with
  | nil => simp only [List.map_nil, Json.draftFields, readFields, Except.map_ok]
  | cons e fields ih =>
    rw [List.map_cons, readFields_cons, readFields_cons, hstep]
    cases s.step e.1 e.2 p with
    | error _ => rfl
    | ok q => exact ih q

/-- Fields may be dropped before they are decoded, or what they lead to afterwards. -/
lemma readFields_filter {keep : String × Json → Bool}
    (hkeep : ∀ e, keep e = true → ∀ p, s.step e.1 e.2 (g p) = g <$> s.step e.1 e.2 p)
    (hdrop : ∀ e, keep e = false → ∀ p, g <$> s.step e.1 e.2 p = .ok (g p))
    (fields : List (String × Json)) (p : σ) :
    s.readFields (Json.draftFields (fields.filter keep)) (g p)
      = g <$> s.readFields (Json.draftFields fields) p := by
  induction fields generalizing p with
  | nil => simp only [List.filter_nil, Json.draftFields, readFields, Except.map_ok]
  | cons e fields ih =>
    rw [List.filter_cons, readFields_cons]
    cases hk : keep e with
    | true =>
      rw [if_pos rfl, readFields_cons, hkeep e hk]
      cases s.step e.1 e.2 p with
      | error _ => rfl
      | ok q => exact ih q
    | false =>
      obtain ⟨q, hq, hp⟩ := map_eq_ok.mp (hdrop e hk p)
      rw [hq, ← hp]
      exact ih q

lemma readElements_map {fs : List (Field σ)}
    (hset : ∀ f ∈ fs, ∀ d p, f.set d (g p) = g <$> f.set d p) (ds : List Draft) (p : σ) :
    readElements fs ds (g p) = Prod.map g id <$> readElements fs ds p := by
  induction fs generalizing ds p with
  | nil => cases ds <;> rfl
  | cons f fs ih =>
    cases ds with
    | nil => rfl
    | cons d ds =>
      rw [readElements, readElements, hset f List.mem_cons_self]
      cases f.set d p with
      | error _ => rfl
      | ok q => exact ih (fun f hf => hset f (List.mem_cons_of_mem _ hf)) ds q

/-- An element may be changed before it is decoded, or what it leads to afterwards. -/
lemma readElements_modify {change : Json → Json} {fs : List (Field σ)} {place : Nat}
    (hown : ∀ f, fs[place]? = some f → ∀ v p, f.set (change v).draft (g p) = g <$> f.set v.draft p)
    (hothers : ∀ f ∈ fs.eraseIdx place, ∀ d p, f.set d (g p) = g <$> f.set d p)
    (hplace : place < fs.length) (items : List Json) (p : σ) :
    readElements fs (Json.draftItems (items.modify place change)) (g p)
      = Prod.map g id <$> readElements fs (Json.draftItems items) p := by
  induction fs generalizing place items p with
  | nil => simp at hplace
  | cons f fs ih =>
    cases items with
    | nil => cases place <;> rfl
    | cons v items =>
      cases place with
      | zero =>
        rw [List.modify_zero_cons, Json.draftItems, Json.draftItems, readElements, readElements,
          hown f rfl]
        cases f.set v.draft p with
        | error _ => rfl
        | ok q => exact readElements_map hothers _ q
      | succ place =>
        rw [List.modify_succ_cons, Json.draftItems, Json.draftItems, readElements, readElements,
          hothers f List.mem_cons_self]
        cases f.set v.draft p with
        | error _ => rfl
        | ok q =>
          exact ih hown (fun f hf => hothers f (List.mem_cons_of_mem _ hf))
            (Nat.lt_of_succ_lt_succ hplace) items q

end Shape

/-- Changes what stands in a record under a key, or at a place if the record is an array. -/
def Json.mapMember (name : String) (place : Nat) (change : Json → Json) : Json → Json
  | .obj fields => .obj (fields.map fun e => (e.1, if e.1 = name then change e.2 else e.2))
  | .arr items => .arr (items.modify place change)
  | j => j

namespace Shape

variable {σ α β : Type} {s : Shape σ} {name : String} {place : Nat} {get : σ → Option α}
  {read : Draft → Decoded α} {g : σ → σ} {change : Json → Json}

lemma Part.step_change (h : s.Part name place get read)
    (hisSet : ∀ f ∈ s.fields, ∀ p, f.isSet (g p) = f.isSet p)
    (hown : ∀ f, s.fields[place]? = some f →
      ∀ v p, f.set (change v).draft (g p) = g <$> f.set v.draft p)
    (hothers : ∀ f ∈ s.fields.eraseIdx place, ∀ d p, f.set d (g p) = g <$> f.set d p)
    (hrest : ∀ k d p, s.other k d (g p) = g <$> s.other k d p) (k : String) (v : Json) (p : σ) :
    s.step k (if k = name then change v else v) (g p) = g <$> s.step k v p := by
  apply step_eq_map
  · rintro f hf rfl
    refine ⟨hisSet f hf p, ?_⟩
    obtain ⟨i, hi⟩ := List.mem_iff_getElem?.mp hf
    by_cases heq : i = place
    · obtain ⟨f₀, hf₀, hname, -⟩ := h.own
      rw [heq] at hi
      rw [if_pos (by rw [← hname, Option.some.inj (hi.symm.trans hf₀)])]
      exact hown f hi v p
    · have hmem : f ∈ s.fields.eraseIdx place := List.mem_eraseIdx_iff_getElem?.mpr ⟨i, heq, hi⟩
      rw [if_neg (h.others f hmem).1]
      exact hothers f hmem _ p
  · intro hnone
    obtain ⟨f, hf, hname, -⟩ := h.own
    rw [if_neg fun hk => hnone f (List.mem_of_getElem? hf) (hname.trans hk.symm)]
    exact hrest k _ p

/-- A member of a record may be changed before it is decoded, or what it leads to afterwards. -/
lemma Part.read_mapMember (h : s.Part name place get read)
    (hisSet : ∀ f ∈ s.fields, ∀ p, f.isSet (g p) = f.isSet p)
    (hown : ∀ f, s.fields[place]? = some f →
      ∀ v p, f.set (change v).draft (g p) = g <$> f.set v.draft p)
    (hothers : ∀ f ∈ s.fields.eraseIdx place, ∀ d p, f.set d (g p) = g <$> f.set d p)
    (hrest : ∀ k d p, s.other k d (g p) = g <$> s.other k d p)
    {start : σ} (hstart : g start = start) {finish : σ → Except String β} {g' : β → β}
    (hfinish : ∀ p, finish (g p) = g' <$> finish p) (r : Reading) (j : Json) :
    s.read r start finish (j.mapMember name place change).draft
      = g' <$> s.read r start finish j.draft := by
  cases j with
  | obj fields =>
    have hfields := readFields_map (h.step_change hisSet hown hothers hrest) fields start
    rw [hstart] at hfields
    simp only [Json.mapMember, Json.draft, Shape.read, readObject, hfields]
    cases s.readFields (Json.draftFields fields) start with
    | error _ => rfl
    | ok p =>
      simp only [Except.map_ok, bind, Except.bind, Draft.check, Decoded.ofFault_ok, hfinish]
      cases finish p <;> rfl
  | arr items =>
    obtain ⟨f, hf, -⟩ := h.own
    have hitems := readElements_modify hown hothers (List.getElem?_eq_some_iff.mp hf).1 items start
    rw [hstart] at hitems
    have hlength : (Json.draftItems (items.modify place change)).length
        = (Json.draftItems items).length := by simp [Json.draftItems_eq_map]
    have hsurplus : ∀ given known : Nat,
        g' <$> (surplus r given known : Decoded β) = surplus r given known := by
      intro given known
      cases r <;> rfl
    simp only [Json.mapMember, Json.draft, Shape.read, readArray, hitems, hlength]
    cases Shape.readElements s.fields (Json.draftItems items) start with
    | error _ => rfl
    | ok p =>
      simp only [Except.map_ok, bind, Except.bind, Draft.check, Decoded.ofFault_ok, hfinish,
        Prod.map, id]
      cases finish p.1 with
      | error _ => split_ifs <;> rfl
      | ok b =>
        simp only [Except.map_ok]
        split_ifs <;> first | rfl | exact (hsurplus _ _).symm
  | null | bool b | num n | str s => rfl

end Shape

end BoundSql
