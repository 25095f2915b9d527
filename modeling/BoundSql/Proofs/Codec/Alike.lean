import BoundSql.Proofs.Codec.Gathering
import BoundSql.Proofs.Codec.Tags

/-!
# Values in any order

What is not a record is decoded alike from values that differ only in the order of their keys:
simple values, references and bound values, names, and lists and options of what is decoded alike.
-/

namespace BoundSql

open Json (Reordered)

namespace Json.Reordered

/-- Arrays are both empty, have one item each, or have more. -/
lemma items_cases {items items' : List Json} (h : Reordered (.arr items) (.arr items')) :
    items = [] ∧ items' = [] ∨
    (∃ v v', items = [v] ∧ items' = [v'] ∧ Reordered v v') ∨
    ∃ v w vs v' w' vs', items = v :: w :: vs ∧ items' = v' :: w' :: vs' := by
  cases h.forall₂ with
  | nil => exact .inl ⟨rfl, rfl⟩
  | cons hv hrest =>
    cases hrest with
    | nil => exact .inr (.inl ⟨_, _, rfl, rfl, hv⟩)
    | cons _ _ => exact .inr (.inr ⟨_, _, _, _, _, _, rfl, rfl⟩)

/-- Objects are both empty, have the same one key each, or have more. -/
lemma fields_cases {fields fields' : List (String × Json)}
    (h : Reordered (.obj fields) (.obj fields')) :
    fields = [] ∧ fields' = [] ∨
    (∃ k v v', fields = [(k, v)] ∧ fields' = [(k, v')] ∧ Reordered v v') ∨
    ∃ e f es e' f' es', fields = e :: f :: es ∧ fields' = e' :: f' :: es' := by
  have hlength : fields.length = fields'.length := by simpa using h.perm.length_eq
  match fields, fields' with
  | [], [] => exact .inl ⟨rfl, rfl⟩
  | [(k, v)], [(k', v')] =>
    obtain rfl : k' = k := by simpa using List.perm_singleton.mp h.perm.symm
    have hrel := h.lookup k'
    simp only [List.lookup_cons, BEq.rfl] at hrel
    cases hrel with
    | some hv => exact .inr (.inl ⟨k', v, v', rfl, rfl, hv⟩)
  | e :: f :: es, e' :: f' :: es' => exact .inr (.inr ⟨e, f, es, e', f', es', rfl, rfl⟩)
  | [], _ :: _ | _ :: _, [] => simp at hlength
  | [_], _ :: _ :: _ | _ :: _ :: _, [_] => simp at hlength

/-- What comes out of a value that is no array and no object does not depend on any order. -/
lemma congr_of_scalar {α : Type} {f : Json → Option α} (harr : ∀ items, f (.arr items) = none)
    (hobj : ∀ fields, f (.obj fields) = none) {v v' : Json} (h : Reordered v v') : f v = f v' := by
  cases h with
  | refl _ => rfl
  | arr _ _ => rw [harr, harr]
  | obj _ _ => rw [hobj, hobj]

end Json.Reordered

/-! ### Simple values -/

lemma ReadAlike.of_scalar {α : Type} {read : Draft → Decoded α}
    (harr : ∀ items, (read (Json.arr items).draft).toOption = none)
    (hobj : ∀ fields, (read (Json.obj fields).draft).toOption = none) :
    ReadAlike Reordered read read :=
  fun _ _ _ _ h => h.congr_of_scalar (f := fun v => (read v.draft).toOption) harr hobj

namespace Draft

variable {α : Type}

lemma readAlike_readString : ReadAlike Reordered readString readString :=
  .of_scalar (fun _ => rfl) fun _ => rfl

lemma readAlike_readBool : ReadAlike Reordered readBool readBool :=
  .of_scalar (fun _ => rfl) fun _ => rfl

lemma readAlike_readWord : ReadAlike Reordered readWord readWord :=
  .of_scalar (fun _ => rfl) fun _ => rfl

lemma toOption_readForms {type : String} {forms : Json → Option α} {j : Json} :
    (readForms type forms j.draft).toOption = forms j := by
  apply Option.ext
  intro a
  rw [Decoded.toOption_eq_some, readForms_draft]

lemma readAlike_readForms {type : String} {forms : Json → Option α}
    (h : ∀ {v v'}, Reordered v v' → forms v = forms v') :
    ReadAlike Reordered (readForms type forms) (readForms type forms) := by
  intro v v' _ _ hR
  rw [toOption_readForms, toOption_readForms, h hR]

end Draft

lemma Direction.readAlike_read : ReadAlike Reordered Direction.read Direction.read :=
  .of_scalar (fun _ => rfl) fun _ => rfl

lemma PredicateKind.readAlike_read :
    ReadAlike Reordered (PredicateKind.read .setAside) (PredicateKind.read .setAside) :=
  .of_scalar (fun _ => rfl) fun _ => rfl

/-! ### References and bound values -/

section Forms

variable {v v' : Json}

lemma Expression.ofJson?_congr (h : Reordered v v') : ofJson? v = ofJson? v' := by
  cases h with
  | refl _ => rfl
  | arr hlength hitems =>
    have h : Reordered (.arr _) (.arr _) := .arr hlength hitems
    obtain ⟨rfl, rfl⟩ | ⟨w, w', rfl, rfl, hw⟩ | ⟨_, _, _, _, _, _, rfl, rfl⟩ := h.items_cases
    · rfl
    · exact hw.congr_of_scalar (f := fun w => ofJson? (.arr [w])) (fun _ => rfl) fun _ => rfl
    · simp [ofJson?]
  | obj hkeys hvalues =>
    have h : Reordered (.obj _) (.obj _) := .obj hkeys hvalues
    obtain ⟨rfl, rfl⟩ | ⟨k, w, w', rfl, rfl, hw⟩ | ⟨_, _, _, _, _, _, rfl, rfl⟩ := h.fields_cases
    · rfl
    · exact hw.congr_of_scalar (f := fun w => ofJson? (.obj [(k, w)])) (fun _ => rfl) fun _ => rfl
    · simp [ofJson?]

lemma byte?_congr (h : Reordered v v') : byte? v = byte? v' :=
  h.congr_of_scalar (fun _ => rfl) fun _ => rfl

/-- Related lists are mapped to the same if related elements are. -/
lemma mapM_congr_of_forall₂ {α β γ : Type} {f : α → Option γ} {g : β → Option γ} {xs : List α}
    {ys : List β} (h : List.Forall₂ (fun x y => f x = g y) xs ys) : xs.mapM f = ys.mapM g := by
  induction h with
  | nil => rfl
  | cons hxy _ ih => rw [List.mapM_cons, List.mapM_cons, hxy, ih]

lemma SqlValue.ofJson?_congr (h : Reordered v v') : ofJson? v = ofJson? v' := by
  cases h with
  | refl _ => rfl
  | arr hlength hitems =>
    have hforall := Json.Reordered.forall₂ (.arr hlength hitems)
    rw [ofJson?, ofJson?, mapM_congr_of_forall₂ (hforall.imp fun _ _ => byte?_congr)]
  | obj _ _ => rfl

lemma Value.ofJson?_congr (h : Reordered v v') : ofJson? v = ofJson? v' := by
  rw [ofJson?, ofJson?, Expression.ofJson?_congr h, SqlValue.ofJson?_congr h]

lemma Identifier.ofJson?_congr (h : Reordered v v') : ofJson? v = ofJson? v' := by
  have hexpression := Expression.ofJson?_congr h
  rw [ofJson?.eq_def, ofJson?.eq_def, hexpression]
  cases Expression.ofJson? v' with
  | some e => rfl
  | none => cases h <;> rfl

lemma Value.readAlike_read : ReadAlike Reordered Value.read Value.read :=
  Draft.readAlike_readForms ofJson?_congr

lemma Identifier.readAlike_read : ReadAlike Reordered Identifier.read Identifier.read :=
  Draft.readAlike_readForms ofJson?_congr

/-! ### Names -/

lemma Json.nameOf?_congr {r r' : Reading} (hr : r = .setAside ↔ r' = .setAside)
    (h : Reordered v v') : v.nameOf? r = v'.nameOf? r' := by
  cases h with
  | refl _ => simp only [nameOf?, hr]
  | arr _ _ => simp [nameOf?]
  | @obj fields fields' hkeys hvalues =>
    have h : Reordered (.obj fields) (.obj fields') := .obj hkeys hvalues
    obtain ⟨rfl, rfl⟩ | ⟨k, w, w', rfl, rfl, hw⟩ | ⟨_, _, _, _, _, _, rfl, rfl⟩ := h.fields_cases
    · simp [nameOf?]
    · cases hw with
      | refl _ => simp only [nameOf?, hr]
      | arr _ _ => simp [nameOf?]
      | @obj inner inner' hkeys₁ hvalues₁ =>
        have hw : Reordered (.obj inner) (.obj inner') := .obj hkeys₁ hvalues₁
        obtain ⟨rfl, rfl⟩ | ⟨_, _, _, rfl, rfl, _⟩ | ⟨_, _, _, _, _, _, rfl, rfl⟩ :=
          hw.fields_cases
        · simp only [nameOf?, hr]
        · simp [nameOf?]
        · simp [nameOf?]
    · simp [nameOf?]

end Forms

lemma Draft.readAlike_readName {α : Type} {r r' : Reading} (hr : r = .setAside ↔ r' = .setAside)
    (names : List (String × α)) : ReadAlike Reordered (readName r names) (readName r' names) := by
  intro v v' _ _ h
  apply Option.ext
  intro a
  rw [Decoded.toOption_eq_some, Decoded.toOption_eq_some, readName_draft, readName_draft,
    Json.nameOf?_congr hr h]

/-! ### Lists and options -/

lemma Json.outline_eq_null {v : Json} : v.outline = .null ↔ v = .null := by
  cases v <;> simp [outline]

/-- Whether two values are alike item by item, if they are arrays. -/
structure Json.ItemsAlike (R : Json.Relation) (v v' : Json) : Prop where
  outline : v.outline = v'.outline
  items : ∀ items items', v = .arr items → v' = .arr items' → List.Forall₂ R items items'

lemma Json.Reordered.itemsAlike {R : Json.Relation} (hR : ∀ v v', Reordered v v' → R v v')
    {v v' : Json} (h : Reordered v v') : ItemsAlike R v v' where
  outline := h.outline_eq
  items := by
    rintro items items' rfl rfl
    exact h.forall₂.imp hR

namespace Draft

variable {α : Type} {R : Json.Relation} {read read' : Draft → Decoded α}

lemma toOption_readList (items : List Json) :
    (readList read (Json.arr items).draft).toOption
      = items.mapM fun v => (read v.draft).toOption := by
  have hitems : (items.mapM fun v => (read v.draft).toOption)
      = (items.mapM fun v => read v.draft).toOption := by
    induction items with
    | nil => rfl
    | cons v items ih =>
      rw [List.mapM_cons, List.mapM_cons, ih]
      cases read v.draft with
      | error _ => rfl
      | ok a => cases items.mapM fun v => read v.draft <;> rfl
  rw [hitems, Json.draft, readList, Json.draftItems_eq_map, List.mapM_map]
  change (items.mapM (fun v => read v.draft) >>= _).toOption = _
  cases items.mapM fun v => read v.draft <;> rfl

lemma toOption_readOption {j : Json} (hj : j ≠ .null) :
    (readOption read j.draft).toOption = (read j.draft).toOption.map some := by
  have hdraft : j.draft ≠ .null := by
    cases j with
    | null => exact absurd rfl hj
    | bool b | num n | str s | arr items | obj fields => simp [Json.draft]
  rw [readOption]
  · cases read j.draft <;> rfl
  · exact hdraft

lemma readAlike_readList (h : ReadAlike R read read') :
    ReadAlike (Json.ItemsAlike R) (readList read) (readList read') := by
  intro v v' hv hv' halike
  have houtline := halike.outline
  cases v with
  | arr items =>
    cases v' with
    | arr items' =>
      rw [toOption_readList, toOption_readList]
      apply mapM_congr_of_forall₂
      cases hv with | arr hitems =>
      cases hv' with | arr hitems' =>
      have hforall := halike.items items items' rfl rfl
      rw [List.forall₂_iff_zip] at hforall ⊢
      refine ⟨hforall.1, fun {w w'} hmem => ?_⟩
      have hw := List.of_mem_zip hmem
      exact h w w' (hitems w hw.1) (hitems' w' hw.2) (hforall.2 hmem)
    | null | bool b | num n | str s | obj fields => simp [Json.outline] at houtline
  | null | bool b | num n | str s | obj fields =>
    cases v' with
    | arr items => simp [Json.outline] at houtline
    | null | bool b | num n | str s | obj fields => rfl

/-- An option may be absent in both of two alike values. -/
lemma readAlike_readOption (hR : ∀ v v', R v v' → v.outline = v'.outline)
    (h : ReadAlike R read read') : ReadAlike R (readOption read) (readOption read') := by
  intro v v' hv hv' halike
  have hread := h v v' hv hv' halike
  have hnull : v = .null ↔ v' = .null := by
    rw [← Json.outline_eq_null (v := v), hR v v' halike, Json.outline_eq_null]
  by_cases hv : v = .null
  · rw [hv, hnull.mp hv]
    rfl
  · rw [toOption_readOption hv, toOption_readOption (hnull.not.mp hv), hread]

end Draft

lemma ReadAlike.readList {α : Type} {read read' : Draft → Decoded α}
    (h : ReadAlike Reordered read read') :
    ReadAlike Reordered (Draft.readList read) (Draft.readList read') :=
  fun v v' hv hv' hR => Draft.readAlike_readList h v v' hv hv' (hR.itemsAlike fun _ _ => id)

end BoundSql
