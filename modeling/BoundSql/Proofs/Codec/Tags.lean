import BoundSql.Proofs.Codec.Roundtrip

/-!
# Unknown tags

The tags of the clauses are looked at before a document is decoded, and the first unknown one is
reported, whatever else is wrong with the document. This is done for a document that is an object.
In a document that is an array the clauses have a place instead of a key, and an unknown tag among
them is a mismatch like any other.
-/

namespace BoundSql

/-! ### Tags of a document -/

/-- The tag of a clause: a string under its key `type`. -/
def Clause.tag? : Json → Option String
  | .obj fields => match fields.reverse.lookup "type" with
    | some (.str tag) => some tag
    | _ => none
  | _ => none

/-- Whether a string is none of the tags. -/
def PredicateKind.isUnknown (tag : String) : Bool := tag ∉ all.map PredicateKind.tag

namespace Query

/-- The clauses of a document, which stand under the key `wheres` or in the sixth place. -/
def clauseItems (document : Json) : List Json :=
  match document.lastMember? "wheres" 5 with
  | some (.arr clauses) => clauses
  | _ => []

/-- The first tag in a document that is unknown. -/
def unknownTag? (document : Json) : Option String :=
  ((clauseItems document).filterMap Clause.tag?).find? PredicateKind.isUnknown

end Query

namespace PredicateKind

lemma lookup_map_tag (tag : String) (ks : List PredicateKind) :
    (ks.map fun k => (k.tag, k)).lookup tag = ks.find? (·.tag == tag) := by
  induction ks with
  | nil => rfl
  | cons k ks ih =>
    rw [List.map_cons, Json.lookup_cons_eq_ite, ih, List.find?_cons]
    by_cases h : tag = k.tag
    · simp [h]
    · rw [if_neg h, beq_false_of_ne (Ne.symm h)]

/-- The names of the kinds are their tags. -/
lemma lookup_names (tag : String) : names.lookup tag = ofTag? tag :=
  lookup_map_tag tag all

lemma isUnknown_eq_isNone (tag : String) : isUnknown tag = (ofTag? tag).isNone := by
  rw [isUnknown, ofTag?, Bool.eq_iff_iff]
  simp

/-- The first of some tags that is unknown is reported. -/
lemma forM_parse (tags : List String) :
    (tags.forM fun tag => do let _ ← PredicateKind.parse tag)
      = match tags.find? isUnknown with
        | some tag => .error (Error.unknownKind tag)
        | none => .ok () := by
  induction tags with
  | nil => rfl
  | cons tag tags ih =>
    rw [List.forM, List.find?_cons, isUnknown_eq_isNone, parse]
    cases ofTag? tag with
    | some k => exact ih
    | none => rfl

end PredicateKind

/-! ### Documents in canonical form -/

lemma Clause.tag?_canonical (v : Json) :
    (match v.canonical with
      | .obj fields => match fields.lookup "type" with
        | some (.str tag) => some tag
        | _ => none
      | _ => none) = tag? v := by
  cases v with
  | obj fields =>
    rw [Json.canonical, tag?]
    simp only [Json.lookup_canonicalFields, List.lookup_nil, Option.or_none]
    cases fields.reverse.lookup "type" with
    | none => rfl
    | some w => cases w <;> rfl
  | null | bool b | num n | str s | arr items => rfl

namespace Query

/-- The tags that are looked at are those of the clauses, if the document is an object. -/
lemma clauseTags_canonical (document : Json) :
    clauseTags document.canonical = match document with
      | .obj fields => (clauseItems (.obj fields)).filterMap Clause.tag?
      | _ => [] := by
  cases document with
  | obj fields =>
    show clauseTags (Json.obj fields).canonical
      = (clauseItems (.obj fields)).filterMap Clause.tag?
    rw [Json.canonical, clauseTags, clauseItems, Json.lastMember?]
    simp only [Json.lookup_canonicalFields, List.lookup_nil, Option.or_none]
    cases fields.reverse.lookup "wheres" with
    | none => rfl
    | some w =>
      cases w with
      | arr clauses =>
        rw [Option.map_some, Json.canonical, Json.canonicalItems_eq_map]
        simp only [List.filterMap_map]
        refine List.filterMap_congr fun v _ => ?_
        exact Clause.tag?_canonical v
      | null | bool b | num n | str s | obj fields => rfl
  | null | bool b | num n | str s | arr items => rfl

/-- Of a document the first unknown tag is reported, and otherwise what is wrong in decoding. -/
lemma ofDocument_eq (document : Json) :
    ofDocument document = match (clauseTags document).find? PredicateKind.isUnknown with
      | some tag => .error (.unknownKind tag)
      | none => match read .document document.draft with
        | .ok q => .ok q
        | .error e => .error (.badQuery e) := by
  rw [ofDocument, PredicateKind.forM_parse]
  cases (clauseTags document).find? PredicateKind.isUnknown <;> rfl

end Query

/-! ### Clauses that are decoded -/

/-- A clause that is decoded has a tag that is one of the kinds. -/
lemma Clause.exists_kind_of_read {r : Reading} {fields : List (String × Json)} {c : Clause}
    (h : Clause.read r (Json.obj fields).draft = .ok c) :
    ∃ v kind, fields.lookup "type" = some v ∧ PredicateKind.read .setAside v.draft = .ok kind := by
  obtain ⟨p, hp, h⟩ := bind_eq_ok.mp h
  obtain ⟨predicate, hpredicate, -⟩ := bind_eq_ok.mp h
  obtain ⟨parts, hparts, hfinish⟩ := Shape.readObject_eq_ok.mp hp
  obtain rfl := pure_eq_ok.mp hfinish
  rw [(picks_shape r).fields_of_readFields hparts] at hpredicate
  obtain ⟨⟨kind, kept⟩, hkind, -⟩ := bind_eq_ok.mp hpredicate
  obtain ⟨parts, hparts, hfinish⟩ := Shape.readObject_eq_ok.mp hkind
  obtain ⟨kind', hkind', -⟩ := bind_eq_ok.mp hfinish
  have hpart := (Predicate.picks_taggedShape .setAside).part
  obtain ⟨v, hv, hread⟩ := hpart.exists_of_readFields hparts rfl (required_eq_ok.mp hkind')
  rw [lookup_filter (by simp)] at hv
  exact ⟨v, kind', hv, hread⟩

/-- A clause with an unknown tag is not decoded. -/
lemma Clause.read_ne_ok_of_tag? {r : Reading} {v : Json} {tag : String} (htag : tag? v = some tag)
    (hunknown : PredicateKind.isUnknown tag = true) (c : Clause) :
    Clause.read r v.canonical.draft ≠ .ok c := by
  intro h
  cases v with
  | obj fields =>
    rw [Json.canonical] at h
    obtain ⟨w, kind, hw, hkind⟩ := exists_kind_of_read h
    rw [Json.lookup_canonicalFields, List.lookup_nil, Option.or_none] at hw
    obtain ⟨u, hu, rfl⟩ := Option.map_eq_some_iff.mp hw
    rw [tag?, hu] at htag
    cases u with
    | str s =>
      obtain rfl := Option.some.inj htag
      have hs : PredicateKind.ofTag? s = some kind := by
        rw [← PredicateKind.lookup_names]
        exact Draft.variant_eq_ok.mp hkind
      rw [PredicateKind.isUnknown_eq_isNone, hs] at hunknown
      simp at hunknown
    | null | bool b | num n | arr items | obj fields => simp at htag
  | null | bool b | num n | str s | arr items => simp [tag?] at htag

namespace Query

/-- A document with an unknown tag is not decoded, be it an object or an array. -/
lemma read_ne_ok_of_unknownTag? {r : Reading} {document : Json} {tag : String}
    (h : unknownTag? document = some tag) (q : Query) :
    read r document.canonical.draft ≠ .ok q := by
  intro hq
  obtain ⟨v, hv, htag⟩ := List.mem_filterMap.mp (List.mem_of_find?_eq_some h)
  have hunknown : PredicateKind.isUnknown tag = true := List.find?_some h
  obtain ⟨p, -, hclauses⟩ := (part_clauses r).exists_of_read rfl hq
  rw [Json.member?_canonical] at hclauses
  rw [clauseItems] at hv
  cases hmember : document.lastMember? "wheres" 5 with
  | none => simp [hmember] at hv
  | some w =>
    rw [hmember] at hclauses hv
    obtain ⟨cs, hcs, -⟩ := hclauses
    obtain ⟨items, hitems, hreads⟩ := Draft.readList_draft.mp hcs
    cases w with
    | arr clauses =>
      rw [Json.canonical, Json.arr.injEq, Json.canonicalItems_eq_map] at hitems
      rw [← hitems, List.forall₂_map_left_iff] at hreads
      obtain ⟨c, -, hc⟩ := exists_of_mem_forall₂ hreads.flip hv
      exact Clause.read_ne_ok_of_tag? htag hunknown c hc
    | null | bool b | num n | str s | obj fields => simp at hv

/-- An unknown tag is reported exactly where it is the first one of a document that is an object.
A document that is an array and has an unknown tag is refused too, but with a decoding error. -/
theorem unknownKind_of_ofText (s : String) :
    (∀ tag, ofText s = .error (.unknownKind tag) ↔
      ∃ fields, Json.ofText s = .ok (.obj fields) ∧ unknownTag? (.obj fields) = some tag) ∧
    ∀ items tag, Json.ofText s = .ok (.arr items) → unknownTag? (.arr items) = some tag →
      ∃ e, ofText s = .error (.badQuery e) := by
  rw [ofText, Json.documentOfText]
  cases hs : Json.ofText s with
  | error f => simp
  | ok document =>
    simp only [Except.map_ok, Except.ok.injEq, ofDocument_eq, clauseTags_canonical]
    constructor
    · intro tag
      cases document with
      | obj fields =>
        simp only [Json.obj.injEq, exists_eq_left', unknownTag?]
        cases ((clauseItems (.obj fields)).filterMap Clause.tag?).find?
          PredicateKind.isUnknown with
        | some tag' => simp
        | none =>
          dsimp only
          cases read .document (Json.obj fields).canonical.draft <;> simp
      | null | bool b | num n | str s | arr items =>
        simp only [reduceCtorEq, false_and, exists_false, iff_false, List.find?_nil]
        split <;> simp
    · rintro items tag rfl htag
      simp only [List.find?_nil]
      cases hread : read .document (Json.arr items).canonical.draft with
      | ok q => exact absurd hread (read_ne_ok_of_unknownTag? htag q)
      | error e => exact ⟨e, rfl⟩

/-- A document with an unknown tag, as an array. -/
def listedTag : List Json :=
  [.str "t", .arr [], .bool false, .null, .arr [], .arr [.obj [("type", .str "nope")]]]

/-- The unknown tag is reported if the document is an object, and not if it is an array. -/
theorem unknownKind_of_listedTag :
    ofText "\x7b\"from\":\"t\",\"wheres\":[\x7b\"type\":\"nope\"\x7d]\x7d"
      = .error (.unknownKind "nope") ∧
    Json.ofText "[\"t\",[],false,null,[],[\x7b\"type\":\"nope\"\x7d]]" = .ok (.arr listedTag) ∧
    unknownTag? (.arr listedTag) = some "nope" ∧
    ∃ e, ofText "[\"t\",[],false,null,[],[\x7b\"type\":\"nope\"\x7d]]" = .error (.badQuery e) := by
  have hobject : Json.ofText "\x7b\"from\":\"t\",\"wheres\":[\x7b\"type\":\"nope\"\x7d]\x7d"
      = .ok (.obj [("from", .str "t"), ("wheres", .arr [.obj [("type", .str "nope")]])]) := by cbv
  have hlist : Json.ofText "[\"t\",[],false,null,[],[\x7b\"type\":\"nope\"\x7d]]"
      = .ok (.arr listedTag) := by cbv
  have htag : unknownTag? (.arr listedTag) = some "nope" := by decide
  refine ⟨?_, hlist, htag, (unknownKind_of_ofText _).2 _ _ hlist htag⟩
  apply ((unknownKind_of_ofText _).1 _).mpr
  exact ⟨_, hobject, by decide⟩

end Query

end BoundSql
