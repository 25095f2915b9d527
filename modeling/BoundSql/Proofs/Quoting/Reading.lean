import BoundSql.Proofs.Insertion.Text
import BoundSql.Proofs.Token

/-!
# Reading quoted names back

Nothing is lost when a dotted name is quoted. Its text is cut at the dots outside quotes; a part is
either the bare `*` or a quoted name, whose quotes are stripped and whose doubled marks are written
once. What is read is the segments of the name, whatever characters they contain.
-/

namespace BoundSql

/-! ### Reading a text -/

namespace Text

/-- A text cut at a separator where it stands outside quotes, `quoted` saying whether an odd number
of quote marks has come before. -/
def cutFrom (q sep : Char) : Bool → List Char → List (List Char)
  | _, [] => [[]]
  | quoted, c :: cs =>
    if quoted = false ∧ c = sep then [] :: cutFrom q sep false cs
    else (cutFrom q sep (quoted ^^ decide (c = q)) cs).modifyHead (c :: ·)

/-- A text cut at a separator outside its quotes. -/
def cut (q sep : Char) (cs : List Char) : List (List Char) := cutFrom q sep false cs

/-- A text with each doubled mark written once. No mark may stand alone. -/
def undouble? (q : Char) : List Char → Option (List Char)
  | [] => some []
  | [c] => if c = q then none else some [c]
  | c :: c' :: cs =>
    if c = q then if c' = q then (undouble? q cs).map (q :: ·) else none
    else (undouble? q (c' :: cs)).map (c :: ·)

/-- What stands between the outer quotes of a text, with its doubled marks written once. -/
def unquote? (q : Char) : List Char → Option (List Char)
  | [] => none
  | c :: cs => if c = q ∧ cs.getLast? = some q then undouble? q cs.dropLast else none

/-- The segment that a part between two dots stands for. -/
def readSegment? (q : Char) (cs : List Char) : Option (List Char) :=
  if cs = ['*'] then some ['*'] else unquote? q cs

end Text

open Template Text

/-- The segments of a dotted name that was quoted segment by segment. -/
def readPath? (d : Dialect) (s : String) : Option (List (List Char)) :=
  (cut d.quoteMark '.' s.toList).mapM (readSegment? d.quoteMark)

/-! ### Quotes -/

namespace Text

variable {q sep : Char}

lemma undouble?_cons {c : Char} (h : c ≠ q) (cs : List Char) :
    undouble? q (c :: cs) = (undouble? q cs).map (c :: ·) := by
  cases cs with
  | nil => simp [undouble?, h]
  | cons c' cs => rw [undouble?, if_neg h]

lemma undouble?_double (q : Char) (cs : List Char) : undouble? q (double q cs) = some cs := by
  induction cs with
  | nil => rfl
  | cons c cs ih =>
    by_cases hc : c = q
    · rw [hc, double_cons_self, undouble?, if_pos rfl, if_pos rfl, ih, Option.map_some]
    · rw [double_cons_of_ne hc, undouble?_cons hc, ih, Option.map_some]

lemma unquote?_quote (d : Dialect) (s : String) :
    unquote? d.quoteMark (d.quote s).toList = some s.toList := by
  rw [d.toList_quote, unquote?, if_pos ⟨rfl, List.getLast?_concat⟩, List.dropLast_concat,
    undouble?_double]

/-! ### Cuts -/

lemma cutFrom_cons_of_ne {quoted : Bool} {c : Char} (h : quoted = true ∨ c ≠ sep)
    (cs : List Char) : cutFrom q sep quoted (c :: cs)
      = (cutFrom q sep (quoted ^^ decide (c = q)) cs).modifyHead (c :: ·) := by
  rw [cutFrom, if_neg]
  rintro ⟨hquoted, hc⟩
  exact h.elim (by simp [hquoted]) fun hne => hne hc

lemma cut_cons_self (cs : List Char) : cut q sep (sep :: cs) = [] :: cut q sep cs := by
  rw [cut, cutFrom, if_pos ⟨rfl, rfl⟩, cut]

/-- Whether a text is not cut, whatever stands behind it: it closes its quotes, and the separator
does not stand outside of them. -/
def Whole (q sep : Char) (cs : List Char) : Prop :=
  ∀ rest, cut q sep (cs ++ rest) = (cut q sep rest).modifyHead (cs ++ ·)

namespace Whole

variable {cs ds : List Char}

lemma append (hcs : Whole q sep cs) (hds : Whole q sep ds) : Whole q sep (cs ++ ds) := by
  intro rest
  rw [List.append_assoc, hcs, hds, List.modifyHead_modifyHead]
  simp only [Function.comp_def, List.append_assoc]

/-- Where nothing stands behind it, the text is the only part. -/
lemma cut_eq (h : Whole q sep cs) : cut q sep cs = [cs] := by
  have hnil := h []
  rw [List.append_nil] at hnil
  rw [hnil, cut, cutFrom, List.modifyHead_cons, List.append_nil]

/-- In front of a separator, the text is the first part. -/
lemma cut_append_cons (h : Whole q sep cs) (rest : List Char) :
    cut q sep (cs ++ sep :: rest) = cs :: cut q sep rest := by
  rw [h, cut_cons_self, List.modifyHead_cons, List.append_nil]

lemma of_notMem (hq : q ∉ cs) (hsep : sep ∉ cs) : Whole q sep cs := by
  intro rest
  induction cs with
  | nil => exact (congrFun List.modifyHead_id _).symm
  | cons c cs ih =>
    simp only [List.mem_cons, not_or] at hq hsep
    have hcs : cutFrom q sep false (cs ++ rest) = _ := ih hq.2 hsep.2
    rw [List.cons_append, cut, cutFrom_cons_of_ne (.inr (Ne.symm hsep.1)),
      decide_eq_false (Ne.symm hq.1), Bool.xor_false, hcs, List.modifyHead_modifyHead]
    rfl

end Whole

/-- Behind the opening quote nothing is cut up to the closing one. -/
lemma cutFrom_double (hq : q ≠ sep) (cs rest : List Char) :
    cutFrom q sep true (double q cs ++ q :: rest)
      = (cut q sep rest).modifyHead ((double q cs ++ [q]) ++ ·) := by
  induction cs with
  | nil =>
    rw [double_nil, List.nil_append, cutFrom_cons_of_ne (.inl rfl)]
    simp [cut]
  | cons c cs ih =>
    by_cases hc : c = q
    · -- the first of the two marks closes the quotes and the second opens them again
      rw [hc, double_cons_self, List.cons_append, List.cons_append,
        cutFrom_cons_of_ne (.inl rfl), cutFrom_cons_of_ne (.inr hq)]
      simp [ih, List.modifyHead_modifyHead, Function.comp_def]
    · rw [double_cons_of_ne hc, List.cons_append, cutFrom_cons_of_ne (.inl rfl)]
      simp [hc, ih, List.modifyHead_modifyHead, Function.comp_def]

/-- A quoted name is not cut, whatever it contains. -/
lemma whole_quote (d : Dialect) (s : String) (h : d.quoteMark ≠ sep) :
    Whole d.quoteMark sep (d.quote s).toList := by
  intro rest
  rw [d.toList_quote, List.cons_append, List.append_assoc, List.singleton_append, cut,
    cutFrom_cons_of_ne (.inr h)]
  simp [cutFrom_double h, List.modifyHead_modifyHead, Function.comp_def]

/-- Texts that are not cut are the parts between their separators. -/
lemma cut_intercalate {us : List (List Char)} (hne : us ≠ []) (h : ∀ u ∈ us, Whole q sep u) :
    cut q sep ([sep].intercalate us) = us := by
  induction us with
  | nil => exact absurd rfl hne
  | cons u us ih =>
    have hu : Whole q sep u := h u List.mem_cons_self
    cases us with
    | nil => rw [List.intercalate_singleton, hu.cut_eq]
    | cons v vs =>
      have hrest := ih (by simp) fun w hw => h w (List.mem_cons_of_mem _ hw)
      rw [List.intercalate_cons_cons, List.append_assoc, List.singleton_append,
        hu.cut_append_cons, hrest]

lemma Whole.intercalate {l : List Char} {us : List (List Char)} (hl : Whole q sep l)
    (h : ∀ u ∈ us, Whole q sep u) : Whole q sep (l.intercalate us) := by
  induction us with
  | nil => exact .of_notMem (by simp) (by simp)
  | cons u us ih =>
    have hu : Whole q sep u := h u List.mem_cons_self
    cases us with
    | nil => rwa [List.intercalate_singleton]
    | cons v vs =>
      rw [List.intercalate_cons_cons]
      exact (hu.append hl).append (ih fun w hw => h w (List.mem_cons_of_mem _ hw))

end Text

/-! ### Dotted names -/

/-- The text of a segment in a dialect. -/
def segmentText (d : Dialect) (s : List Char) : String := Template.render d 0 [segment s]

/-- The text of a dotted name in a dialect. -/
def pathText (d : Dialect) (s : String) : String := (path s.toList).render d 0

variable {d : Dialect}

lemma segmentText_star : segmentText d ['*'] = "*" := rfl

lemma segmentText_of_ne {s : List Char} (h : s ≠ ['*']) :
    segmentText d s = d.quote (String.ofList s) := by
  rw [segmentText, segment, if_neg h, render, chars, chars, List.append_nil, String.ofList_toList]

lemma readSegment?_segmentText (s : List Char) :
    readSegment? d.quoteMark (segmentText d s).toList = some s := by
  by_cases hs : s = ['*']
  · rw [hs, segmentText_star]
    rfl
  · have hne : (d.quote (String.ofList s)).toList ≠ ['*'] := by
      rw [d.toList_quote]
      simp
    rw [segmentText_of_ne hs, readSegment?, if_neg hne, unquote?_quote, String.toList_ofList]

/-- A segment has no break outside its quotes. -/
lemma whole_segmentText {sep : Char} (h : isBreak sep = true) (s : List Char) :
    Whole d.quoteMark sep (segmentText d s).toList := by
  by_cases hs : s = ['*']
  · have hstar : sep ≠ '*' := by
      rintro rfl
      exact absurd h (by decide)
    rw [hs, segmentText_star]
    refine .of_notMem ?_ (by simpa using hstar)
    cases d <;> decide
  · rw [segmentText_of_ne hs]
    exact whole_quote d (String.ofList s) (isBreak_ne_quoteMark h d).symm

/-- The text of a name is those of its segments, with dots between them. -/
lemma pathText_eq_intercalate (s : String) :
    pathText d s = ".".intercalate ((s.toList.splitOn '.').map (segmentText d)) := by
  have hparams : ∀ t ∈ (s.toList.splitOn '.').map fun u => [segment u], params t = [] := by
    intro t ht
    obtain ⟨u, -, rfl⟩ := List.mem_map.mp ht
    rw [segment]
    split_ifs <;> rfl
  rw [pathText, path, render_join, renderEach_of_params_eq_nil hparams, List.map_map]
  rfl

lemma toList_pathText (s : String) : (pathText d s).toList
    = ['.'].intercalate ((s.toList.splitOn '.').map fun u => (segmentText d u).toList) := by
  rw [pathText_eq_intercalate, String.toList_intercalate, List.map_map]
  rfl

/-- A dotted name has no blank outside its quotes. -/
lemma whole_pathText (s : String) : Whole d.quoteMark ' ' (pathText d s).toList := by
  rw [toList_pathText]
  refine .intercalate (.of_notMem ?_ (by decide)) ?_
  · cases d <;> decide
  · intro u hu
    obtain ⟨u, -, rfl⟩ := List.mem_map.mp hu
    exact whole_segmentText rfl u

/-- The segments of a name are read back from its text. -/
theorem readPath?_pathText (s : String) :
    readPath? d (pathText d s) = some (s.toList.splitOn '.') := by
  have hread : readSegment? d.quoteMark ∘ (fun u => (segmentText d u).toList) = some :=
    funext readSegment?_segmentText
  rw [readPath?, toList_pathText, cut_intercalate (by simp [List.splitOn_ne_nil]), List.mapM_map,
    hread]
  · exact List.mapM_pure.trans (congrArg some (List.map_id _))
  · intro u hu
    obtain ⟨u, -, rfl⟩ := List.mem_map.mp hu
    exact whole_segmentText rfl u

theorem pathText_injective (d : Dialect) : Function.Injective (pathText d) := by
  intro s t h
  have hread : readPath? d (pathText d s) = readPath? d (pathText d t) := by rw [h]
  rw [readPath?_pathText, readPath?_pathText, Option.some.injEq] at hread
  have hjoined : ['.'].intercalate (s.toList.splitOn '.') = s.toList := List.intercalate_splitOn '.'
  rw [← String.toList_inj, ← hjoined, hread, List.intercalate_splitOn]

end BoundSql
