import BoundSql.Text.CaseTable

/-!
# Upper case

The full upper case of a text: letters outside ASCII move as the case table says, and a character
such as `ß` becomes several.
-/

namespace BoundSql.Text

/-- The code point that a run moves `n` to, if `n` is in the run. -/
def CaseRun.target? (r : CaseRun) (n : Nat) : Option Nat :=
  if r.first ≤ n ∧ n ≤ r.last ∧ (n - r.first) % r.step = 0 then some (n + r.shift).toNat else none

/-- The upper case of a character, which may be several characters. -/
def upperChar (c : Char) : List Char :=
  if c.toNat < 0x80 then [c.toUpper]
  else match expansions.lookup c.toNat with
    | some codes => codes.map Char.ofNat
    | none => [((caseRuns.findSome? (·.target? c.toNat)).map Char.ofNat).getD c]

/-- The upper case of a text. -/
def upper (s : String) : String :=
  String.ofList (s.toList.flatMap upperChar)

/-- On ASCII, upper case is letter by letter. -/
theorem upperChar_of_lt {c : Char} (h : c.toNat < 0x80) : upperChar c = [c.toUpper] := by
  simp [upperChar, h]

end BoundSql.Text
