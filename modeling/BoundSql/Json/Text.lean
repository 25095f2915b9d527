import BoundSql.Json.Numeral

/-!
# Reading JSON text

Strings, literals, arrays and objects, from the front of a text to a draft. The scanner takes fuel
for its recursion; `Draft.ofText` gives it twice the length of the text, which is enough since
every second step takes a character off.
-/

namespace BoundSql

namespace Draft

/-- A text without the blanks at its start. -/
def dropBlanks (cs : List Char) : List Char :=
  cs.dropWhile fun c => c == ' ' || c == '\t' || c == '\n' || c == '\r'

/-- The value of a hexadecimal digit. -/
def hexDigit? (c : Char) : Option Nat :=
  if c.isDigit then some (c.toNat - 48)
  else if 'a' ≤ c ∧ c ≤ 'f' then some (c.toNat - 87)
  else if 'A' ≤ c ∧ c ≤ 'F' then some (c.toNat - 55)
  else none

/-- The value of four hexadecimal digits. -/
def hexUnit? (a b c d : Char) : Option Nat := do
  let a ← hexDigit? a
  let b ← hexDigit? b
  let c ← hexDigit? c
  let d ← hexDigit? d
  pure (((a * 16 + b) * 16 + c) * 16 + d)

/-- What is wrong where four hexadecimal digits are due and fewer than four characters are left:
the text is malformed if what is left still takes four bytes, and truncated otherwise. -/
def cutHex (cs : List Char) : Fault :=
  if 4 ≤ cs.foldr (fun c bytes => c.utf8Size + bytes) 0 then .malformed else .truncated

/-- The first half of a surrogate pair. -/
def isHighSurrogate (n : Nat) : Bool := 0xD800 ≤ n && n < 0xDC00

/-- The second half of a surrogate pair. -/
def isLowSurrogate (n : Nat) : Bool := 0xDC00 ≤ n && n < 0xE000

/-- The character that a surrogate pair stands for. -/
def surrogatePair (high low : Nat) : Char :=
  Char.ofNat (0x10000 + (high - 0xD800) * 0x400 + (low - 0xDC00))

/-- The character that a backslash and a letter stand for. -/
def shortEscape? (c : Char) : Option Char :=
  match c with
  | '"' => some '"'
  | '\\' => some '\\'
  | '/' => some '/'
  | 'b' => some '\x08'
  | 'f' => some '\x0c'
  | 'n' => some '\n'
  | 'r' => some '\r'
  | 't' => some '\t'
  | _ => none

/-- Puts a character in front of a string that has been read. -/
def consChar (c : Char) :
    Except Fault (List Char × List Char) → Except Fault (List Char × List Char)
  | .ok (s, rest) => .ok (c :: s, rest)
  | .error f => .error f

/-- The characters of a string whose opening quote has been read, and the text after its closing
quote. -/
def unquote : List Char → Except Fault (List Char × List Char)
  | [] => .error .truncated
  | c :: cs =>
    if c = '"' then .ok ([], cs)
    else if c = '\\' then
      match cs with
      | [] => .error .truncated
      | e :: cs =>
        if e = 'u' then
          match cs with
          | h₁ :: h₂ :: h₃ :: h₄ :: cs =>
            match hexUnit? h₁ h₂ h₃ h₄ with
            | none => .error .malformed
            | some n =>
              if isLowSurrogate n then .error .malformed
              else if isHighSurrogate n then
                match cs with
                | [] | ['\\'] => .error .truncated
                | '\\' :: 'u' :: l₁ :: l₂ :: l₃ :: l₄ :: cs =>
                  match hexUnit? l₁ l₂ l₃ l₄ with
                  | none => .error .malformed
                  | some m =>
                    if isLowSurrogate m then consChar (surrogatePair n m) (unquote cs)
                    else .error .malformed
                | '\\' :: 'u' :: short => .error (cutHex short)
                | _ => .error .malformed
              else consChar (Char.ofNat n) (unquote cs)
          | short => .error (cutHex short)
        else
          match shortEscape? e with
          | some d => consChar d (unquote cs)
          | none => .error .malformed
    else if c.toNat < 0x20 then .error .malformed
    else consChar c (unquote cs)

/-- The text after the closing quote of a string whose opening quote has been read, without regard
to surrogates. -/
def pastQuote : List Char → Except Fault (List Char)
  | [] => .error .truncated
  | c :: cs =>
    if c = '"' then .ok cs
    else if c = '\\' then
      match cs with
      | [] => .error .truncated
      | e :: cs =>
        if e = 'u' then
          match cs with
          | h₁ :: h₂ :: h₃ :: h₄ :: cs =>
            if (hexUnit? h₁ h₂ h₃ h₄).isSome then pastQuote cs else .error .malformed
          | short => .error (cutHex short)
        else if (shortEscape? e).isSome then pastQuote cs
        else .error .malformed
    else if c.toNat < 0x20 then .error .malformed
    else pastQuote cs

/-- The draft of a string whose opening quote has been read, and the text after it. -/
def scanString (cs : List Char) : Draft × List Char :=
  match unquote cs with
  | .ok (s, rest) => (.str (some (String.ofList s)), rest)
  | .error f =>
    match pastQuote cs with
    | .ok rest => (.str none, rest)
    | .error g => (.torn true f g, [])

/-- The rest of a literal. -/
def literal : List Char → List Char → Except Fault (List Char)
  | [], cs => .ok cs
  | _ :: _, [] => .error .truncated
  | w :: ws, c :: cs => if c = w then literal ws cs else .error .malformed

/-- The draft of a literal whose first letter has been read, and the text after it. -/
def scanLiteral (word : List Char) (value : Draft) (cs : List Char) : Draft × List Char :=
  match literal word cs with
  | .ok rest => (value, rest)
  | .error f => (.torn false f f, [])

/-- The draft of a number, and the text after it. A number that breaks off is malformed to whoever
skips it. -/
def scanNumber (cs : List Char) : Draft × List Char :=
  match Numeral.read cs with
  | .ok (n, rest) => (.num n.number?, rest)
  | .error f => (.torn false f .malformed, [])

/-- What cannot be the start of a value. -/
def stray : Draft := .torn false .malformed .malformed

/-- A container inside `depth` others. -/
def nested (depth : Nat) (d : Draft) : Draft :=
  if depth < maxDepth then d else .deep d

mutual
/-- The draft of the value at the start of a text inside `depth` containers, and the text after
it. -/
def scan : Nat → Nat → List Char → Draft × List Char
  | 0, _, _ => (.missing, [])
  | fuel + 1, depth, cs =>
    match dropBlanks cs with
    | [] => (.missing, [])
    | c :: rest =>
      if c = '"' then scanString rest
      else if c = '[' then
        match dropBlanks rest with
        | [] => (nested depth (.arr [] (some .truncated)), [])
        | ']' :: rest => (nested depth (.arr [] none), rest)
        | rest =>
          let (items, close, rest) := scanItems fuel (depth + 1) rest
          (nested depth (.arr items close), rest)
      else if c = '\x7b' then
        match dropBlanks rest with
        | [] => (nested depth (.obj [] (some .truncated)), [])
        | '\x7d' :: rest => (nested depth (.obj [] none), rest)
        | rest =>
          let (fields, close, rest) := scanFields fuel (depth + 1) rest
          (nested depth (.obj fields close), rest)
      else if c = 'n' then scanLiteral ['u', 'l', 'l'] .null rest
      else if c = 't' then scanLiteral ['r', 'u', 'e'] (.bool true) rest
      else if c = 'f' then scanLiteral ['a', 'l', 's', 'e'] (.bool false) rest
      else if c = '-' ∨ c.isDigit then scanNumber (c :: rest)
      else (stray, [])

/-- The items from the first on that is still due, what is wrong after them, and the text after
the closing bracket. -/
def scanItems : Nat → Nat → List Char → List Draft × Option Fault × List Char
  | 0, _, _ => ([], some .truncated, [])
  | fuel + 1, depth, cs =>
    let (d, rest) := scan fuel depth cs
    match dropBlanks rest with
    | [] => ([d], some .truncated, [])
    | ']' :: rest => ([d], none, rest)
    | ',' :: rest =>
      match dropBlanks rest with
      | ']' :: _ => ([d], some .malformed, [])
      | rest =>
        let (ds, close, rest) := scanItems fuel depth rest
        (d :: ds, close, rest)
    | _ => ([d], some .malformed, [])

/-- The fields from the first on that is still due, what is wrong after them, and the text after
the closing brace. The text starts where the key is due. -/
def scanFields : Nat → Nat → List Char → List (Draft × Draft) × Option Fault × List Char
  | 0, _, _ => ([], some .truncated, [])
  | fuel + 1, depth, cs =>
    match cs with
    | '"' :: rest =>
      let (k, rest) := scanString rest
      match dropBlanks rest with
      | [] => ([(k, .missing)], some .truncated, [])
      | ':' :: rest =>
        let (d, rest) := scan fuel depth rest
        match dropBlanks rest with
        | [] => ([(k, d)], some .truncated, [])
        | '\x7d' :: rest => ([(k, d)], none, rest)
        | ',' :: rest =>
          match dropBlanks rest with
          | '\x7d' :: _ => ([(k, d)], some .malformed, [])
          | rest =>
            let (fs, close, rest) := scanFields fuel depth rest
            ((k, d) :: fs, close, rest)
        | _ => ([(k, d)], some .malformed, [])
      | _ => ([(k, stray)], some .malformed, [])
    | [] => ([(.missing, .missing)], some .truncated, [])
    | _ => ([(stray, .missing)], some .malformed, [])
end

/-- The draft of the value at the start of a text, and the text after it. -/
def ofChars (cs : List Char) : Draft × List Char :=
  scan (2 * cs.length + 2) 0 cs

end Draft

/-- The value that a whole text stands for. -/
def Json.ofText (s : String) : Except Fault Json := do
  let (d, rest) := Draft.ofChars s.toList
  let v ← d.settle
  if (Draft.dropBlanks rest).isEmpty then pure v else .error .malformed

end BoundSql
