import BoundSql.Json.Text

/-!
# Canonical documents

A document in canonical form has every key of an object once, with the last value that was given
to it, and its keys in the order of their code points.
-/

namespace BoundSql.Json

/-- Whether one text comes before another, by code points. -/
def keyBefore : List Char → List Char → Bool
  | _, [] => false
  | [], _ :: _ => true
  | a :: as, b :: bs => a.toNat < b.toNat || (a == b && keyBefore as bs)

/-- Puts a field into fields in canonical order, in place of one with the same key. -/
def putField (k : String) (v : Json) : List (String × Json) → List (String × Json)
  | [] => [(k, v)]
  | (k', v') :: fs =>
    if k = k' then (k, v) :: fs
    else if keyBefore k.toList k'.toList then (k, v) :: (k', v') :: fs
    else (k', v') :: putField k v fs

mutual
/-- The canonical form of a value. -/
def canonical : Json → Json
  | .arr items => .arr (canonicalItems items)
  | .obj fields => .obj (canonicalFields fields [])
  | j => j

/-- The canonical forms of the items of an array. -/
def canonicalItems : List Json → List Json
  | [] => []
  | v :: vs => v.canonical :: canonicalItems vs

/-- Fields that are in canonical form already, and after them more fields. -/
def canonicalFields : List (String × Json) → List (String × Json) → List (String × Json)
  | [], done => done
  | (k, v) :: fs, done => canonicalFields fs (putField k v.canonical done)
end

/-- The canonical form of the document that a text is. -/
def documentOfText (s : String) : Except Fault Json :=
  canonical <$> ofText s

end BoundSql.Json
