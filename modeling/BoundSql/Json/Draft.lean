import BoundSql.Json.Basic

/-!
# Drafts

A draft is a JSON text as far as it can be read: a value in which a fault stands where the text
goes wrong, and after which there is nothing more. What is decoded straight from a text is decoded
from its draft, so that a value of the wrong shape is found before a fault further on; a part of a
draft that is wanted as a plain value is *settled*, and one that nobody asks for is *skipped*.

Skipping is more tolerant than settling: it accepts numbers beyond the largest double, halves of
surrogate pairs and any depth.
-/

namespace BoundSql

open Decimal

/-- What is wrong with a text that is not JSON. -/
inductive Fault where
  /-- the text stops too early -/
  | truncated
  /-- the text goes on in a way that is not JSON -/
  | malformed
deriving DecidableEq

/-- A JSON text as far as it can be read. -/
inductive Draft where
  | null
  | bool (b : Bool)
  /-- a number, or `none` for one beyond the largest double -/
  | num (n? : Option JsonNumber)
  /-- a string, or `none` for one with half of a surrogate pair -/
  | str (s? : Option String)
  /-- an array, and what is wrong after its items -/
  | arr (items : List Draft) (close : Option Fault)
  /-- an object, and what is wrong after its fields; a key is a draft as well, since it may be a
  string that breaks off, or no string at all -/
  | obj (fields : List (Draft × Draft)) (close : Option Fault)
  /-- an array or object inside as many others as may be open at once -/
  | deep (container : Draft)
  /-- the text ends where a value is due -/
  | missing
  /-- something that starts like a value, or does not, and breaks off: whether it starts like a
  string, and what is wrong with it when it is settled and when it is skipped -/
  | torn (quoted : Bool) (settled skipped : Fault)

namespace Draft

/-- How many arrays and objects may be open at once. -/
def maxDepth : Nat := 127

/-- Fails with a fault, if there is one. -/
def check : Option Fault → Except Fault Unit
  | none => .ok ()
  | some f => .error f

/-- The key of a field. -/
def key : Draft → Except Fault String
  | .str (some s) => .ok s
  | .missing => .error .truncated
  | .torn true f _ => .error f
  | _ => .error .malformed

/-- Passes over the key of a field. -/
def skipKey : Draft → Except Fault Unit
  | .str _ => .ok ()
  | .missing => .error .truncated
  | .torn true _ f => .error f
  | _ => .error .malformed

mutual
/-- The value that a draft stands for, or the first fault in it. -/
def settle : Draft → Except Fault Json
  | .null => .ok .null
  | .bool b => .ok (.bool b)
  | .num (some n) => .ok (.num n)
  | .num none => .error .malformed
  | .str (some s) => .ok (.str s)
  | .str none => .error .malformed
  | .arr items close => do
    let items ← settleItems items
    check close
    pure (.arr items)
  | .obj fields close => do
    let fields ← settleFields fields
    check close
    pure (.obj fields)
  | .deep _ => .error .malformed
  | .missing => .error .truncated
  | .torn _ f _ => .error f

/-- The values of the items of an array. -/
def settleItems : List Draft → Except Fault (List Json)
  | [] => .ok []
  | d :: ds => do
    let v ← d.settle
    let vs ← settleItems ds
    pure (v :: vs)

/-- The keys and values of the fields of an object. -/
def settleFields : List (Draft × Draft) → Except Fault (List (String × Json))
  | [] => .ok []
  | (k, d) :: fs => do
    let k ← k.key
    let v ← d.settle
    let fs ← settleFields fs
    pure ((k, v) :: fs)
end

mutual
/-- Passes over a draft, unless there is a fault in it that even this does not accept. -/
def skip : Draft → Except Fault Unit
  | .null | .bool _ | .num _ | .str _ => .ok ()
  | .arr items close => do
    skipItems items
    check close
  | .obj fields close => do
    skipFields fields
    check close
  | .deep d => d.skip
  | .missing => .error .truncated
  | .torn _ _ f => .error f

/-- Passes over the items of an array. -/
def skipItems : List Draft → Except Fault Unit
  | [] => .ok ()
  | d :: ds => do
    d.skip
    skipItems ds

/-- Passes over the fields of an object. -/
def skipFields : List (Draft × Draft) → Except Fault Unit
  | [] => .ok ()
  | (k, d) :: fs => do
    k.skipKey
    d.skip
    skipFields fs
end

end Draft

mutual
/-- The draft without faults that stands for a value. -/
def Json.draft : Json → Draft
  | .null => .null
  | .bool b => .bool b
  | .num n => .num (some n)
  | .str s => .str (some s)
  | .arr items => .arr (Json.draftItems items) none
  | .obj fields => .obj (Json.draftFields fields) none

/-- The drafts of the items of an array. -/
def Json.draftItems : List Json → List Draft
  | [] => []
  | v :: vs => v.draft :: Json.draftItems vs

/-- The drafts of the fields of an object. -/
def Json.draftFields : List (String × Json) → List (Draft × Draft)
  | [] => []
  | (k, v) :: fs => (.str (some k), v.draft) :: Json.draftFields fs
end

mutual
/-- A value is what its draft settles to. -/
theorem Json.settle_draft (j : Json) : j.draft.settle = .ok j := by
  match j with
  | .null | .bool _ | .num _ | .str _ => simp [Json.draft, Draft.settle]
  | .arr items =>
    simp [Json.draft, Draft.settle, Json.settleItems_draftItems items, Draft.check, bind,
      Except.bind, pure, Except.pure]
  | .obj fields =>
    simp [Json.draft, Draft.settle, Json.settleFields_draftFields fields, Draft.check, bind,
      Except.bind, pure, Except.pure]

/-- Items are what their drafts settle to. -/
theorem Json.settleItems_draftItems (items : List Json) :
    Draft.settleItems (Json.draftItems items) = .ok items := by
  match items with
  | [] => simp [Json.draftItems, Draft.settleItems]
  | v :: vs =>
    simp [Json.draftItems, Draft.settleItems, Json.settle_draft v,
      Json.settleItems_draftItems vs, bind, Except.bind, pure, Except.pure]

/-- Fields are what their drafts settle to. -/
theorem Json.settleFields_draftFields (fields : List (String × Json)) :
    Draft.settleFields (Json.draftFields fields) = .ok fields := by
  match fields with
  | [] => simp [Json.draftFields, Draft.settleFields]
  | (k, v) :: fs =>
    simp [Json.draftFields, Draft.settleFields, Draft.key, Json.settle_draft v,
      Json.settleFields_draftFields fs, bind, Except.bind, pure, Except.pure]
end

end BoundSql
