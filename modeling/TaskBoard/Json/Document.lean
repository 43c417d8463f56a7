import TaskBoard.Time.Iso
import TaskBoard.Value

/-! Documents as they are read. Their texts may hold half of a pair of units without the other half. -/

namespace TaskBoard.Json

inductive Piece where
  | char (c : Char)
  | unit (n : Nat)
deriving DecidableEq, Repr

def Piece.char? : Piece → Option Char
  | char c => some c
  | unit _ => none

/-- The text of a document. Units are left in it only where they are halves without the other half. -/
abbrev Script := List Piece

namespace Script

def ofChars (s : List Char) : Script := s.map .char

def ofString (s : String) : Script := ofChars s.toList

def chars? (s : Script) : Option (List Char) := s.mapM Piece.char?

@[simp] theorem chars?_ofChars (s : List Char) : chars? (ofChars s) = some s := by
  induction s with
  | nil => rfl
  | cons c s ih =>
    rw [chars?, ofChars] at ih
    simp [chars?, ofChars, Piece.char?, ih]

end Script

/-- The members of a map keep their order; no key occurs twice. -/
inductive Document where
  | null
  | bool (b : Bool)
  | int (n : Int)
  | float (x : Number.Binary64)
  | text (s : Script)
  | list (items : List Document)
  | map (members : List (Script × Document))
deriving Inhabited

abbrev Members := List (Script × Document)

namespace Document

def text? : Document → Option Script
  | text s => some s
  | _ => none

def members? : Document → Option Members
  | map members => some members
  | _ => none

mutual

def ofValue : Value → Document
  | .null => null
  | .bool b => bool b
  | .int n => int n
  | .float x => float x
  | .text s => text (.ofString s)
  | .time t => text (.ofChars (t.isoChars ' '))
  | .list items => list (ofItems items)
  | .map members => map (ofMembers members)

def ofItems : List Value → List Document
  | [] => []
  | v :: rest => ofValue v :: ofItems rest

def ofMembers : List (String × Value) → Members
  | [] => []
  | (key, v) :: rest => (.ofString key, ofValue v) :: ofMembers rest

end

theorem ofValue_list (items : List Value) : ofValue (.list items) = .list (items.map ofValue) := by
  rw [ofValue]
  congr 1
  induction items with
  | nil => rfl
  | cons v rest ih => rw [ofItems, ih, List.map_cons]

theorem ofMembers_eq_map (members : List (String × Value)) :
    ofMembers members = members.map (Prod.map Script.ofString ofValue) := by
  induction members with
  | nil => rfl
  | cons e rest ih => rw [ofMembers, ih, List.map_cons, Prod.map]

end Document

end TaskBoard.Json
