import CaseLabel.Decimal.Layout

/-!
# Documents: structured values made of objects, lists and leaves

The whole numbers of a document fit the signed or the unsigned 64-bit range, and its floats are
finite. An object keeps its members as they were inserted, repeated keys included.

The compact text of a document has no spaces; strings stand between double quotes; the members of an
object come in ascending order of their keys, compared by code points, and of the members with one
key the last one counts. Documents are the JSON values from which the interface makes arguments, and
the compact text is the one that such a value shows of itself.
-/

namespace CaseLabel

/-- A whole number from the signed or the unsigned 64-bit range. -/
structure Document.Whole where
  val : Int
  min_le : -0x8000_0000_0000_0000 ≤ val
  lt_max : val < 0x1_0000_0000_0000_0000
  deriving DecidableEq, Repr

def Document.Whole.ofInt? (n : Int) : Option Document.Whole :=
  if h : -0x8000_0000_0000_0000 ≤ n ∧ n < 0x1_0000_0000_0000_0000 then some ⟨n, h.1, h.2⟩ else none

/-- A finite 64-bit float. -/
structure Document.Float where
  bits : Binary.binary64.Bits
  finite : Binary.isFinite bits = true
  deriving DecidableEq, Repr

def Document.Float.ofBits? (bits : Binary.binary64.Bits) : Option Document.Float :=
  if h : Binary.isFinite bits = true then some ⟨bits, h⟩ else none

inductive Document where
  | null
  | bool (value : Bool)
  | whole (value : Document.Whole)
  | float (value : Document.Float)
  | string (value : String)
  | list (items : List Document)
  | object (members : List (String × Document))

/-- Members in ascending order of keys; a member with a key that is there already replaces it. -/
def insertMember {α : Type} (key : String) (value : α) : List (String × α) → List (String × α)
  | [] => [(key, value)]
  | (k, v) :: rest =>
    if key < k then (key, value) :: (k, v) :: rest
    else if key = k then (key, value) :: rest
    else (k, v) :: insertMember key value rest

/-- The members that count, in ascending order of keys. -/
def sortMembers {α : Type} (members : List (String × α)) : List (String × α) :=
  members.foldl (fun sorted member => insertMember member.1 member.2 sorted) []

namespace Document

/-- Floats have the fewest digits that read back, positionally from `0.00001` to below `10 ^ 16`;
of two equally near decimals the even one is taken. -/
def floatLayout : Layout := ⟨-5, 15, true, .even⟩

/-- The escape of a control character by its number. -/
def numbered (c : Char) : List Char :=
  ['\\', 'u', '0', '0', Nat.digitChar (c.toNat / 16), Nat.digitChar (c.toNat % 16)]

/-- What stands for one character in a string. -/
def stringChar : Char → List Char
  | '"' => ['\\', '"']
  | '\\' => ['\\', '\\']
  | '\x08' => ['\\', 'b']
  | '\x0c' => ['\\', 'f']
  | '\n' => ['\\', 'n']
  | '\r' => ['\\', 'r']
  | '\t' => ['\\', 't']
  | c => if c.toNat < 32 then numbered c else [c]

def stringChars (text : String) : List Char :=
  '"' :: text.toList.flatMap stringChar ++ ['"']

/-- A key and the text of its value. -/
def memberChars (member : String × List Char) : List Char :=
  stringChars member.1 ++ ':' :: member.2

mutual

def chars : Document → List Char
  | .null => ['n', 'u', 'l', 'l']
  | .bool true => ['t', 'r', 'u', 'e']
  | .bool false => ['f', 'a', 'l', 's', 'e']
  | .whole n => Numeral.ofInt n.val
  | .float x => floatLayout.chars x.bits
  | .string text => stringChars text
  | .list items => '[' :: List.intercalate [','] (allChars items) ++ [']']
  | .object members =>
    '\x7b' :: List.intercalate [','] ((sortMembers (memberTexts members)).map memberChars) ++
      ['\x7d']

/-- The texts of the items of a list. -/
def allChars : List Document → List (List Char)
  | [] => []
  | item :: rest => chars item :: allChars rest

/-- The members of an object with the texts of their values. -/
def memberTexts : List (String × Document) → List (String × List Char)
  | [] => []
  | (key, value) :: rest => (key, chars value) :: memberTexts rest

end

def text (document : Document) : String := String.ofList document.chars

end Document

end CaseLabel
