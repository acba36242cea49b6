import CaseLabel.Decimal.Numeral

/-!
# Subscripts: one position or an inclusive range of positions

A position counts from the front when it is not negative and from the back when it is: `-1` is
the last one. Both ends of a range belong to it. These are `Subscript` of the interface with its
`bounds`.

Where a subscript or a placeholder fails, the failure is a cause with the text it concerns, and
`message` words it for a reader: `Failure` is `PlaceholderError`, `RangeFault` is `RangeErrorInfo`.
-/

namespace CaseLabel

/-- A position within the signed 64-bit range. -/
structure Position where
  val : Int
  min_le : -0x8000_0000_0000_0000 ≤ val
  lt_max : val < 0x8000_0000_0000_0000
  deriving Repr

/-- A whole number is a position exactly when it lies in the signed 64-bit range. -/
def Position.ofInt? (n : Int) : Option Position :=
  if h : -0x8000_0000_0000_0000 ≤ n ∧ n < 0x8000_0000_0000_0000 then some ⟨n, h.1, h.2⟩ else none

namespace Position

@[ext] theorem ext {p q : Position} (val : p.val = q.val) : p = q := by
  cases p
  cases q
  cases val
  rfl

instance : DecidableEq Position := fun p q =>
  decidable_of_iff (p.val = q.val) ⟨ext, congrArg Position.val⟩

theorem ofInt?_val (p : Position) : ofInt? p.val = some p := by
  rw [ofInt?, dif_pos ⟨p.min_le, p.lt_max⟩]

theorem ofInt?_eq_some_iff {n : Int} {p : Position} : ofInt? n = some p ↔ p.val = n := by
  constructor
  · intro h
    unfold ofInt? at h
    split at h
    · cases h
      rfl
    · cases h
  · intro h
    rw [← h, ofInt?_val]

end Position

inductive Subscript where
  | single (position : Position)
  | range (first last : Position)
  deriving DecidableEq, Repr

namespace Subscript

/-- The first selected position. -/
def first : Subscript → Position
  | .single p => p
  | .range p _ => p

/-- The last selected position, which is selected too. -/
def last : Subscript → Position
  | .single p => p
  | .range _ p => p

end Subscript

/-- A subscript whose bounds do not fit a list of `count` arguments. The bounds are those of the
half-open span it asks for, so they may be negative or exceed the list. -/
structure RangeFault where
  subscript : String
  start : Int
  stop : Int
  count : Nat
  deriving DecidableEq, Repr

def RangeFault.message (fault : RangeFault) : String :=
  "subscript `" ++ fault.subscript ++ "` resolves to " ++ Numeral.intText fault.start ++ ".." ++
    Numeral.intText fault.stop ++ ", outside of " ++ Numeral.natText fault.count ++ " argument(s)"

inductive Failure where
  /-- The text is no subscript, or an end of it leaves the range of positions. -/
  | malformedSubscript (text : String)
  | outOfRange (fault : RangeFault)
  /-- The text is not exactly one placeholder. -/
  | notPlaceholder (text : String)
  deriving DecidableEq, Repr

def Failure.message : Failure → String
  | .malformedSubscript text =>
    "malformed subscript `" ++ text ++ "`, expected `<int>` or `<int>..<int>`"
  | .outOfRange fault => fault.message
  | .notPlaceholder text => "`" ++ text ++ "` is not an argument placeholder"

end CaseLabel
