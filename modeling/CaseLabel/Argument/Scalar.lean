import CaseLabel.Decimal.Layout

/-!
# Scalars: the values of sixteen kinds, alone and in arrays

Each kind has its own values and its own text. Two scalars of different kinds are never the same,
whatever their text, and neither are two arrays, even empty ones. A `Scalar` is a `Primitive` of the
interface, a `Kind` its `PrimitiveKind`, a `ScalarArray` a `PrimitiveArray`; `ScalarArray.text` is
`render_list`, and `Scalar.text` the `render` of each kind, `floatLayout` being how floats are rendered.
-/

namespace CaseLabel

/-- The size of a whole number. A machine word has 64 bits but is a kind of its own. -/
inductive Size where
  | bits8 | bits16 | bits32 | bits64 | bits128 | word
  deriving DecidableEq, Repr

namespace Size

def bits : Size → Nat
  | .bits8 => 8
  | .bits16 => 16
  | .bits32 => 32
  | .bits64 => 64
  | .bits128 => 128
  | .word => 64

def name : Size → String
  | .bits8 => "8"
  | .bits16 => "16"
  | .bits32 => "32"
  | .bits64 => "64"
  | .bits128 => "128"
  | .word => "size"

end Size

/-- A kind of whole numbers. -/
structure WholeKind where
  signed : Bool
  size : Size
  deriving DecidableEq, Repr

namespace WholeKind

/-- How many numbers of the kind are not negative. -/
def nonnegatives (kind : WholeKind) : Nat :=
  1 <<< if kind.signed then kind.size.bits - 1 else kind.size.bits

def least (kind : WholeKind) : Int := if kind.signed then -kind.nonnegatives else 0

def greatest (kind : WholeKind) : Int := kind.nonnegatives - 1

def name (kind : WholeKind) : String := (if kind.signed then "i" else "u") ++ kind.size.name

end WholeKind

/-- A whole number within the bounds of its kind. -/
structure Whole (kind : WholeKind) where
  val : Int
  least_le : kind.least ≤ val
  le_greatest : val ≤ kind.greatest
  deriving DecidableEq, Repr

def Whole.ofInt? (kind : WholeKind) (n : Int) : Option (Whole kind) :=
  if h : kind.least ≤ n ∧ n ≤ kind.greatest then some ⟨n, h.1, h.2⟩ else none

inductive Kind where
  | bool
  | char
  | whole (kind : WholeKind)
  | float (format : Binary)
  deriving DecidableEq, Repr

namespace Kind

def name : Kind → String
  | .bool => "bool"
  | .char => "char"
  | .whole kind => kind.name
  | .float .binary32 => "f32"
  | .float .binary64 => "f64"

/-- The values of a kind. A float is its bit pattern. -/
abbrev Value : Kind → Type
  | .bool => Bool
  | .char => Char
  | .whole kind => Whole kind
  | .float format => format.Bits

end Kind

structure Scalar where
  kind : Kind
  value : kind.Value

namespace Scalar

/-- Floats in names have the fewest digits that read back, positionally from `0.0001` to below
`10 ^ 16`; of two equally near decimals the larger is taken. -/
def floatLayout : Layout := ⟨-4, 15, false, .larger⟩

def chars : Scalar → List Char
  | ⟨.bool, true⟩ => ['t', 'r', 'u', 'e']
  | ⟨.bool, false⟩ => ['f', 'a', 'l', 's', 'e']
  | ⟨.char, c⟩ => [c]
  | ⟨.whole _, n⟩ => Numeral.ofInt n.val
  | ⟨.float _, bits⟩ => floatLayout.chars bits

def text (scalar : Scalar) : String := String.ofList scalar.chars

/-- Equality of values: the kinds agree, and floats are compared as numbers. -/
def same : Scalar → Scalar → Bool
  | ⟨.bool, a⟩, ⟨.bool, b⟩ => a == b
  | ⟨.char, a⟩, ⟨.char, b⟩ => a == b
  | ⟨.whole j, a⟩, ⟨.whole k, b⟩ => j == k && a.val == b.val
  | ⟨.float .binary32, a⟩, ⟨.float .binary32, b⟩ => Binary.same a b
  | ⟨.float .binary64, a⟩, ⟨.float .binary64, b⟩ => Binary.same a b
  | _, _ => false

end Scalar

/-- Scalars of one kind. -/
structure ScalarArray where
  kind : Kind
  items : List kind.Value

namespace ScalarArray

/-- The elements as scalars. -/
def scalars (array : ScalarArray) : List Scalar := array.items.map fun value => ⟨array.kind, value⟩

/-- The texts of the elements between brackets, joined by a comma and a space. -/
def chars (array : ScalarArray) : List Char :=
  '[' :: List.intercalate [',', ' '] (array.scalars.map Scalar.chars) ++ [']']

def text (array : ScalarArray) : String := String.ofList array.chars

/-- Whether two lists of scalars agree one by one. -/
def allSame : List Scalar → List Scalar → Bool
  | [], [] => true
  | a :: as, b :: bs => a.same b && allSame as bs
  | _, _ => false

/-- Equality of arrays: the kinds agree, and the elements one by one. -/
def same (a b : ScalarArray) : Bool := a.kind == b.kind && allSame a.scalars b.scalars

end ScalarArray

end CaseLabel
