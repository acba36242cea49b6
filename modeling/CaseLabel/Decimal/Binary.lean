/-!
# Binary floating point values as bit patterns

A pattern holds a sign, an exponent and a fraction. Without its sign it is a number, the
magnitude, and magnitudes ascend with the values they stand for: zero, the finite values, infinity
and, above it, the patterns that are no number.
-/

namespace CaseLabel

/-- The two interchange formats of 32 and 64 bits. -/
inductive Binary where
  | binary32 | binary64
  deriving DecidableEq, Repr

namespace Binary

def width : Binary → Nat
  | .binary32 => 32
  | .binary64 => 64

def fractionBits : Binary → Nat
  | .binary32 => 23
  | .binary64 => 52

def exponentBits : Binary → Nat
  | .binary32 => 8
  | .binary64 => 11

/-- The exponent field of the values from one to below two. -/
def bias (format : Binary) : Nat := 1 <<< (format.exponentBits - 1) - 1

abbrev Bits (format : Binary) : Type := BitVec format.width

variable {format : Binary}

def isNegative (bits : format.Bits) : Bool := bits.msb

/-- The pattern without its sign. -/
def magnitude (bits : format.Bits) : Nat := (bits.setWidth (format.width - 1)).toNat

/-- The magnitude of infinity: an exponent of ones and an empty fraction. -/
def infinity (format : Binary) : Nat := (1 <<< format.exponentBits - 1) <<< format.fractionBits

def isZero (bits : format.Bits) : Bool := magnitude bits = 0

/-- No number. -/
def isNaN (bits : format.Bits) : Bool := format.infinity < magnitude bits

def isFinite (bits : format.Bits) : Bool := magnitude bits < format.infinity

/-- Equality as numbers: what is no number equals nothing, and the two zeros are equal. -/
def same (a b : format.Bits) : Bool :=
  !isNaN a && !isNaN b && (a == b || isZero a && isZero b)

end Binary

/-- The number `significand · 2 ^ exponent`, seen as a value of a binary format. `narrow` says that
the next smaller value of the format is only half as far away as the next larger one. -/
structure Dyadic where
  significand : Nat
  exponent : Int
  narrow : Bool
  deriving DecidableEq, Repr

/-- The finite value of a magnitude. The lowest exponent serves the patterns with an empty exponent
field, which have no leading one, and the field `1`. -/
def Binary.dyadic (format : Binary) (magnitude : Nat) : Dyadic :=
  let unit := 1 <<< format.fractionBits
  let fraction := magnitude % unit
  let field := magnitude / unit
  let lowest : Int := 1 - format.bias - format.fractionBits
  if field = 0 then ⟨fraction, lowest, false⟩
  else ⟨unit + fraction, lowest + field - 1, fraction = 0 && 1 < field⟩

end CaseLabel
