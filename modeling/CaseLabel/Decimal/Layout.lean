import CaseLabel.Decimal.Numeral
import CaseLabel.Decimal.Shortest

/-!
# Layout of floating point text

A layout holds the decisions that digits alone leave open: which magnitudes are written
positionally, how an exponent shows its sign and which of two equally near decimals is taken.
Positional text always has a point with a digit on either side; scientific text has a point only
between digits. A negative zero keeps its sign, and what is no number has none. Two layouts are in
use, one for the `render` of a float (`Scalar.floatLayout`) and one for documents
(`Document.floatLayout`).
-/

namespace CaseLabel

structure Layout where
  /-- The least exponent of the first digit that is written positionally. -/
  least : Int
  /-- The greatest exponent of the first digit that is written positionally. -/
  greatest : Int
  /-- Whether an exponent that is not negative carries a plus sign. -/
  plus : Bool
  tie : Tie
  deriving DecidableEq, Repr

/-- The digits of a decimal without the zeros at the end. -/
def Decimal.significant (x : Decimal) : List Char :=
  ((Numeral.ofNat x.digits).reverse.dropWhile (· == '0')).reverse

theorem Decimal.significant_subset (x : Decimal) : x.significant ⊆ Numeral.ofNat x.digits := by
  intro c member
  rw [significant, List.mem_reverse] at member
  exact List.mem_reverse.mp ((List.dropWhile_suffix _).subset member)

/-- The exponent of the first digit. -/
def Decimal.leading (x : Decimal) : Int :=
  x.exponent + (Numeral.ofNat x.digits).length - 1

namespace Layout

/-- Digits with a decimal point, the first digit at `10 ^ leading`. -/
def positional (digits : List Char) (leading : Int) : List Char :=
  if leading < 0 then '0' :: '.' :: List.replicate (-leading - 1).toNat '0' ++ digits
  else
    let places := leading.toNat + 1
    let fraction := digits.drop places
    digits.take places ++ List.replicate (places - digits.length) '0' ++
      '.' :: if fraction.isEmpty then ['0'] else fraction

/-- The exponent of scientific text. -/
def exponent (layout : Layout) (leading : Int) : List Char :=
  if layout.plus && 0 ≤ leading then '+' :: Numeral.ofInt leading else Numeral.ofInt leading

/-- One digit, the others behind a point, and the exponent. -/
def scientific (layout : Layout) (digits : List Char) (leading : Int) : List Char :=
  let fraction := digits.drop 1
  digits.take 1 ++ (if fraction.isEmpty then [] else '.' :: fraction) ++
    'e' :: layout.exponent leading

/-- The text of a decimal that is not zero. -/
def decimal (layout : Layout) (x : Decimal) : List Char :=
  let leading := x.leading
  if layout.least ≤ leading && leading ≤ layout.greatest then positional x.significant leading
  else layout.scientific x.significant leading

/-- The text of a magnitude that is a number. -/
def magnitude (layout : Layout) (format : Binary) (magnitude : Nat) : List Char :=
  if magnitude = 0 then ['0', '.', '0']
  else if magnitude = format.infinity then ['i', 'n', 'f']
  else layout.decimal ((format.dyadic magnitude).interval.shortest layout.tie)

def chars (layout : Layout) {format : Binary} (bits : format.Bits) : List Char :=
  if Binary.isNaN bits then ['N', 'a', 'N']
  else
    let text := layout.magnitude format (Binary.magnitude bits)
    if Binary.isNegative bits then '-' :: text else text

def text (layout : Layout) {format : Binary} (bits : format.Bits) : String :=
  String.ofList (layout.chars bits)

end Layout

end CaseLabel
