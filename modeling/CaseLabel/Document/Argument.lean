import CaseLabel.Argument.Basic
import CaseLabel.Document.Basic

/-!
# Documents as arguments

Lists stay lists, so their items keep their forms. An object becomes an object described by its
compact text, and so would a number that cannot be read as a scalar. A number can be read in three
ways: as a signed number, as an unsigned number and as a float. Only whole numbers within the range
can be read in the first two ways, so a float is never taken for a whole number; as a float a whole
number is the value nearest to it. `argument` is the conversion from a JSON value in the interface,
and the three ways of reading a number are `as_i64`, `as_u64` and `as_f64`.
-/

namespace CaseLabel

/-- The signed 64-bit numbers. -/
def WholeKind.signed64 : WholeKind := ⟨true, .bits64⟩

/-- The unsigned 64-bit numbers. -/
def WholeKind.unsigned64 : WholeKind := ⟨false, .bits64⟩

namespace Binary

/-- The magnitude nearest to a natural number; of two equally near ones the even one. -/
def nearestMagnitude (format : Binary) (n : Nat) : Nat :=
  if n = 0 then 0
  else
    let top := n.log2
    let scaled := n <<< (format.fractionBits - top)
    let unit := 1 <<< (top - format.fractionBits)
    let lower := scaled / unit
    let twice := 2 * (scaled % unit)
    let significand := if unit < twice || unit = twice && lower % 2 = 1 then lower + 1 else lower
    -- A significand that has grown to the next power of two carries into the exponent.
    let field := format.bias - 1 + top
    min (field <<< format.fractionBits + significand) format.infinity

/-- The value nearest to a whole number. -/
def nearest (format : Binary) (n : Int) : format.Bits :=
  let magnitude := format.nearestMagnitude n.natAbs
  BitVec.ofNat format.width (if n < 0 then 1 <<< (format.width - 1) + magnitude else magnitude)

end Binary

namespace Document

def signed? : Document → Option (CaseLabel.Whole .signed64)
  | .whole n => CaseLabel.Whole.ofInt? .signed64 n.val
  | _ => none

def unsigned? : Document → Option (CaseLabel.Whole .unsigned64)
  | .whole n => CaseLabel.Whole.ofInt? .unsigned64 n.val
  | _ => none

def float? : Document → Option Binary.binary64.Bits
  | .whole n => some (Binary.binary64.nearest n.val)
  | .float x => some x.bits
  | _ => none

/-- The scalar of the first reading that there is. -/
def scalar? (document : Document) : Option Scalar :=
  (document.signed?.map fun n => ⟨.whole .signed64, n⟩).or <|
    (document.unsigned?.map fun n => ⟨.whole .unsigned64, n⟩).or <|
      document.float?.map fun bits => ⟨.float .binary64, bits⟩

/-- The first reading of a number, or else its text. -/
def numeric (number : Document) : Argument :=
  match number.scalar? with
  | some scalar => .scalar scalar
  | none => .object (some number.text)

mutual

def argument : Document → Argument
  | .null => .null
  | .bool value => .scalar ⟨.bool, value⟩
  | .whole n => numeric (.whole n)
  | .float x => numeric (.float x)
  | .string text => .text text
  | .list items => .list (arguments items)
  | .object members => .object (some (Document.object members).text)

/-- The items of a list as arguments. -/
def arguments : List Document → List Argument
  | [] => []
  | item :: rest => argument item :: arguments rest

end

end Document

end CaseLabel
