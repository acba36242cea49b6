import CaseLabel.Argument.Scalar

/-!
# Arguments of a test case

An argument is one of six forms, nested through lists. An object is known by its description only,
and may have none; `undescribed` counts such objects at any depth. The forms are those of `Argument`
in the interface, with `scalar` and `scalars` for its primitives and their arrays; `same` is the
equality of two values, which floats make different from identity.
-/

namespace CaseLabel

inductive Argument where
  | null
  | text (text : String)
  | scalar (scalar : Scalar)
  /-- Scalars of one kind. -/
  | scalars (array : ScalarArray)
  /-- Arguments of any form. -/
  | list (items : List Argument)
  | object (description : Option String)

namespace Argument

def isNull : Argument → Bool
  | .null => true
  | _ => false

mutual

/-- Equality of values: the forms agree, and scalars are compared as values of their kind. -/
def same : Argument → Argument → Bool
  | .null, .null => true
  | .text a, .text b => a == b
  | .scalar a, .scalar b => a.same b
  | .scalars a, .scalars b => a.same b
  | .list as, .list bs => allSame as bs
  | .object a, .object b => a == b
  | _, _ => false

/-- Whether two lists of arguments agree one by one. -/
def allSame : List Argument → List Argument → Bool
  | [], [] => true
  | a :: as, b :: bs => same a b && allSame as bs
  | _, _ => false

end

mutual

/-- The objects without a description in an argument. -/
def undescribed : Argument → Nat
  | .list items => undescribedAll items
  | .object none => 1
  | _ => 0

/-- The objects without a description in a list of arguments. -/
def undescribedAll : List Argument → Nat
  | [] => 0
  | item :: rest => undescribed item + undescribedAll rest

end

end Argument

end CaseLabel
