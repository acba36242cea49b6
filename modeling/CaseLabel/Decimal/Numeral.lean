/-!
# Decimal numerals: written form and reader

`ofInt` writes a whole number without leading zeros and with a minus sign only in front of a
negative value. `int?` reads every nonempty run of ASCII digits, with or without one minus sign
in front, so leading zeros and a negative zero are accepted and lost. The reader is `parse_index` of
the interface without its bounds on the value; the writer is how numbers are shown everywhere.
-/

namespace CaseLabel.Numeral

/-- The digits of a natural number, most significant first. -/
def ofNat (n : Nat) : List Char := Nat.toDigits 10 n

/-- A minus sign stands in front of the digits of a negative number. -/
def ofInt (n : Int) : List Char :=
  if n < 0 then '-' :: ofNat n.natAbs else ofNat n.natAbs

/-- The written form of a natural number as text. -/
def natText (n : Nat) : String := String.ofList (ofNat n)

/-- The written form of a whole number as text. -/
def intText (n : Int) : String := String.ofList (ofInt n)

/-- The value of a nonempty run of ASCII digits; any other text has none. -/
def nat? (cs : List Char) : Option Nat :=
  if cs ≠ [] ∧ cs.all Char.isDigit then some (Nat.ofDigitChars 10 cs 0) else none

/-- The value of a nonempty run of ASCII digits behind at most one minus sign. -/
def int? : List Char → Option Int
  | '-' :: cs => (nat? cs).map fun n : Nat => -(n : Int)
  | cs => (nat? cs).map fun n : Nat => (n : Int)

theorem ofNat_ne_nil (n : Nat) : ofNat n ≠ [] := Nat.toDigits_ne_nil

theorem isDigit_of_mem_ofNat {n : Nat} {c : Char} (h : c ∈ ofNat n) : c.isDigit = true :=
  Nat.isDigit_of_mem_toDigits (by decide) (by decide) h

theorem eq_minus_or_isDigit_of_mem_ofInt {n : Int} {c : Char} (h : c ∈ ofInt n) :
    c = '-' ∨ c.isDigit = true := by
  unfold ofInt at h
  split at h
  · rcases List.mem_cons.mp h with h | h
    · exact .inl h
    · exact .inr (isDigit_of_mem_ofNat h)
  · exact .inr (isDigit_of_mem_ofNat h)

theorem not_mem_ofInt {c : Char} (minus : c ≠ '-') (digit : c.isDigit = false) (n : Int) :
    c ∉ ofInt n := by
  intro h
  rcases eq_minus_or_isDigit_of_mem_ofInt h with same | isDigit
  · exact minus same
  · simp [digit] at isDigit

theorem dot_not_mem_ofInt (n : Int) : '.' ∉ ofInt n := not_mem_ofInt (by decide) (by decide) n

theorem nat?_ofNat (n : Nat) : nat? (ofNat n) = some n := by
  have digits : (ofNat n).all Char.isDigit = true :=
    List.all_eq_true.mpr fun _ h => isDigit_of_mem_ofNat h
  simp only [nat?, ofNat_ne_nil, digits, ne_eq, not_false_eq_true, and_self, ↓reduceIte]
  exact congrArg some Nat.ofDigitChars_ten_toDigits

theorem int?_of_head_ne {cs : List Char} (h : cs.head? ≠ some '-') :
    int? cs = (nat? cs).map fun n : Nat => (n : Int) := by
  unfold int?
  split
  · simp at h
  · rfl

/-- Reading a written number gives it back. -/
theorem int?_ofInt (n : Int) : int? (ofInt n) = some n := by
  unfold ofInt
  split
  · simp only [int?, nat?_ofNat, Option.map_some, Option.some.injEq]
    omega
  · have head : (ofNat n.natAbs).head? ≠ some '-' := by
      intro h
      have := isDigit_of_mem_ofNat (List.mem_of_head? h)
      simp at this
    rw [int?_of_head_ne head, nat?_ofNat, Option.map_some, Option.some.injEq]
    omega

theorem ofInt_injective : Function.Injective ofInt := by
  intro m n same
  have read := int?_ofInt m
  rw [same, int?_ofInt n] at read
  exact (Option.some.inj read).symm

end CaseLabel.Numeral
