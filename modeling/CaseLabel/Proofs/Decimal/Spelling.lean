import CaseLabel.Decimal.Numeral
import Mathlib.Algebra.Group.Nat.Defs

/-!
# Spelled numerals: the forms of a whole number in text

A spelling is a nonempty run of ASCII digits behind at most one minus sign. It is stated without
the reader and the writer of numerals, which are characterized against it:

* a number is read from a text exactly if the text is a spelling of it (`int?_eq_some_iff`);
* the written form of the number is the spelling itself exactly if the spelling has no
  superfluous zero in front and is no negative zero (`ofInt_value_iff`).
-/

namespace CaseLabel.Numeral

structure Spelling where
  negative : Bool
  digits : List Char
  digits_ne_nil : digits ≠ []
  isDigit_of_mem : ∀ c ∈ digits, c.isDigit = true
  deriving DecidableEq

namespace Spelling

def chars (s : Spelling) : List Char := if s.negative then '-' :: s.digits else s.digits

/-- The number that the digits stand for. -/
def magnitude (s : Spelling) : Nat := Nat.ofDigitChars 10 s.digits 0

def value (s : Spelling) : Int := if s.negative then -(s.magnitude : Int) else s.magnitude

/-- The first of several digits is a zero. -/
def HasSpareZero (s : Spelling) : Prop := s.digits.head? = some '0' ∧ 1 < s.digits.length

def IsNegativeZero (s : Spelling) : Prop := s.negative = true ∧ s.magnitude = 0

instance (s : Spelling) : Decidable s.HasSpareZero := inferInstanceAs (Decidable (_ ∧ _))

instance (s : Spelling) : Decidable s.IsNegativeZero := inferInstanceAs (Decidable (_ ∧ _))

theorem eq_minus_or_isDigit_of_mem {s : Spelling} {c : Char} (h : c ∈ s.chars) :
    c = '-' ∨ c.isDigit = true := by
  unfold chars at h
  split at h
  · rcases List.mem_cons.mp h with minus | digit
    · exact .inl minus
    · exact .inr (s.isDigit_of_mem c digit)
  · exact .inr (s.isDigit_of_mem c h)

theorem dot_not_mem (s : Spelling) : '.' ∉ s.chars := by
  intro h
  have := eq_minus_or_isDigit_of_mem h
  simp at this

theorem minus_not_mem_digits (s : Spelling) : '-' ∉ s.digits := by
  intro h
  have := s.isDigit_of_mem _ h
  simp at this

theorem chars_injective : Function.Injective chars := by
  intro s t same
  have signs : s.negative = t.negative := by
    have mem_iff (u : Spelling) : '-' ∈ u.chars ↔ u.negative = true := by
      unfold chars
      split
      next negative => simp [negative]
      next positive => simp [positive, u.minus_not_mem_digits]
    rw [Bool.eq_iff_iff, ← mem_iff, ← mem_iff, same]
  have digits : s.digits = t.digits := by
    unfold chars at same
    rw [signs] at same
    split at same
    · exact (List.cons.inj same).2
    · exact same
  cases s
  cases t
  simp_all

end Spelling

/-- A run of digits has the value of its digits, and nothing else has one. -/
theorem nat?_eq_some_iff {cs : List Char} {n : Nat} :
    nat? cs = some n ↔
      cs ≠ [] ∧ (∀ c ∈ cs, c.isDigit = true) ∧ Nat.ofDigitChars 10 cs 0 = n := by
  unfold nat?
  split
  next digits =>
    simp only [List.all_eq_true] at digits
    simp only [Option.some.injEq]
    exact ⟨fun value => ⟨digits.1, digits.2, value⟩, fun spelled => spelled.2.2⟩
  next other =>
    simp only [List.all_eq_true] at other
    simp only [reduceCtorEq, false_iff]
    rintro ⟨nonempty, digits, -⟩
    exact other ⟨nonempty, digits⟩

theorem int?_chars (s : Spelling) : int? s.chars = some s.value := by
  have read : nat? s.digits = some s.magnitude :=
    nat?_eq_some_iff.mpr ⟨s.digits_ne_nil, s.isDigit_of_mem, rfl⟩
  by_cases negative : s.negative = true
  · simp [Spelling.chars, Spelling.value, negative, int?, read]
  · have head : s.digits.head? ≠ some '-' := fun h =>
      s.minus_not_mem_digits (List.mem_of_head? h)
    simp [Spelling.chars, Spelling.value, negative, int?_of_head_ne head, read]

theorem exists_spelling_of_int? {cs : List Char} {n : Int} (h : int? cs = some n) :
    ∃ s : Spelling, s.chars = cs ∧ s.value = n := by
  unfold int? at h
  split at h
  next digits =>
    obtain ⟨size, read, rfl⟩ := Option.map_eq_some_iff.mp h
    obtain ⟨nonempty, all, rfl⟩ := nat?_eq_some_iff.mp read
    exact ⟨⟨true, digits, nonempty, all⟩, rfl, rfl⟩
  next =>
    obtain ⟨size, read, rfl⟩ := Option.map_eq_some_iff.mp h
    obtain ⟨nonempty, all, rfl⟩ := nat?_eq_some_iff.mp read
    exact ⟨⟨false, cs, nonempty, all⟩, rfl, rfl⟩

/-- The reader accepts the spellings and gives their values. -/
theorem int?_eq_some_iff {cs : List Char} {n : Int} :
    int? cs = some n ↔ ∃ s : Spelling, s.chars = cs ∧ s.value = n := by
  constructor
  · exact exists_spelling_of_int?
  · rintro ⟨s, rfl, rfl⟩
    exact int?_chars s

theorem exists_digitChar {c : Char} (h : c.isDigit = true) : ∃ d < 10, c = Nat.digitChar d := by
  have bounds := Char.isDigit_iff_toNat.mp h
  simp only [Char.reduceToNat] at bounds
  refine ⟨c.toNat - 48, by omega, Char.toNat_inj.mp ?_⟩
  rw [Nat.toNat_digitChar_of_lt_ten (by omega)]
  omega

theorem digitChar_eq_zero_iff {d : Nat} (small : d < 10) : Nat.digitChar d = '0' ↔ d = 0 := by
  constructor
  · intro h
    have code := Nat.toNat_digitChar_of_lt_ten small
    rw [h] at code
    simp at code
    omega
  · rintro rfl
    rfl

/-- Digits behind a number other than zero are the last digits of the number they lead to. -/
theorem ofNat_ofDigitChars {digits : List Char} (all : ∀ c ∈ digits, c.isDigit = true)
    {start : Nat} (pos : 0 < start) :
    ofNat (Nat.ofDigitChars 10 digits start) = ofNat start ++ digits := by
  induction digits generalizing start with
  | nil => simp
  | cons c rest ih =>
    obtain ⟨d, small, rfl⟩ := exists_digitChar (all c (by simp))
    have behind : ofNat (10 * start + d) = ofNat start ++ [Nat.digitChar d] := by
      rw [ofNat, ← Nat.toDigits_append_toDigits (by decide) pos small,
        Nat.toDigits_of_lt_base small, ofNat]
    rw [Nat.ofDigitChars_cons_digitChar_of_lt_ten small,
      ih (fun c member => all c (by simp [member])) (by omega), behind, List.append_assoc,
      List.singleton_append]

theorem ofDigitChars_lt {digits : List Char} (all : ∀ c ∈ digits, c.isDigit = true) :
    Nat.ofDigitChars 10 digits 0 < 10 ^ digits.length := by
  induction digits with
  | nil => simp
  | cons c rest ih =>
    obtain ⟨d, small, rfl⟩ := exists_digitChar (all c (by simp))
    have later := ih (fun c member => all c (by simp [member]))
    rw [Nat.ofDigitChars_cons_digitChar_of_lt_ten small, Nat.ofDigitChars_eq_ofDigitChars_zero,
      List.length_cons, Nat.pow_succ]
    have scaled : 10 ^ rest.length * (10 * 0 + d) ≤ 10 ^ rest.length * 9 :=
      Nat.mul_le_mul_left _ (by omega)
    omega

namespace Spelling

/-- A spelling starts with a digit, and the others continue its value. -/
theorem exists_digit_cons (s : Spelling) :
    ∃ d rest, d < 10 ∧ s.digits = Nat.digitChar d :: rest ∧ (∀ c ∈ rest, c.isDigit = true) ∧
      s.magnitude = Nat.ofDigitChars 10 rest d := by
  obtain ⟨c, rest, shape⟩ := List.exists_cons_of_ne_nil s.digits_ne_nil
  have all : ∀ x ∈ c :: rest, x.isDigit = true := shape ▸ s.isDigit_of_mem
  obtain ⟨d, small, rfl⟩ := exists_digitChar (all c (by simp))
  refine ⟨d, rest, small, shape, fun x member => all x (by simp [member]), ?_⟩
  rw [magnitude, shape, Nat.ofDigitChars_cons_digitChar_of_lt_ten small, Nat.mul_zero,
    Nat.zero_add]

/-- Behind a spare zero stand enough digits for the whole number. -/
theorem ofNat_magnitude_ne {s : Spelling} (spare : s.HasSpareZero) :
    ofNat s.magnitude ≠ s.digits := by
  obtain ⟨d, rest, small, shape, all, size⟩ := s.exists_digit_cons
  obtain ⟨zero, several⟩ := spare
  rw [shape, List.head?_cons, Option.some.injEq, digitChar_eq_zero_iff small] at zero
  rw [shape, List.length_cons] at several
  subst zero
  intro same
  have short : (ofNat s.magnitude).length ≤ rest.length := by
    rw [size]
    exact (Nat.length_toDigits_le_iff (by decide) (by omega)).mpr (ofDigitChars_lt all)
  rw [same, shape, List.length_cons] at short
  omega

theorem ofNat_magnitude_eq {s : Spelling} (h : ¬ s.HasSpareZero) :
    ofNat s.magnitude = s.digits := by
  obtain ⟨d, rest, small, shape, all, size⟩ := s.exists_digit_cons
  have single : ofNat d = [Nat.digitChar d] := Nat.toDigits_of_lt_base small
  by_cases zero : d = 0
  · subst zero
    have alone : rest = [] := by
      cases rest with
      | nil => rfl
      | cons => exact absurd (by simp [HasSpareZero, shape]) h
    rw [size, shape, alone, Nat.ofDigitChars_nil, single]
  · rw [size, shape, ofNat_ofDigitChars all (by omega), single, List.singleton_append]

/-- The digits are those that a number is written with exactly if they have no spare zero. -/
theorem ofNat_magnitude_iff (s : Spelling) : ofNat s.magnitude = s.digits ↔ ¬ s.HasSpareZero :=
  ⟨fun same spare => ofNat_magnitude_ne spare same, ofNat_magnitude_eq⟩

/-- Writing the value gives the spelling back exactly if it is the canonical one. -/
theorem ofInt_value_iff (s : Spelling) :
    ofInt s.value = s.chars ↔ ¬ s.HasSpareZero ∧ ¬ s.IsNegativeZero := by
  rw [← s.ofNat_magnitude_iff]
  by_cases negative : s.negative = true
  · by_cases zero : s.magnitude = 0
    · have differs : ofInt s.value ≠ s.chars := by
        intro same
        have minus : '-' ∈ ofInt s.value := by simp [same, chars, negative]
        simp [value, zero, negative, ofInt, ofNat] at minus
      simp [differs, IsNegativeZero, negative, zero]
    · have below : s.value < 0 := by
        simp only [value, negative, if_true]
        omega
      have size : s.value.natAbs = s.magnitude := by simp [value, negative]
      simp [ofInt, below, size, chars, negative, IsNegativeZero, zero]
  · have notBelow : ¬ s.value < 0 := by simp [value, negative]
    have size : s.value.natAbs = s.magnitude := by simp [value, negative]
    simp [ofInt, notBelow, size, chars, negative, IsNegativeZero]

end Spelling

end CaseLabel.Numeral
