import CaseLabel.Decimal.Layout

/-!
# What the text of a float shows

A finite value other than zero is written positionally or with an exponent, as the exponent of its
first digit decides. So not every float shows a fraction: a single digit with an exponent has none.
Main statements, for every layout and both formats:

* the text of a decimal shows an exponent exactly if it is not positional
  (`exponent_mem_decimal_iff`), and a point exactly if it is or there are several digits
  (`point_mem_decimal_iff`);
* the text of a float shows a point, an exponent or a letter of the words for what is infinite or no
  number (`exists_mark_mem_chars`), and a numeral shows none of them (`mark_not_mem_ofInt`).
-/

namespace CaseLabel

theorem Decimal.isDigit_of_mem_significant {x : Decimal} {c : Char} (h : c ∈ x.significant) :
    c.isDigit = true :=
  Numeral.isDigit_of_mem_ofNat (x.significant_subset h)

namespace Layout

/-- What the text of a finite value may hold besides digits. -/
def signs : List Char := ['-', '+', '.', 'e']

def IsDecimalChar (c : Char) : Prop := c.isDigit = true ∨ c ∈ signs

instance : DecidablePred IsDecimalChar := fun c =>
  inferInstanceAs (Decidable (c.isDigit = true ∨ c ∈ signs))

section Characters

theorem isDecimalChar_of_mem_ofInt (n : Int) : ∀ c ∈ Numeral.ofInt n, IsDecimalChar c := by
  intro c member
  rcases Numeral.eq_minus_or_isDigit_of_mem_ofInt member with rfl | digit
  · exact .inr (by decide)
  · exact .inl digit

variable {digits : List Char}

theorem isDecimalChar_of_mem_positional (all : ∀ c ∈ digits, IsDecimalChar c) (leading : Int) :
    ∀ c ∈ positional digits leading, IsDecimalChar c := by
  have front (places : Nat) : ∀ c ∈ digits.take places, IsDecimalChar c :=
    fun c member => all c (List.mem_of_mem_take member)
  have back (places : Nat) : ∀ c ∈ digits.drop places, IsDecimalChar c :=
    fun c member => all c (List.mem_of_mem_drop member)
  have zero : IsDecimalChar '0' := by decide
  have point : IsDecimalChar '.' := by decide
  unfold positional
  split
  · simpa [or_imp, forall_and, zero, point] using all
  · dsimp only
    split
    · simpa [or_imp, forall_and, zero, point] using front _
    · simpa [or_imp, forall_and, zero, point] using And.intro (front _) (back _)

variable (layout : Layout)

theorem isDecimalChar_of_mem_exponent (leading : Int) :
    ∀ c ∈ layout.exponent leading, IsDecimalChar c := by
  unfold exponent
  split
  · exact List.forall_mem_cons.mpr ⟨by decide, isDecimalChar_of_mem_ofInt leading⟩
  · exact isDecimalChar_of_mem_ofInt leading

theorem isDecimalChar_of_mem_scientific (all : ∀ c ∈ digits, IsDecimalChar c) (leading : Int) :
    ∀ c ∈ layout.scientific digits leading, IsDecimalChar c := by
  have front : ∀ c ∈ digits.take 1, IsDecimalChar c :=
    fun c member => all c (List.mem_of_mem_take member)
  have back : ∀ c ∈ digits.tail, IsDecimalChar c :=
    fun c member => all c (List.mem_of_mem_tail member)
  have point : IsDecimalChar '.' := by decide
  have letter : IsDecimalChar 'e' := by decide
  have exponent := layout.isDecimalChar_of_mem_exponent leading
  unfold scientific
  dsimp only
  split
  · simpa [or_imp, forall_and, letter] using And.intro front exponent
  · simpa [or_imp, forall_and, letter, point] using And.intro front ⟨back, exponent⟩

theorem isDecimalChar_of_mem_decimal (x : Decimal) : ∀ c ∈ layout.decimal x, IsDecimalChar c := by
  have digits : ∀ c ∈ x.significant, IsDecimalChar c :=
    fun _ member => .inl (Decimal.isDigit_of_mem_significant member)
  unfold decimal
  dsimp only
  split
  · exact isDecimalChar_of_mem_positional digits x.leading
  · exact layout.isDecimalChar_of_mem_scientific digits x.leading

theorem isDecimalChar_of_mem_magnitude {format : Binary} {magnitude : Nat}
    (finite : magnitude ≠ format.infinity) :
    ∀ c ∈ layout.magnitude format magnitude, IsDecimalChar c := by
  unfold Layout.magnitude
  rw [if_neg finite]
  split
  · simp [IsDecimalChar, signs]
  · exact layout.isDecimalChar_of_mem_decimal _

theorem isDecimalChar_of_mem_chars {format : Binary} {bits : format.Bits}
    (finite : Binary.isFinite bits = true) : ∀ c ∈ layout.chars bits, IsDecimalChar c := by
  have below : Binary.magnitude bits < format.infinity := of_decide_eq_true finite
  have isNumber : ¬ Binary.isNaN bits = true := by simpa [Binary.isNaN] using Nat.le_of_lt below
  have text := layout.isDecimalChar_of_mem_magnitude (Nat.ne_of_lt below)
  unfold chars
  rw [if_neg isNumber]
  dsimp only
  split
  · exact List.forall_mem_cons.mpr ⟨by decide, text⟩
  · exact text

end Characters

variable {digits : List Char}

theorem not_mem_digits (all : ∀ c ∈ digits, c.isDigit = true) {c : Char}
    (other : c.isDigit = false) : c ∉ digits := by
  intro member
  rw [all c member] at other
  cases other

theorem point_mem_positional (digits : List Char) (leading : Int) :
    '.' ∈ positional digits leading := by
  unfold positional
  split
  · simp
  · simp

theorem exponent_not_mem_positional (all : ∀ c ∈ digits, c.isDigit = true) (leading : Int) :
    'e' ∉ positional digits leading := by
  have absent : 'e' ∉ digits := not_mem_digits all (by decide)
  unfold positional
  dsimp only
  split
  · simp [absent]
  · have front : 'e' ∉ digits.take (leading.toNat + 1) :=
      fun member => absent (List.mem_of_mem_take member)
    have back : 'e' ∉ digits.drop (leading.toNat + 1) :=
      fun member => absent (List.mem_of_mem_drop member)
    split
    · simp [front]
    · simp [front, back]

variable (layout : Layout)

theorem point_not_mem_exponent (leading : Int) : '.' ∉ layout.exponent leading := by
  unfold exponent
  split
  · simp [Numeral.dot_not_mem_ofInt]
  · exact Numeral.dot_not_mem_ofInt leading

theorem exponent_mem_scientific (digits : List Char) (leading : Int) :
    'e' ∈ layout.scientific digits leading := by
  simp [scientific]

/-- The point stands between digits, so it needs two of them. -/
theorem point_mem_scientific_iff (all : ∀ c ∈ digits, c.isDigit = true) (leading : Int) :
    '.' ∈ layout.scientific digits leading ↔ 1 < digits.length := by
  have exponent := layout.point_not_mem_exponent leading
  have absent : '.' ∉ digits := not_mem_digits all (by decide)
  cases digits with
  | nil => simp [scientific, exponent]
  | cons first fraction =>
    have notFirst : '.' ≠ first := List.ne_of_not_mem_cons absent
    cases fraction with
    | nil => simp [scientific, exponent, notFirst]
    | cons second rest => simp [scientific]

/-- The exponent of the first digit is one for which the layout is positional. -/
def IsPositional (layout : Layout) (x : Decimal) : Prop :=
  layout.least ≤ x.leading ∧ x.leading ≤ layout.greatest

variable {x : Decimal}

theorem decimal_of_isPositional (h : layout.IsPositional x) :
    layout.decimal x = positional x.significant x.leading := by
  rw [decimal, if_pos]
  simpa [IsPositional] using h

theorem decimal_of_not_isPositional (h : ¬ layout.IsPositional x) :
    layout.decimal x = layout.scientific x.significant x.leading := by
  rw [decimal, if_neg]
  simpa [IsPositional] using h

theorem exponent_mem_decimal_iff : 'e' ∈ layout.decimal x ↔ ¬ layout.IsPositional x := by
  by_cases h : layout.IsPositional x
  · rw [layout.decimal_of_isPositional h]
    have absent := exponent_not_mem_positional
      (fun c => Decimal.isDigit_of_mem_significant (x := x)) x.leading
    simp [absent, h]
  · rw [layout.decimal_of_not_isPositional h]
    simp [exponent_mem_scientific, h]

/-- Only a single digit with an exponent is written without a fraction. -/
theorem point_mem_decimal_iff :
    '.' ∈ layout.decimal x ↔ layout.IsPositional x ∨ 1 < x.significant.length := by
  by_cases h : layout.IsPositional x
  · rw [layout.decimal_of_isPositional h]
    simp [point_mem_positional, h]
  · rw [layout.decimal_of_not_isPositional h, layout.point_mem_scientific_iff]
    · simp [h]
    · exact fun c => Decimal.isDigit_of_mem_significant

/-- What only the text of a float shows: a point, an exponent, and a letter of either word. -/
def marks : List Char := ['.', 'e', 'n', 'N']

theorem exists_mark_mem_decimal (x : Decimal) : ∃ mark ∈ marks, mark ∈ layout.decimal x := by
  by_cases h : layout.IsPositional x
  · exact ⟨'.', by decide, layout.point_mem_decimal_iff.mpr (.inl h)⟩
  · exact ⟨'e', by decide, layout.exponent_mem_decimal_iff.mpr h⟩

theorem exists_mark_mem_magnitude (format : Binary) (magnitude : Nat) :
    ∃ mark ∈ marks, mark ∈ layout.magnitude format magnitude := by
  unfold Layout.magnitude
  split
  · exact ⟨'.', by decide, by decide⟩
  · split
    · exact ⟨'n', by decide, by decide⟩
    · exact layout.exists_mark_mem_decimal _

/-- The text of a float shows a mark, whatever its sign. -/
theorem exists_mark_mem_chars {format : Binary} (bits : format.Bits) :
    ∃ mark ∈ marks, mark ∈ layout.chars bits := by
  unfold chars
  split
  · exact ⟨'N', by decide, by decide⟩
  · obtain ⟨mark, isMark, shown⟩ :=
      layout.exists_mark_mem_magnitude format (Binary.magnitude bits)
    refine ⟨mark, isMark, ?_⟩
    dsimp only
    split
    · exact List.mem_cons_of_mem _ shown
    · exact shown

theorem mark_not_mem_ofInt {mark : Char} (h : mark ∈ marks) (n : Int) :
    mark ∉ Numeral.ofInt n := by
  have foreign : ∀ mark ∈ marks, mark ≠ '-' ∧ mark.isDigit = false := by simp [marks]
  exact Numeral.not_mem_ofInt (foreign mark h).1 (foreign mark h).2 n

end Layout

end CaseLabel
