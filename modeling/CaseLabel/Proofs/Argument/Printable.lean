import CaseLabel.Argument.Basic
import CaseLabel.Proofs.Decimal.FloatText
import CaseLabel.Proofs.Text.Printable

/-!
# Printable text of scalars

Numerals, floats and booleans are written with graphic ASCII characters only. A scalar of the
kind of characters is any character, and an array writes it as it is. Main statements:

* the text of a scalar that is no character is printable (`printable_chars`);
* the text of an array is printable unless it is an array of characters that holds one that is
  not (`printable_chars_iff`).

`HoldsRawChar` says that such an array occurs in an argument, at any depth (`Occurs`).
-/

namespace CaseLabel

open Text (Printable isPrintable printable_of_isGraphic)

namespace Numeral

theorem isPrintable_of_isDigit {c : Char} (digit : c.isDigit = true) : isPrintable c = true := by
  have bounds := Char.isDigit_iff_toNat.mp digit
  simp only [Char.reduceToNat] at bounds
  exact Text.isPrintable_of_isGraphic (Text.isGraphic_iff.mpr ⟨by omega, by omega⟩)

theorem printable_ofNat (n : Nat) : Printable (ofNat n) :=
  fun _ member => isPrintable_of_isDigit (isDigit_of_mem_ofNat member)

theorem printable_ofInt (n : Int) : Printable (ofInt n) := by
  intro c member
  rcases eq_minus_or_isDigit_of_mem_ofInt member with rfl | digit
  · simp
  · exact isPrintable_of_isDigit digit

end Numeral

namespace Layout

theorem isPrintable_of_isDecimalChar {c : Char} (h : IsDecimalChar c) : isPrintable c = true := by
  rcases h with digit | sign
  · exact Numeral.isPrintable_of_isDigit digit
  · have graphic : signs.all Text.isGraphic = true := by decide
    exact printable_of_isGraphic graphic c sign

theorem printable_magnitude (layout : Layout) (format : Binary) (magnitude : Nat) :
    Printable (layout.magnitude format magnitude) := by
  by_cases infinite : magnitude = format.infinity
  · unfold Layout.magnitude
    rw [if_pos infinite]
    split
    · simp
    · simp
  · exact fun c member => isPrintable_of_isDecimalChar
      (layout.isDecimalChar_of_mem_magnitude infinite c member)

/-- The text of a float is printable in every layout. -/
theorem printable_float (layout : Layout) {format : Binary} (bits : format.Bits) :
    Printable (layout.chars bits) := by
  have text := layout.printable_magnitude format (Binary.magnitude bits)
  unfold chars
  split
  · simp
  · dsimp only
    split
    · simp [text]
    · exact text

end Layout

namespace Scalar

/-- Only a character may have a text that is not printable. -/
theorem printable_chars {scalar : Scalar} (h : scalar.kind ≠ .char) : Printable scalar.chars := by
  obtain ⟨kind, value⟩ := scalar
  cases kind with
  | bool =>
    cases value with
    | true => simp [chars]
    | false => simp [chars]
  | char => exact absurd rfl h
  | whole kind => exact Numeral.printable_ofInt value.val
  | float format => exact floatLayout.printable_float value

end Scalar

namespace ScalarArray

/-- What holds of brackets, commas and spaces holds of the text of an array exactly if it holds of
the texts of the elements. -/
theorem forall_mem_chars {p : Char → Prop} (punctuation : ∀ c ∈ ['[', ',', ' ', ']'], p c)
    (array : ScalarArray) :
    (∀ c ∈ array.chars, p c) ↔ ∀ scalar ∈ array.scalars, ∀ c ∈ scalar.chars, p c := by
  have separator : ∀ c ∈ [',', ' '], p c := by simp [punctuation]
  rw [chars, List.cons_append, List.forall_mem_cons, List.forall_mem_append,
    Text.forall_mem_intercalate separator]
  simp [punctuation]

theorem printable_chars_iff_scalars (array : ScalarArray) :
    Printable array.chars ↔ ∀ scalar ∈ array.scalars, Printable scalar.chars :=
  forall_mem_chars (by simp) array

/-- The text of an array is printable unless its elements are characters and one of them is not. -/
theorem printable_chars_iff (array : ScalarArray) :
    Printable array.chars ↔ ∀ cs : List Char, array = ⟨.char, cs⟩ → Printable cs := by
  rw [printable_chars_iff_scalars]
  obtain ⟨kind, items⟩ := array
  by_cases isChar : kind = .char
  · subst isChar
    constructor
    · rintro elements cs ⟨⟩ c member
      have alone := elements ⟨.char, c⟩ (List.mem_map_of_mem member)
      exact alone c (List.mem_singleton.mpr rfl)
    · intro h scalar member
      obtain ⟨c, inItems, rfl⟩ := List.mem_map.mp member
      have printable := h items rfl c inItems
      simp [Scalar.chars, printable]
  · constructor
    · rintro - cs ⟨⟩
      exact absurd rfl isChar
    · intro _ scalar member
      obtain ⟨value, -, rfl⟩ := List.mem_map.mp member
      exact Scalar.printable_chars isChar

end ScalarArray

namespace Argument

/-- The first argument is the second, or an item in it at any depth. -/
inductive Occurs : Argument → Argument → Prop
  | self (argument : Argument) : Occurs argument argument
  | inList {argument item : Argument} {items : List Argument} :
      item ∈ items → Occurs argument item → Occurs argument (.list items)

/-- An array of characters occurs in the argument and holds one that is not printable. -/
def HoldsRawChar (argument : Argument) : Prop :=
  ∃ cs : List Char, Occurs (.scalars ⟨.char, cs⟩) argument ∧ ∃ c ∈ cs, isPrintable c = false

/-- What occurs in an argument that is no list is the argument. -/
theorem Occurs.eq_of_not_list {a b : Argument} (h : Occurs a b)
    (notList : ∀ items, b ≠ .list items) : a = b := by
  cases h with
  | self => rfl
  | inList => exact absurd rfl (notList _)

theorem holdsRawChar_list {items : List Argument} :
    HoldsRawChar (.list items) ↔ ∃ item ∈ items, item.HoldsRawChar := by
  constructor
  · rintro ⟨cs, occurs, raw⟩
    cases occurs with
    | inList member deeper => exact ⟨_, member, cs, deeper, raw⟩
  · rintro ⟨item, member, cs, deeper, raw⟩
    exact ⟨cs, .inList member deeper, raw⟩

theorem holdsRawChar_scalars {array : ScalarArray} :
    HoldsRawChar (.scalars array) ↔ ¬ Printable array.chars := by
  rw [ScalarArray.printable_chars_iff]
  constructor
  · rintro ⟨cs, occurs, raw⟩ printable
    have same := occurs.eq_of_not_list (by simp)
    injection same with same
    exact Text.not_printable_iff.mpr raw (printable cs same.symm)
  · intro h
    simp only [Classical.not_forall] at h
    obtain ⟨cs, rfl, raw⟩ := h
    exact ⟨cs, .self _, Text.not_printable_iff.mp raw⟩

/-- What is neither a list nor an array of scalars holds no character as it is. -/
theorem not_holdsRawChar {argument : Argument} (notList : ∀ items, argument ≠ .list items)
    (notScalars : ∀ array, argument ≠ .scalars array) : ¬ argument.HoldsRawChar := by
  rintro ⟨cs, occurs, -⟩
  exact notScalars _ (occurs.eq_of_not_list notList).symm

end Argument

end CaseLabel
