import CaseLabel.Proofs.Argument.Decoding
import CaseLabel.Proofs.Decimal.FloatText

/-!
# Floats apart from whole numbers

The text of a float shows a mark: a point, an exponent, or a letter of a word. No numeral shows one,
and an array adds only brackets, commas and spaces, so it shows a mark exactly if one of its
elements does (`mark_mem_chars_iff`). Main statements:

* an array of floats and an array of whole numbers have the same text only if both are empty
  (`text_floats_eq_wholes_iff`);
* a float and a whole number have different texts, and different descriptions in every style
  (`floats_apart_from_wholes`).
-/

namespace CaseLabel

variable {format : Binary} {kind : WholeKind}

theorem Scalar.exists_mark_mem_float (bits : format.Bits) :
    ∃ mark ∈ Layout.marks, mark ∈ chars ⟨.float format, bits⟩ :=
  floatLayout.exists_mark_mem_chars bits

theorem Scalar.text_float_ne_whole (bits : format.Bits) (n : Whole kind) :
    text ⟨.float format, bits⟩ ≠ text ⟨.whole kind, n⟩ := by
  intro same
  obtain ⟨mark, isMark, shown⟩ := exists_mark_mem_float bits
  rw [String.ofList_injective same] at shown
  exact Layout.mark_not_mem_ofInt isMark n.val shown

namespace ScalarArray

/-- An array shows a mark exactly if one of its elements does. -/
theorem mark_mem_chars_iff {mark : Char} (isMark : mark ∈ Layout.marks) (array : ScalarArray) :
    mark ∈ array.chars ↔ ∃ scalar ∈ array.scalars, mark ∈ scalar.chars := by
  have punctuation : ∀ mark ∈ Layout.marks, ∀ c ∈ ['[', ',', ' ', ']'], mark ≠ c := by
    simp [Layout.marks]
  have absent : mark ∉ array.chars ↔ ∀ scalar ∈ array.scalars, mark ∉ scalar.chars := by
    simpa only [ne_eq, List.forall_mem_ne] using forall_mem_chars (punctuation mark isMark) array
  simpa using not_congr absent

theorem mark_not_mem_wholes {mark : Char} (isMark : mark ∈ Layout.marks)
    (wholes : List (Whole kind)) : mark ∉ chars ⟨.whole kind, wholes⟩ := by
  intro shown
  obtain ⟨scalar, member, shown⟩ := (mark_mem_chars_iff isMark _).mp shown
  obtain ⟨n, -, rfl⟩ := List.mem_map.mp member
  exact Layout.mark_not_mem_ofInt isMark n.val shown

theorem exists_mark_mem_floats {floats : List format.Bits} (h : floats ≠ []) :
    ∃ mark ∈ Layout.marks, mark ∈ chars ⟨.float format, floats⟩ := by
  obtain ⟨bits, member⟩ := List.exists_mem_of_ne_nil floats h
  obtain ⟨mark, isMark, shown⟩ := Scalar.exists_mark_mem_float bits
  exact ⟨mark, isMark,
    (mark_mem_chars_iff isMark _).mpr ⟨_, List.mem_map_of_mem member, shown⟩⟩

/-- Only arrays without elements are written alike. -/
theorem text_floats_eq_wholes_iff (floats : List format.Bits) (wholes : List (Whole kind)) :
    text ⟨.float format, floats⟩ = text ⟨.whole kind, wholes⟩ ↔ floats = [] ∧ wholes = [] := by
  constructor
  · intro same
    by_cases empty : floats = []
    · subst empty
      -- Without elements no kind shows, so this is a matter of whole numbers alone.
      have unwritten : text ⟨.whole kind, []⟩ = text ⟨.whole kind, wholes⟩ := same
      have noValues := (text_wholes_eq_iff [] wholes).mp unwritten
      exact ⟨rfl, List.map_eq_nil_iff.mp noValues.symm⟩
    · obtain ⟨mark, isMark, shown⟩ := exists_mark_mem_floats empty
      rw [String.ofList_injective same] at shown
      exact absurd shown (mark_not_mem_wholes isMark wholes)
  · rintro ⟨rfl, rfl⟩
    rfl

end ScalarArray

namespace Style

/-- Every float, be it zero, infinite or no number, has another text than every whole number of
every kind, and another description in every style; and an array of floats has another text than an
array of whole numbers unless both are empty. -/
theorem floats_apart_from_wholes (format : Binary) (kind : WholeKind) :
    (∀ (bits : format.Bits) (n : Whole kind),
      Scalar.text ⟨.float format, bits⟩ ≠ Scalar.text ⟨.whole kind, n⟩ ∧
      ∀ style : Style, (style.describe (.scalar ⟨.float format, bits⟩)).value ≠
        (style.describe (.scalar ⟨.whole kind, n⟩)).value) ∧
    ∀ (floats : List format.Bits) (wholes : List (Whole kind)),
      ScalarArray.text ⟨.float format, floats⟩ = ScalarArray.text ⟨.whole kind, wholes⟩ ↔
        floats = [] ∧ wholes = [] := by
  refine ⟨fun bits n => ⟨Scalar.text_float_ne_whole bits n, ?_⟩,
    ScalarArray.text_floats_eq_wholes_iff⟩
  intro style
  rw [describe_eq, describe_eq, style.textOf_scalar (by simp), style.textOf_scalar (by simp)]
  exact Scalar.text_float_ne_whole bits n

/-- Below ten to the power of sixteen it is the fraction that tells a float from a whole number, from
there on the exponent, with a fraction or without. -/
example :
    Scalar.text ⟨.float .binary64, 0x4341C37937E07FFF#64⟩ = "9999999999999998.0" ∧
      Scalar.text ⟨.float .binary64, 0x4341C37937E08000#64⟩ = "1e16" ∧
      Scalar.text ⟨.float .binary64, 0x4341C37937E08001#64⟩ = "1.0000000000000002e16" := by
  decide +kernel

end Style

end CaseLabel
