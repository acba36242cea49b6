import CaseLabel.Proofs.Argument.Printable
import CaseLabel.Proofs.Style.Setting
import CaseLabel.Style.Description

/-!
# Printable descriptions

A style whose four texts are printable makes printable descriptions, with one exception: arrays of
characters are written as they are. Main statements, for such a style:

* the standard style is one, and so is every style that is read from variables
  (`isPrintable_standard`, `isPrintable_of_read`);
* a description is printable unless such an array occurs in the arguments
  (`printable_textOf_iff`, `printable_joined_iff`);
* a description is its own description as text exactly if it is printable and not empty
  (`describe_text_eq_iff`).
-/

namespace CaseLabel

open Text (Printable isPrintable printable_of_isGraphic)

namespace Style

/-- The three marks and the separator are printable. -/
structure IsPrintable (style : Style) : Prop where
  nullMark : Printable style.nullMark.toList
  emptyMark : Printable style.emptyMark.toList
  nonPrintableMark : Printable style.nonPrintableMark.toList
  separator : Printable style.separator.toList

theorem isPrintable_standard : standard.IsPrintable where
  nullMark := Setting.printable_standard .nullMark
  emptyMark := Setting.printable_standard .emptyMark
  nonPrintableMark := Setting.printable_standard .nonPrintableMark
  separator := Setting.printable_standard .separator

variable {style : Style}

theorem isPrintable_iff :
    style.IsPrintable ↔ ∀ setting, Printable (style.textFor setting).toList := by
  constructor
  · intro printable setting
    cases setting with
    | nullMark => exact printable.nullMark
    | emptyMark => exact printable.emptyMark
    | nonPrintableMark => exact printable.nonPrintableMark
    | separator => exact printable.separator
  · intro each
    exact ⟨each .nullMark, each .emptyMark, each .nonPrintableMark, each .separator⟩

/-- A style that is read from variables is printable, and the mark of empty text is not empty. -/
theorem isPrintable_of_read {lookup : String → Option String}
    (h : (read lookup).outcome = .ok style) : style.IsPrintable ∧ style.emptyMark ≠ "" := by
  have each (setting : Setting) := Setting.read_eq_ok (read_eq_ok_iff.mp h setting)
  exact ⟨isPrintable_iff.mpr fun setting => (each setting).2, (each .emptyMark).1 (by decide)⟩

/-- Joined texts are printable exactly if each of them is. -/
theorem printable_intercalate_separator (h : style.IsPrintable) (texts : List String) :
    Printable (style.separator.intercalate texts).toList ↔
      ∀ text ∈ texts, Printable text.toList := by
  rw [String.toList_intercalate, Text.printable_intercalate h.separator]
  simp

/-- Only lists and arrays of scalars can bring in text that is neither a mark nor made visible. -/
theorem printable_textOf (h : style.IsPrintable) {argument : Argument}
    (notList : ∀ items, argument ≠ .list items) (notScalars : ∀ array, argument ≠ .scalars array) :
    Printable (style.textOf argument).toList := by
  cases argument with
  | null => exact h.nullMark
  | text text =>
    rw [textOf]
    split
    · exact h.emptyMark
    · exact Text.printable_visible h.nonPrintableMark text
  | scalar scalar => exact Text.printable_visible h.nonPrintableMark scalar.text
  | scalars array => exact absurd rfl (notScalars array)
  | list items => exact absurd rfl (notList items)
  | object description =>
    cases description with
    | none => exact h.nullMark
    | some description => exact Text.printable_visible h.nonPrintableMark description

/-- A scalar that is no character is described as it is written, whatever the marks are. -/
theorem textOf_scalar (style : Style) {scalar : Scalar} (h : scalar.kind ≠ .char) :
    style.textOf (.scalar scalar) = scalar.text := by
  rw [textOf, Text.visible_of_printable]
  rw [Scalar.text, String.toList_ofList]
  exact Scalar.printable_chars h

theorem printable_textOf_iff_of_leaf (h : style.IsPrintable) {argument : Argument}
    (notList : ∀ items, argument ≠ .list items) (notScalars : ∀ array, argument ≠ .scalars array) :
    Printable (style.textOf argument).toList ↔ ¬ argument.HoldsRawChar :=
  iff_of_true (printable_textOf h notList notScalars)
    (Argument.not_holdsRawChar notList notScalars)

mutual

/-- A description is printable unless the argument holds a character that is written as it is. -/
theorem printable_textOf_iff (h : style.IsPrintable) :
    (argument : Argument) → (Printable (style.textOf argument).toList ↔ ¬ argument.HoldsRawChar)
  | .null => printable_textOf_iff_of_leaf h (by simp) (by simp)
  | .text _ => printable_textOf_iff_of_leaf h (by simp) (by simp)
  | .scalar _ => printable_textOf_iff_of_leaf h (by simp) (by simp)
  | .object _ => printable_textOf_iff_of_leaf h (by simp) (by simp)
  | .scalars array => by
    rw [textOf, Argument.holdsRawChar_scalars, Classical.not_not, ScalarArray.text,
      String.toList_ofList]
  | .list items => by
    have inner := printable_textsOf_iff h items
    rw [← printable_intercalate_separator h] at inner
    rw [textOf, Argument.holdsRawChar_list]
    simp only [String.toList_append, Text.printable_append, inner, not_exists, not_and]
    simp

theorem printable_textsOf_iff (h : style.IsPrintable) :
    (arguments : List Argument) → ((∀ text ∈ style.textsOf arguments, Printable text.toList) ↔
      ∀ argument ∈ arguments, ¬ argument.HoldsRawChar)
  | [] => by simp [textsOf]
  | item :: rest => by
    rw [textsOf, List.forall_mem_cons, List.forall_mem_cons, printable_textOf_iff h item,
      printable_textsOf_iff h rest]

end

theorem printable_joined_iff (h : style.IsPrintable) (arguments : List Argument) :
    Printable (style.joined arguments).toList ↔
      ¬ ∃ argument ∈ arguments, argument.HoldsRawChar := by
  rw [joined, printable_intercalate_separator h, printable_textsOf_iff h]
  simp

/-- Text is its own description exactly if it is printable and not empty. -/
theorem describe_text_eq_iff (h : style.IsPrintable) (mark : style.emptyMark ≠ "")
    {text : String} :
    (style.describe (.text text)).value = text ↔ text ≠ "" ∧ Printable text.toList := by
  rw [describe_eq, textOf]
  by_cases empty : text = ""
  · simp [empty, mark]
  · simp [empty, Text.visible_eq_iff h.nonPrintableMark]

/-- A style whose texts are printable, such as the standard one and every one that is read,
describes arguments printably unless an array of characters, at any depth, holds a character that
is not printable. Under a style that is read, the description is its own description exactly if it
is not empty and there is no such array. -/
theorem describeAll_printable_iff :
    standard.IsPrintable ∧
    (∀ (lookup : String → Option String) (style : Style),
      (read lookup).run.value = .ok style → style.IsPrintable) ∧
    (∀ style : Style, style.IsPrintable → ∀ arguments : List Argument,
      (∃ c ∈ (style.describeAll arguments).value.toList, isPrintable c = false) ↔
        ∃ argument ∈ arguments, argument.HoldsRawChar) ∧
    ∀ (lookup : String → Option String) (style : Style), (read lookup).run.value = .ok style →
      ∀ (arguments : List Argument) (text : String), (style.describeAll arguments).value = text →
        ((style.describe (.text text)).value = text ↔
          text ≠ "" ∧ ¬ ∃ argument ∈ arguments, argument.HoldsRawChar) := by
  refine ⟨isPrintable_standard, fun lookup style h => (isPrintable_of_read h).1, ?_, ?_⟩
  · intro style h arguments
    rw [← Text.not_printable_iff, describeAll_eq, printable_joined_iff h, Classical.not_not]
  · intro lookup style found arguments text described
    obtain ⟨h, mark⟩ := isPrintable_of_read found
    rw [describeAll_eq] at described
    rw [describe_text_eq_iff h mark, ← printable_joined_iff h, ← described]

end Style

end CaseLabel
