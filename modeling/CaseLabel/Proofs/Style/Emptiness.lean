import CaseLabel.Proofs.Style.Printable
import CaseLabel.Proofs.Template.Replacement

/-!
# Empty descriptions

Every scalar has some text, and visible text of something is something if its mark is. In a style
that is read from variables no mark is empty, so only an object whose own description is empty can
be described by no text. Main statements, for such a style:

* the description of an argument is empty exactly if it is such an object (`textOf_eq_empty_iff`);
* the descriptions of arguments are empty exactly if there are none, or all are such objects and no
  separator shows (`joined_eq_empty_iff`), and so for what replaces a placeholder
  (`describe_empty_iff_of_read`).
-/

namespace CaseLabel

theorem Numeral.ofInt_ne_nil (n : Int) : ofInt n ≠ [] := by
  unfold ofInt
  split
  · simp
  · exact ofNat_ne_nil _

namespace Layout

theorem positional_ne_nil (digits : List Char) (leading : Int) : positional digits leading ≠ [] := by
  unfold positional
  dsimp only
  split
  · simp
  · simp

theorem scientific_ne_nil (layout : Layout) (digits : List Char) (leading : Int) :
    layout.scientific digits leading ≠ [] := by
  simp [scientific]

theorem magnitude_ne_nil (layout : Layout) (format : Binary) (magnitude : Nat) :
    layout.magnitude format magnitude ≠ [] := by
  unfold Layout.magnitude
  split
  · simp
  · split
    · simp
    · unfold decimal
      dsimp only
      split
      · exact positional_ne_nil _ _
      · exact layout.scientific_ne_nil _ _

theorem chars_ne_nil (layout : Layout) {format : Binary} (bits : format.Bits) :
    layout.chars bits ≠ [] := by
  unfold chars
  dsimp only
  split
  · simp
  · split
    · simp
    · exact layout.magnitude_ne_nil _ _

end Layout

/-- Every scalar has some text. -/
theorem Scalar.chars_ne_nil (scalar : Scalar) : scalar.chars ≠ [] := by
  obtain ⟨kind, value⟩ := scalar
  cases kind with
  | bool =>
    cases value with
    | true => simp [chars]
    | false => simp [chars]
  | char => simp [chars]
  | whole kind => exact Numeral.ofInt_ne_nil value.val
  | float format => exact floatLayout.chars_ne_nil value

theorem Scalar.text_ne_empty (scalar : Scalar) : scalar.text ≠ "" := by
  rw [text, ne_eq, String.ofList_eq_empty_iff]
  exact scalar.chars_ne_nil

namespace Text

/-- No character vanishes from visible text if the mark is not empty. -/
theorem visibleChar_ne_nil {mark : List Char} (h : mark ≠ []) (c : Char) :
    visibleChar mark c ≠ [] := by
  unfold visibleChar escape?
  split
  next escaped found =>
    split at found
    · cases found
      simp
    · cases found
      simp
    · cases found
      simp
    · cases found
  next =>
    split
    · simp
    · exact h

theorem visible_eq_empty_iff {mark text : String} (h : mark ≠ "") :
    visible mark text = "" ↔ text = "" := by
  have nonempty : mark.toList ≠ [] := fun absent => h (String.toList_eq_nil_iff.mp absent)
  rw [visible, String.ofList_eq_empty_iff, List.flatMap_eq_nil_iff, ← String.toList_eq_nil_iff,
    List.eq_nil_iff_forall_not_mem]
  apply forall_congr'
  intro c
  simp [visibleChar_ne_nil nonempty c]

end Text

namespace Style

variable {style : Style}

/-- The three marks are not empty. -/
def HasMarks (style : Style) : Prop := ∀ setting, setting ≠ .separator → style.textFor setting ≠ ""

theorem hasMarks_of_read {lookup : String → Option String}
    (found : (read lookup).outcome = .ok style) : style.HasMarks :=
  fun setting isMark => (Setting.read_eq_ok (read_eq_ok_iff.mp found setting)).1 isMark

/-- Only an object can have no text, and it has none if its description is empty. -/
theorem textOf_eq_empty_iff (marks : style.HasMarks) {argument : Argument} :
    style.textOf argument = "" ↔ argument = .object (some "") := by
  have nullMark : style.nullMark ≠ "" := marks .nullMark (by decide)
  have emptyMark : style.emptyMark ≠ "" := marks .emptyMark (by decide)
  have nonPrintableMark : style.nonPrintableMark ≠ "" := marks .nonPrintableMark (by decide)
  cases argument with
  | null => simp [textOf, nullMark]
  | text text =>
    rw [textOf]
    split
    next => simp [emptyMark]
    next nonempty => simp [Text.visible_eq_empty_iff nonPrintableMark, nonempty]
  | scalar scalar =>
    rw [textOf, Text.visible_eq_empty_iff nonPrintableMark]
    simp [scalar.text_ne_empty]
  | scalars array => simp [textOf, ScalarArray.text, ScalarArray.chars]
  | list items => simp [textOf]
  | object description =>
    cases description with
    | none => simp [textOf, nullMark]
    | some description =>
      rw [textOf, Text.visible_eq_empty_iff nonPrintableMark]
      simp

theorem separated_eq_empty_iff {arguments : List Argument} :
    style.separated arguments = "" ↔
      ∀ argument ∈ arguments, style.separator = "" ∧ style.textOf argument = "" := by
  induction arguments with
  | nil => simp [separated]
  | cons argument rest ih =>
    rw [separated, String.append_eq_empty_iff, String.append_eq_empty_iff, ih,
      List.forall_mem_cons]

/-- Joined texts are empty if each is and there is no separator to show between two of them. -/
theorem joined_eq_empty_iff {arguments : List Argument} :
    style.joined arguments = "" ↔
      arguments = [] ∨ (∀ argument ∈ arguments, style.textOf argument = "") ∧
        (arguments.length = 1 ∨ style.separator = "") := by
  cases arguments with
  | nil => simp [joined_nil]
  | cons argument rest =>
    rw [joined_cons, String.append_eq_empty_iff, separated_eq_empty_iff, List.forall_mem_cons]
    constructor
    · intro h
      obtain ⟨first, others⟩ := h
      refine .inr ⟨⟨first, fun other member => (others other member).2⟩, ?_⟩
      cases rest with
      | nil => exact .inl rfl
      | cons next rest => exact .inr (others next (by simp)).1
    · intro h
      rcases h with absent | ⟨⟨first, others⟩, between⟩
      · cases absent
      · refine ⟨first, fun other member => ⟨?_, others other member⟩⟩
        rcases between with alone | between
        · have noRest : rest = [] := by simpa using alone
          simp [noRest] at member
        · exact between

/-- In a style that is read from variables only an object whose own description is empty is
described by no text. Arguments are described by no text exactly if there are none, or if all of
them are such objects and there is one only or the separator is empty; a placeholder is replaced by
no text exactly if it selects such arguments. -/
theorem describe_empty_iff_of_read (lookup : String → Option String) (style : Style)
    (found : (read lookup).run.value = .ok style) :
    (∀ argument : Argument,
      (style.describe argument).value = "" ↔ argument = .object (some "")) ∧
    (∀ arguments : List Argument, (style.describeAll arguments).value = "" ↔
      arguments = [] ∨ (∀ argument ∈ arguments, argument = .object (some "")) ∧
        (arguments.length = 1 ∨ style.separator = "")) ∧
    ∀ (text : String) (arguments : List Argument),
      (style.replace text arguments).run.value = .ok "" ↔
        ∃ (placeholder : Placeholder) (selected : List Argument),
          Placeholder.parse text = .ok placeholder ∧
          placeholder.subscript.select arguments = .ok selected ∧
          (selected = [] ∨ (∀ argument ∈ selected, argument = .object (some "")) ∧
            (selected.length = 1 ∨ style.separator = "")) := by
  have marks := hasMarks_of_read found
  have joined (arguments : List Argument) : style.joined arguments = "" ↔
      arguments = [] ∨ (∀ argument ∈ arguments, argument = .object (some "")) ∧
        (arguments.length = 1 ∨ style.separator = "") := by
    simp only [joined_eq_empty_iff, textOf_eq_empty_iff marks]
  refine ⟨fun argument => ?_, fun arguments => ?_, fun text arguments => ?_⟩
  · rw [describe_eq, textOf_eq_empty_iff marks]
  · rw [describeAll_eq, joined]
  · change style.replaced arguments text = .ok "" ↔ _
    rw [style.replaced_eq_ok_iff]
    simp only [joined]

/-- Without a separator two objects with an empty description leave no text; a value that is
missing leaves its mark. -/
theorem describe_empty_without_separator :
    (read fun name => if name = "DATAPROVIDER_NAMES_SEPARATOR" then some "" else none).run.value =
      .ok ⟨"<null>", "<empty string>", "<np>", ""⟩ ∧
    (describeAll ⟨"<null>", "<empty string>", "<np>", ""⟩
      [.object (some ""), .object (some "")]).value = "" ∧
    (describeAll ⟨"<null>", "<empty string>", "<np>", ""⟩
      [.object (some ""), .object none]).value ≠ "" ∧
    (replace ⟨"<null>", "<empty string>", "<np>", ""⟩ "%p[0..1]"
      [.object (some ""), .object (some ""), .null]).run.value = .ok "" := by
  have found :
      (read fun name => if name = "DATAPROVIDER_NAMES_SEPARATOR" then some "" else none).run.value =
        .ok ⟨"<null>", "<empty string>", "<np>", ""⟩ := rfl
  obtain ⟨-, all, replacement⟩ := describe_empty_iff_of_read _ _ found
  refine ⟨found, (all _).mpr ?_, fun empty => ?_, (replacement _ _).mpr ?_⟩
  · simp
  · simpa using (all _).mp empty
  · refine ⟨⟨.parameter, .range ⟨0, by decide, by decide⟩ ⟨1, by decide, by decide⟩⟩,
      [.object (some ""), .object (some "")], rfl, rfl, ?_⟩
    simp

end Style

end CaseLabel
