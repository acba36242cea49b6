import CaseLabel.Log
import CaseLabel.Proofs.Subscript.Resolution
import CaseLabel.Style.Description
import CaseLabel.Template

/-!
# Selections: what a placeholder selects, and what replaces it

A placeholder as it is written fails in one of two ways: a numeral of it overflows, or its span
does not fit the list. Main statements:

* a selection succeeds if the subscript is read and selects (`select_eq_ok_iff`), and otherwise
  fails for one of these two reasons (`select_eq_error`);
* a placeholder is replaced by the joined texts of its selection (`outcome_replacement`), which
  leaves one event for itself and one for each object without a description in it
  (`run_replacement_of_ok`);
* a selection that fails leaves nothing but its failure (`run_replacement_of_error`).
-/

namespace CaseLabel

namespace Subscript

theorem eq_malformed_of_parse {text : String} {failure : Failure}
    (h : parse text = .error failure) : failure = .malformedSubscript text := by
  unfold parse at h
  split at h
  next => cases h
  next =>
    cases h
    rfl

theorem eq_outOfRange_of_selectAs {α : Type} {label : String} {subscript : Subscript}
    {items : List α} {failure : Failure} (h : subscript.selectAs label items = .error failure) :
    failure = .outOfRange
      ⟨label, subscript.start items.length, subscript.stop items.length, items.length⟩ := by
  rcases subscript.granted_or_refused items.length with ⟨span, granted⟩ | refused
  · rw [selectAs_eq_ok (granted label)] at h
    cases h
  · rw [selectAs_eq_error (refused label)] at h
    cases h
    rfl

/-- What is selected does not depend on what a failure would call the subscript. -/
theorem selectAs_relabel {α : Type} {label : String} {subscript : Subscript}
    {items selected : List α}
    (h : subscript.selectAs label items = .ok selected) (other : String) :
    subscript.selectAs other items = .ok selected := by
  rcases subscript.granted_or_refused items.length with ⟨span, granted⟩ | refused
  · rw [selectAs_eq_ok (granted _)] at h ⊢
    exact h
  · rw [selectAs_eq_error (refused label)] at h
    cases h

end Subscript

namespace Mention

theorem eq_malformed_of_placeholder {mention : Mention} {failure : Failure}
    (h : mention.placeholder = .error failure) :
    failure = .malformedSubscript mention.subscriptText := by
  unfold Mention.placeholder at h
  cases read : Subscript.parse mention.subscriptText with
  | error other =>
    rw [read] at h
    cases h
    exact Subscript.eq_malformed_of_parse read
  | ok subscript =>
    rw [read] at h
    cases h

variable {α : Type} {mention : Mention} {items : List α}

/-- A placeholder that is read selects as its subscript does. -/
theorem select_of_placeholder {placeholder : Placeholder}
    (read : mention.placeholder = .ok placeholder) (items : List α) :
    mention.select items =
      (placeholder.subscript.selectAs mention.subscriptText items).map
        fun selected => (placeholder, selected) := by
  unfold select
  rw [read]
  cases chosen : placeholder.subscript.selectAs mention.subscriptText items with
  | error failure => simp only [bind, Except.bind, chosen, Except.map]
  | ok selected => simp only [bind, Except.bind, chosen, pure, Except.pure, Except.map]

theorem select_of_placeholder_error {failure : Failure}
    (unread : mention.placeholder = .error failure) : mention.select items = .error failure := by
  unfold select
  rw [unread]
  rfl

theorem select_eq_ok_iff {placeholder : Placeholder} {selected : List α} :
    mention.select items = .ok (placeholder, selected) ↔
      mention.placeholder = .ok placeholder ∧
        placeholder.subscript.selectAs mention.subscriptText items = .ok selected := by
  constructor
  · intro h
    cases read : mention.placeholder with
    | error failure =>
      rw [select_of_placeholder_error read] at h
      cases h
    | ok other =>
      rw [select_of_placeholder read] at h
      cases chosen : other.subscript.selectAs mention.subscriptText items with
      | error failure =>
        rw [chosen] at h
        cases h
      | ok items =>
        rw [chosen] at h
        cases h
        exact ⟨rfl, chosen⟩
  · intro ⟨read, chosen⟩
    rw [select_of_placeholder read, chosen]
    rfl

/-- A selection fails because a numeral overflows or because the span does not fit the list. -/
theorem select_eq_error {failure : Failure} (h : mention.select items = .error failure) :
    failure = .malformedSubscript mention.subscriptText ∨ ∃ fault, failure = .outOfRange fault := by
  cases read : mention.placeholder with
  | error other =>
    rw [select_of_placeholder_error read] at h
    cases h
    exact .inl (eq_malformed_of_placeholder read)
  | ok placeholder =>
    rw [select_of_placeholder read] at h
    cases chosen : placeholder.subscript.selectAs mention.subscriptText items with
    | error other =>
      rw [chosen] at h
      cases h
      exact .inr ⟨_, Subscript.eq_outOfRange_of_selectAs chosen⟩
    | ok selected =>
      rw [chosen] at h
      cases h

end Mention

namespace Style

variable (style : Style) {arguments : List Argument} {mention : Mention}

theorem run_replacement_of_ok {placeholder : Placeholder} {selected : List Argument}
    (h : mention.select arguments = .ok (placeholder, selected)) :
    (style.replacement arguments mention).run =
      ⟨.ok (style.joined selected),
        .selected placeholder selected.length arguments.length ::
          style.undescribedEvents (Argument.undescribedAll selected)⟩ := by
  unfold replacement
  rw [h]
  simp [Logged.ext_iff, ExceptT.run_bind, describeAll_eq, Logged.record]

theorem run_replacement_of_error {failure : Failure}
    (h : mention.select arguments = .error failure) :
    (style.replacement arguments mention).run = ⟨.error failure, []⟩ := by
  unfold replacement
  rw [h]
  rfl

/-- A placeholder is replaced by the joined texts of what it selects. -/
theorem outcome_replacement (arguments : List Argument) (mention : Mention) :
    (style.replacement arguments mention).outcome =
      (mention.select arguments).map fun choice => style.joined choice.2 := by
  unfold Attempt.outcome
  cases chosen : mention.select arguments with
  | error failure =>
    rw [style.run_replacement_of_error chosen]
    rfl
  | ok choice =>
    rw [style.run_replacement_of_ok chosen]
    rfl

end Style

end CaseLabel
