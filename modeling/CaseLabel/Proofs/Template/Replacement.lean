import CaseLabel.Proofs.Placeholder.Bracketed
import CaseLabel.Proofs.Template.Filling
import CaseLabel.Proofs.Template.Selection

/-!
# Replacements: what stands for a placeholder as it is written

Of a written placeholder only the text between its brackets matters: `Subscript.selectText` reads
that text and selects, and a failure gives it back as it was written. Main statements:

* a spelling between brackets is replaced by the joined texts of what it selects, whatever the
  letter is (`replaced_spelled`);
* so it follows the resolution of its subscript (`replaced_of_granted`, `replaced_of_refused`);
* a text has a replacement exactly if it is read as a placeholder that selects, and then it is the
  joined texts of the selection (`replaced_eq_ok_iff`).
-/

namespace CaseLabel

/-- The items that a written subscript selects; a failure gives the text as it was written. -/
def Subscript.selectText {α : Type} (text : String) (items : List α) :
    Except Failure (List α) := do
  let subscript ← parse text
  subscript.selectAs text items

theorem Subscript.selectText_of_parse {α : Type} {text : String} {subscript : Subscript}
    (read : parse text = .ok subscript) (items : List α) :
    selectText text items = subscript.selectAs text items := by
  rw [selectText, read]
  rfl

theorem Placeholder.bracketed_parameter (text : String) :
    bracketed .parameter text = "%p[" ++ text ++ "]" := by
  have opening : Letter.parameter.opening ++ "[" = "%p[" := by decide
  rw [bracketed, opening]

/-- The letter of a placeholder has no part in its selection. -/
theorem Mention.select_eq_selectText {α : Type} (mention : Mention) (items : List α) :
    (mention.select items).map Prod.snd =
      Subscript.selectText mention.subscriptText items := by
  unfold select Mention.placeholder Subscript.selectText
  cases Subscript.parse mention.subscriptText with
  | error failure => rfl
  | ok subscript =>
    simp only [bind, Except.bind]
    cases subscript.selectAs mention.subscriptText items with
    | error failure => rfl
    | ok selected => rfl

namespace Style

variable (style : Style) {arguments : List Argument}

/-- A spelling between brackets is replaced by the joined texts of what it selects. -/
theorem replaced_spelled {letter : Letter} {text : String} {s : Subscript.Spelling}
    (spelled : s.chars = text.toList) :
    style.replaced arguments (Placeholder.bracketed letter text) =
      (Subscript.selectText text arguments).map style.joined := by
  have selects := Mention.select_eq_selectText ⟨letter, text.toList⟩ arguments
  rw [Mention.subscriptText, String.ofList_toList] at selects
  rw [replaced, replace, Placeholder.ofText?_bracketed spelled]
  dsimp only
  rw [outcome_replacement, ← selects]
  cases (Mention.mk letter text.toList).select arguments with
  | error failure => rfl
  | ok choice => rfl

/-- A placeholder is replaced by the joined texts of what its subscript selects. -/
theorem replaced_bracketed {letter : Letter} {text : String} {subscript : Subscript}
    (read : Subscript.parse text = .ok subscript) :
    style.replaced arguments (Placeholder.bracketed letter text) =
      (subscript.selectAs text arguments).map style.joined := by
  obtain ⟨s, spelled, -⟩ := Subscript.parse_eq_ok_iff.mp read
  rw [replaced_spelled style spelled, Subscript.selectText_of_parse read]

section Resolution

variable {letter : Letter} {text : String} {subscript : Subscript}

/-- A placeholder whose span is granted is replaced by the joined texts of that part. -/
theorem replaced_of_granted {span : Span} (read : Subscript.parse text = .ok subscript)
    (granted : subscript.resolveAs text arguments.length = .ok span) :
    style.replaced arguments (Placeholder.bracketed letter text) =
      .ok (style.joined ((arguments.drop span.start).take (span.stop - span.start))) := by
  rw [style.replaced_bracketed read, Subscript.selectAs_eq_ok granted]
  rfl

/-- A placeholder whose span is refused fails as its subscript does. -/
theorem replaced_of_refused {failure : Failure} (read : Subscript.parse text = .ok subscript)
    (refused : subscript.resolveAs text arguments.length = .error failure) :
    style.replaced arguments (Placeholder.bracketed letter text) = .error failure := by
  rw [style.replaced_bracketed read, Subscript.selectAs_eq_error refused]
  rfl

end Resolution

/-- A text has a replacement exactly if it is read as a placeholder that selects. -/
theorem replaced_eq_ok_iff {text result : String} :
    style.replaced arguments text = .ok result ↔
      ∃ (placeholder : Placeholder) (selected : List Argument),
        Placeholder.parse text = .ok placeholder ∧
        placeholder.subscript.select arguments = .ok selected ∧
        style.joined selected = result := by
  constructor
  · intro replacement
    rw [replaced, replace] at replacement
    cases found : Mention.ofText? text with
    | none =>
      rw [found] at replacement
      cases replacement
    | some mention =>
      rw [found] at replacement
      dsimp only at replacement
      rw [outcome_replacement] at replacement
      cases chosen : mention.select arguments with
      | error failure =>
        rw [chosen] at replacement
        cases replacement
      | ok choice =>
        rw [chosen] at replacement
        cases replacement
        obtain ⟨read, selects⟩ := Mention.select_eq_ok_iff.mp chosen
        exact ⟨choice.1, choice.2, (Placeholder.parse_eq_of_ofText? found).trans read,
          Subscript.selectAs_relabel selects _, rfl⟩
  · intro h
    obtain ⟨placeholder, selected, read, selects, same⟩ := h
    obtain ⟨s, whole⟩ := Placeholder.eq_bracketed_of_parse read
    rw [whole, Placeholder.parse_bracketed_eq_ok_iff] at read
    have labelled := Subscript.selectAs_relabel selects (String.ofList s.chars)
    rw [whole, style.replaced_bracketed read.2, labelled, ← same]
    rfl

end Style

end CaseLabel
