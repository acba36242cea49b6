import CaseLabel.Proofs.Template.Replacement

/-!
# Extension: a filling of a list and of longer lists

A position that is counted from the front names the same item when others are added at the end, and
one that is counted from the back does when they are added in front. Main statements:

* a span that is granted stays granted, in the second case behind what was added
  (`resolve_add_right`, `resolve_add_left`), and so the same items are selected
  (`select_append_right`, `select_append_left`);
* a template whose positions are all counted from one side keeps its text when arguments are added
  on the other (`fill_append_arguments`).
-/

namespace CaseLabel

namespace Subscript

/-- Both positions are counted from the front. -/
def FromFront (subscript : Subscript) : Prop :=
  0 ≤ subscript.first.val ∧ 0 ≤ subscript.last.val

/-- Both positions are counted from the back. -/
def FromBack (subscript : Subscript) : Prop :=
  subscript.first.val < 0 ∧ subscript.last.val < 0

variable {subscript : Subscript} {count : Nat} {span : Span}

theorem resolve_add_right (front : subscript.FromFront)
    (granted : subscript.resolve count = .ok span) (more : Nat) :
    subscript.resolve (count + more) = .ok span := by
  rw [resolve_eq_ok_span_iff, start, stop, Position.index, Position.index, if_pos front.1,
    if_pos front.2] at granted ⊢
  omega

theorem resolve_add_left (back : subscript.FromBack)
    (granted : subscript.resolve count = .ok span) (more : Nat) :
    subscript.resolve (more + count) = .ok (span.shift more) := by
  have low : ¬ 0 ≤ subscript.first.val := Int.not_le.mpr back.1
  have high : ¬ 0 ≤ subscript.last.val := Int.not_le.mpr back.2
  rw [resolve_eq_ok_span_iff, start, stop, Position.index, Position.index, if_neg low,
    if_neg high] at granted ⊢
  simp only [Span.shift]
  omega

section Select

variable {α : Type} {items selected : List α}

theorem select_eq_ok_iff :
    subscript.select items = .ok selected ↔
      ∃ span : Span, subscript.resolve items.length = .ok span ∧
        span.slice? items = some selected := by
  constructor
  · intro selects
    rcases subscript.granted_or_refused items.length with ⟨span, granted⟩ | refused
    · rw [select, selectAs_eq_ok (granted _)] at selects
      cases selects
      exact ⟨span, granted _, (slice?_of_resolveAs (granted "")).1⟩
    · rw [select, selectAs_eq_error (refused _)] at selects
      cases selects
  · intro ⟨span, granted, part⟩
    rw [resolve] at granted
    simp only [select, selectAs, granted, bind, Except.bind, part]

theorem select_append_right (front : subscript.FromFront)
    (selects : subscript.select items = .ok selected) (more : List α) :
    subscript.select (items ++ more) = .ok selected := by
  obtain ⟨span, granted, part⟩ := select_eq_ok_iff.mp selects
  obtain ⟨-, -, -, within⟩ := resolve_eq_ok_span_iff.mp granted
  have longer := resolve_add_right front granted more.length
  rw [← List.length_append] at longer
  rw [← Span.slice?_append more within] at part
  exact select_eq_ok_iff.mpr ⟨span, longer, part⟩

theorem select_append_left (back : subscript.FromBack)
    (selects : subscript.select items = .ok selected) (more : List α) :
    subscript.select (more ++ items) = .ok selected := by
  obtain ⟨span, granted, part⟩ := select_eq_ok_iff.mp selects
  have longer := resolve_add_left back granted more.length
  rw [← List.length_append] at longer
  rw [← Span.slice?_shift more] at part
  exact select_eq_ok_iff.mpr ⟨_, longer, part⟩

end Select

end Subscript

namespace Style

variable {style : Style} {arguments others : List Argument}

/-- A placeholder that selects the same from another list is replaced by the same text. -/
theorem replaced_of_select {text result : String}
    (keeps : ∀ placeholder, Placeholder.parse text = .ok placeholder → ∀ selected,
      placeholder.subscript.select arguments = .ok selected →
      placeholder.subscript.select others = .ok selected)
    (done : style.replaced arguments text = .ok result) :
    style.replaced others text = .ok result := by
  obtain ⟨placeholder, selected, read, selects, same⟩ := style.replaced_eq_ok_iff.mp done
  exact style.replaced_eq_ok_iff.mpr
    ⟨placeholder, selected, read, keeps placeholder read selected selects, same⟩

/-- A template that is filled keeps its text as long as its placeholders keep their selections. -/
theorem fill_of_select {template result : String} {outline : Outline}
    (isOf : outline.IsOf template.toList)
    (keeps : ∀ text ∈ outline.placeholders, ∀ placeholder,
      Placeholder.parse text = .ok placeholder → ∀ selected,
      placeholder.subscript.select arguments = .ok selected →
      placeholder.subscript.select others = .ok selected)
    (done : (style.fill template arguments).outcome = .ok result) :
    (style.fill template others).outcome = .ok result := by
  rw [style.outcome_fill_of_isOf _ isOf] at done ⊢
  apply Outline.run_mono _ done
  intro text member new
  exact replaced_of_select (keeps text member)

/-- Arguments added at the end change nothing for a template whose positions are all counted from
the front, and arguments added in front change nothing if all are counted from the back, once the
template is filled without them. -/
theorem fill_append_arguments (style : Style) (template : String) (outline : Outline)
    (isOf : outline.IsOf template.toList) (arguments more : List Argument) (result : String)
    (done : (style.fill template arguments).run.value = .ok result) :
    ((∀ text ∈ outline.placeholders, ∀ placeholder, Placeholder.parse text = .ok placeholder →
        placeholder.subscript.FromFront) →
      (style.fill template (arguments ++ more)).run.value = .ok result) ∧
    ((∀ text ∈ outline.placeholders, ∀ placeholder, Placeholder.parse text = .ok placeholder →
        placeholder.subscript.FromBack) →
      (style.fill template (more ++ arguments)).run.value = .ok result) := by
  constructor
  · intro front
    refine fill_of_select isOf ?_ done
    intro text member placeholder read selected selects
    exact Subscript.select_append_right (front text member placeholder read) selects more
  · intro back
    refine fill_of_select isOf ?_ done
    intro text member placeholder read selected selects
    exact Subscript.select_append_left (back text member placeholder read) selects more

/-- A negative zero counts from the front, other negative positions from the back. -/
theorem fill_append_arguments_negative_zero :
    (Outline.placed ['<'] "%a[-0]".toList (.literal ['>'])).IsOf "<%a[-0]>".toList ∧
    (standard.fill "<%a[-0]>" [.text "a", .null]).run.value = .ok "<a>" ∧
    Placeholder.parse "%a[-0]" = .ok ⟨.argument, .single ⟨0, by decide, by decide⟩⟩ ∧
    (standard.fill "<%a[-0]>" ([.text "a", .null] ++ [.object none])).run.value = .ok "<a>" ∧
    (Outline.placed ['<'] "%p[-02]".toList (.literal ['>'])).IsOf "<%p[-02]>".toList ∧
    (standard.fill "<%p[-02]>" [.text "a", .null]).run.value = .ok "<a>" ∧
    Placeholder.parse "%p[-02]" = .ok ⟨.parameter, .single ⟨-2, by decide, by decide⟩⟩ ∧
    (standard.fill "<%p[-02]>" ([.object none] ++ [.text "a", .null])).run.value = .ok "<a>" := by
  have readFront : Template.segments "<%a[-0]>".toList =
      [.char '<', .mention ⟨.argument, ['-', '0']⟩, .char '>'] := by decide +kernel
  have readBack : Template.segments "<%p[-02]>".toList =
      [.char '<', .mention ⟨.parameter, ['-', '0', '2']⟩, .char '>'] := by decide +kernel
  have isOfFront := Outline.isOf_ofSegments "<%a[-0]>".toList
  rw [readFront] at isOfFront
  have isOfBack := Outline.isOf_ofSegments "<%p[-02]>".toList
  rw [readBack] at isOfBack
  have doneFront : (standard.fill "<%a[-0]>" [.text "a", .null]).run.value = .ok "<a>" :=
    standard.outcome_fill_of_segments _ readFront
  have doneBack : (standard.fill "<%p[-02]>" [.text "a", .null]).run.value = .ok "<a>" :=
    standard.outcome_fill_of_segments _ readBack
  refine ⟨isOfFront, doneFront, rfl, ?_, isOfBack, doneBack, rfl, ?_⟩
  · refine (fill_append_arguments standard _ _ isOfFront _ _ _ doneFront).1 ?_
    intro text member placeholder known
    have shape : Placeholder.parse "%a[-0]" =
        .ok ⟨.argument, .single ⟨0, by decide, by decide⟩⟩ := rfl
    rw [List.mem_singleton.mp member] at known
    cases shape.symm.trans known
    exact ⟨by decide, by decide⟩
  · refine (fill_append_arguments standard _ _ isOfBack _ _ _ doneBack).2 ?_
    intro text member placeholder known
    have shape : Placeholder.parse "%p[-02]" =
        .ok ⟨.parameter, .single ⟨-2, by decide, by decide⟩⟩ := rfl
    rw [List.mem_singleton.mp member] at known
    cases shape.symm.trans known
    exact ⟨by decide, by decide⟩

end Style

end CaseLabel
