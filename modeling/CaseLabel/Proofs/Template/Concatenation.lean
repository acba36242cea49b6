import CaseLabel.Proofs.Template.Filling
import CaseLabel.Proofs.Template.Segments

/-!
# Filling two templates put together

Filling goes from segment to segment, so it distributes over segments put together
(`fillSegments_append`). A placeholder across the boundary of two templates only adds itself: the
placeholders of both remain, in their order. Main statement (`fill_append`): without such a
placeholder the whole is filled like its parts, and in any case a part that fails makes the whole
fail, the first one with its own failure.
-/

namespace CaseLabel

open Template (Bridge segments)

/-- The span starts before the boundary and ends behind it. -/
def Span.Straddles (span : Span) (boundary : Nat) : Prop :=
  span.start < boundary ∧ boundary < span.stop

theorem Template.Bridge.straddles {xs ys : List Char} (bridge : Bridge xs ys) :
    Span.Straddles
      ⟨bridge.before.length, bridge.before.length + bridge.mention.chars.length⟩ xs.length := by
  have front := List.length_pos_iff.mpr bridge.front_ne_nil
  have back := List.length_pos_iff.mpr bridge.back_ne_nil
  have left := congrArg List.length bridge.left_eq
  have chars := congrArg List.length bridge.chars_eq
  rw [List.length_append] at left chars
  simp only [Span.Straddles]
  omega

/-- Without an occurrence across the boundary there is no bridge. -/
theorem Template.not_bridge_of_apart {xs ys : List Char}
    (apart : ∀ span, IsOccurrence (xs ++ ys) span → ¬ span.Straddles xs.length) :
    ¬ Nonempty (Bridge xs ys) := by
  rintro ⟨bridge⟩
  exact apart _ bridge.isOccurrence bridge.straddles

namespace Style

variable (style : Style) (arguments : List Argument)

theorem fillSegments_append (front back : List Segment) :
    style.fillSegments arguments (front ++ back) = (do
      let text ← style.fillSegments arguments front
      let more ← style.fillSegments arguments back
      pure (text ++ more)) := by
  induction front with
  | nil => simp only [List.nil_append, fillSegments, pure_bind, String.empty_append, bind_pure]
  | cons segment front ih =>
    cases segment with
    | char c =>
      simp only [List.cons_append, fillSegments, ih, bind_assoc, pure_bind, String.append_assoc]
    | mention mention =>
      simp only [List.cons_append, fillSegments, ih, bind_assoc, pure_bind, String.append_assoc]

theorem fillSegments_chars (cs : List Char) :
    style.fillSegments arguments (cs.map .char) = pure (String.ofList cs) := by
  induction cs with
  | nil => rfl
  | cons c cs ih => simp [fillSegments, ih, String.ofList_cons]

theorem outcome_fillSegments_append (front back : List Segment) :
    (style.fillSegments arguments (front ++ back)).outcome = (do
      let text ← (style.fillSegments arguments front).outcome
      let more ← (style.fillSegments arguments back).outcome
      .ok (text ++ more)) := by
  rw [fillSegments_append, Attempt.outcome_bind]
  cases (style.fillSegments arguments front).outcome with
  | error failure => rfl
  | ok text => exact Attempt.outcome_bind _ _

variable {style arguments}

/-- Segments that fail make all segments fail, whatever stands before them. -/
theorem exists_error_append_of_right {front back : List Segment} {failure : Failure}
    (h : (style.fillSegments arguments back).outcome = .error failure) :
    ∃ other, (style.fillSegments arguments (front ++ back)).outcome = .error other := by
  rw [outcome_fillSegments_append, h]
  cases (style.fillSegments arguments front).outcome with
  | error other => exact ⟨other, rfl⟩
  | ok text => exact ⟨failure, rfl⟩

/-- Characters do not fail, so it is the segments before them that do. -/
theorem error_append_chars_iff {front : List Segment} {cs : List Char} {failure : Failure} :
    (style.fillSegments arguments (front ++ cs.map .char)).outcome = .error failure ↔
      (style.fillSegments arguments front).outcome = .error failure := by
  rw [outcome_fillSegments_append, fillSegments_chars]
  cases (style.fillSegments arguments front).outcome with
  | error other => exact Iff.rfl
  | ok text => exact iff_of_false (fun h => by cases h) (fun h => by cases h)

/-- Characters do not fail, so it is the segments behind them that do. -/
theorem error_chars_append_iff {back : List Segment} {cs : List Char} {failure : Failure} :
    (style.fillSegments arguments (cs.map .char ++ back)).outcome = .error failure ↔
      (style.fillSegments arguments back).outcome = .error failure := by
  rw [outcome_fillSegments_append, fillSegments_chars]
  cases (style.fillSegments arguments back).outcome with
  | error other => exact Iff.rfl
  | ok text => exact iff_of_false (fun h => by cases h) (fun h => by cases h)

variable {s t : String}

/-- Without a bridge the whole comes to what its parts come to, one after the other. -/
theorem outcome_fill_append (style : Style) (arguments : List Argument)
    (apart : ¬ Nonempty (Bridge s.toList t.toList)) :
    (style.fill (s ++ t) arguments).outcome = (do
      let text ← (style.fill s arguments).outcome
      let more ← (style.fill t arguments).outcome
      .ok (text ++ more)) := by
  simp only [outcome_fill_eq, String.toList_append, Template.segments_append apart,
    outcome_fillSegments_append]

/-- The failure of the first template is that of the whole, whatever follows. -/
theorem outcome_fill_append_of_left {failure : Failure}
    (h : (style.fill s arguments).outcome = .error failure) :
    (style.fill (s ++ t) arguments).outcome = .error failure := by
  by_cases bridged : Nonempty (Bridge s.toList t.toList)
  · obtain ⟨bridge⟩ := bridged
    rw [outcome_fill_eq, bridge.segments_left, error_append_chars_iff] at h
    rw [outcome_fill_eq, String.toList_append, bridge.segments_whole,
      outcome_fillSegments_append, h]
    rfl
  · rw [style.outcome_fill_append arguments bridged, h]
    rfl

/-- A second template that fails makes the whole fail, whatever stands before it. -/
theorem exists_outcome_fill_append_of_right {failure : Failure}
    (h : (style.fill t arguments).outcome = .error failure) :
    ∃ other, (style.fill (s ++ t) arguments).outcome = .error other := by
  simp only [outcome_fill_eq, String.toList_append] at h ⊢
  by_cases bridged : Nonempty (Bridge s.toList t.toList)
  · obtain ⟨bridge⟩ := bridged
    rw [bridge.segments_right, error_chars_append_iff] at h
    rw [bridge.segments_whole, List.append_cons]
    exact exists_error_append_of_right h
  · rw [Template.segments_append bridged]
    exact exists_error_append_of_right h

/-- If no occurrence lies across the boundary of two templates, the first failure of one of them is
the failure of the whole, and else the texts are put together. Whatever lies across the boundary,
a failure of the first template is that of the whole, and the whole fails if the second does. -/
theorem fill_append (style : Style) (arguments : List Argument) (s t : String) :
    ((∀ span, Template.IsOccurrence (s ++ t).toList span → ¬ span.Straddles s.toList.length) →
      (∀ failure, (style.fill s arguments).run.value = .error failure →
        (style.fill (s ++ t) arguments).run.value = .error failure) ∧
      (∀ text failure, (style.fill s arguments).run.value = .ok text →
        (style.fill t arguments).run.value = .error failure →
        (style.fill (s ++ t) arguments).run.value = .error failure) ∧
      ∀ text more, (style.fill s arguments).run.value = .ok text →
        (style.fill t arguments).run.value = .ok more →
        (style.fill (s ++ t) arguments).run.value = .ok (text ++ more)) ∧
    (∀ failure, (style.fill s arguments).run.value = .error failure →
      (style.fill (s ++ t) arguments).run.value = .error failure) ∧
    ∀ failure, (style.fill t arguments).run.value = .error failure →
      ∃ other, (style.fill (s ++ t) arguments).run.value = .error other := by
  refine ⟨fun apart => ?_, fun _ => outcome_fill_append_of_left,
    fun _ => exists_outcome_fill_append_of_right⟩
  rw [String.toList_append] at apart
  have whole := style.outcome_fill_append arguments (Template.not_bridge_of_apart apart)
  refine ⟨fun _ => outcome_fill_append_of_left, ?_, ?_⟩
  · intro text failure first second
    exact whole.trans (by rw [Attempt.outcome, first, Attempt.outcome, second]; rfl)
  · intro text more first second
    exact whole.trans (by rw [Attempt.outcome, first, Attempt.outcome, second]; rfl)

/-- The occurrences of this text lie on one side of the boundary or on the other. -/
theorem not_straddles_open_bracket :
    ∀ span, Template.IsOccurrence ("%p[0]%a[" ++ "%p[1]]").toList span →
      ¬ span.Straddles "%p[0]%a[".toList.length := by
  intro span occurs
  have spans : (Outline.ofSegments (segments ("%p[0]%a[" ++ "%p[1]]").toList)).spans =
      [⟨0, 5⟩, ⟨8, 13⟩] := by decide +kernel
  rw [← (Outline.isOf_ofSegments _).mem_spans_iff, spans] at occurs
  simp only [List.mem_cons, List.not_mem_nil, or_false] at occurs
  rcases occurs with rfl | rfl
  · simp [Span.Straddles]
  · simp [Span.Straddles]

/-- An opened bracket in front of a placeholder makes no placeholder across the boundary. -/
theorem fill_append_open_bracket :
    (∀ span, Template.IsOccurrence ("%p[0]%a[" ++ "%p[1]]").toList span →
      ¬ span.Straddles "%p[0]%a[".toList.length) ∧
    (standard.fill "%p[0]%a[" [.text "x", .null]).run.value = .ok "x%a[" ∧
    (standard.fill "%p[1]]" [.text "x", .null]).run.value = .ok "<null>]" ∧
    (standard.fill ("%p[0]%a[" ++ "%p[1]]") [.text "x", .null]).run.value =
      .ok ("x%a[" ++ "<null>]") := by
  have left : segments "%p[0]%a[".toList =
      [.mention ⟨.parameter, ['0']⟩, .char '%', .char 'a', .char '['] := by decide +kernel
  have right : segments "%p[1]]".toList =
      [.mention ⟨.parameter, ['1']⟩, .char ']'] := by decide +kernel
  have first : (standard.fill "%p[0]%a[" [.text "x", .null]).run.value = .ok "x%a[" :=
    standard.outcome_fill_of_segments _ left
  have second : (standard.fill "%p[1]]" [.text "x", .null]).run.value = .ok "<null>]" :=
    standard.outcome_fill_of_segments _ right
  exact ⟨not_straddles_open_bracket, first, second,
    ((fill_append standard _ _ _).1 not_straddles_open_bracket).2.2 _ _ first second⟩

end Style

end CaseLabel
