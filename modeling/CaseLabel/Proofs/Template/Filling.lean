import CaseLabel.Log
import CaseLabel.Proofs.Template.Outline

/-!
# Filling a template against its outline

`Outline.run` states what filling comes to: the placeholders are replaced one by one from the
left, literal text is copied, and the first replacement that fails is the failure of the whole. It
reads no text, so a replacement is never looked at again. Main statements:

* filling a template is the run over its outline (`outcome_fill`);
* the run gives the filled outline if every placeholder has a replacement (`run_eq_ok`) and else
  the failure of the leftmost one that has none (`run_eq_error`).
-/

namespace CaseLabel

namespace Outline

/-- Replaces the placeholders from the left and stops at the first that fails. -/
def run (replaced : String → Except Failure String) : Outline → Except Failure String
  | .literal text => .ok (String.ofList text)
  | .placed text placeholder rest => do
    let new ← replaced (String.ofList placeholder)
    let more ← rest.run replaced
    .ok (String.ofList text ++ new ++ more)

variable {replaced : String → Except Failure String}

theorem run_eq_ok {texts : String → String} {outline : Outline}
    (h : ∀ placeholder ∈ outline.placeholders, replaced placeholder = .ok (texts placeholder)) :
    outline.run replaced = .ok (outline.filled texts) := by
  induction outline with
  | literal text => rfl
  | placed text placeholder rest ih =>
    have first := h (String.ofList placeholder) (by simp [placeholders])
    have later := ih fun other member => h other (by simp [placeholders, member])
    rw [run, first, later]
    rfl

theorem run_eq_error {outline : Outline} {before after : List String} {placeholder : String}
    {failure : Failure} (shape : outline.placeholders = before ++ placeholder :: after)
    (good : ∀ other ∈ before, ∃ text, replaced other = .ok text)
    (bad : replaced placeholder = .error failure) : outline.run replaced = .error failure := by
  induction outline generalizing before with
  | literal text => simp [placeholders] at shape
  | placed text first rest ih =>
    cases before with
    | nil =>
      rw [placeholders, List.nil_append, List.cons.injEq] at shape
      rw [run, shape.1, bad]
      rfl
    | cons head before =>
      rw [placeholders, List.cons_append, List.cons.injEq] at shape
      obtain ⟨new, replacedHead⟩ := good head (by simp)
      have later := ih shape.2 fun other member => good other (by simp [member])
      rw [run, shape.1, replacedHead, later]
      rfl

/-- A run that fails does so with the failure of a placeholder. -/
theorem exists_of_run_eq_error {replaced : String → Except Failure String} {outline : Outline}
    {failure : Failure} (h : outline.run replaced = .error failure) :
    ∃ placeholder ∈ outline.placeholders, replaced placeholder = .error failure := by
  induction outline with
  | literal text => cases h
  | placed text placeholder rest ih =>
    rw [run] at h
    cases first : replaced (String.ofList placeholder) with
    | error other =>
      rw [first] at h
      cases h
      exact ⟨_, by simp [placeholders], first⟩
    | ok new =>
      cases later : rest.run replaced with
      | error other =>
        rw [first, later] at h
        cases h
        obtain ⟨culprit, member, fails⟩ := ih later
        exact ⟨culprit, by simp [placeholders, member], fails⟩
      | ok more =>
        rw [first, later] at h
        cases h

/-- Where each placeholder keeps its replacement, the text of the run is kept. -/
theorem run_mono {other : String → Except Failure String} {outline : Outline} {text : String}
    (each : ∀ placeholder ∈ outline.placeholders, ∀ new,
      replaced placeholder = .ok new → other placeholder = .ok new)
    (done : outline.run replaced = .ok text) : outline.run other = .ok text := by
  induction outline generalizing text with
  | literal _ => exact done
  | placed _ placeholder rest ih =>
    rw [run] at done
    cases first : replaced (String.ofList placeholder) with
    | error failure =>
      rw [first] at done
      cases done
    | ok new =>
      cases later : rest.run replaced with
      | error failure =>
        rw [first, later] at done
        cases done
      | ok more =>
        have firstKept := each _ (by simp [placeholders]) new first
        have laterKept := ih (fun p member => each p (by simp [placeholders, member])) later
        rw [first, later] at done
        rw [run, firstKept, laterKept]
        exact done

theorem run_cons (c : Char) (outline : Outline) :
    (outline.cons c).run replaced =
      (outline.run replaced).map fun text => String.singleton c ++ text := by
  cases outline with
  | literal text => simp [cons, run, Except.map, String.ofList_cons]
  | placed text placeholder rest =>
    rw [cons, run, run]
    cases replaced (String.ofList placeholder) with
    | error failure => rfl
    | ok new =>
      cases rest.run replaced with
      | error failure => rfl
      | ok more =>
        simp [bind, Except.bind, Except.map, String.ofList_cons, String.append_assoc]

end Outline

namespace Style

variable (style : Style) (arguments : List Argument)

/-- What a text that is exactly one placeholder is replaced by. -/
def replaced (text : String) : Except Failure String := (style.replace text arguments).outcome

theorem replaced_chars {mention : Mention} (wellFormed : mention.WellFormed) :
    style.replaced arguments (String.ofList mention.chars) =
      (style.replacement arguments mention).outcome := by
  rw [replaced, replace, Mention.ofText?_chars wellFormed]

theorem outcome_fillSegments {segments : List Segment}
    (wellFormed : ∀ mention, .mention mention ∈ segments → mention.WellFormed) :
    (style.fillSegments arguments segments).outcome =
      (Outline.ofSegments segments).run (style.replaced arguments) := by
  induction segments with
  | nil => rfl
  | cons segment rest ih =>
    have later := ih fun mention member => wellFormed mention (by simp [member])
    cases segment with
    | char c =>
      rw [fillSegments, Outline.ofSegments, Outline.run_cons, ← later, Attempt.outcome_bind]
      cases (style.fillSegments arguments rest).outcome <;> rfl
    | mention mention =>
      have first := style.replaced_chars arguments (wellFormed mention (by simp))
      rw [fillSegments, Outline.ofSegments, Outline.run, first, ← later, Attempt.outcome_bind]
      cases (style.replacement arguments mention).outcome with
      | error failure => rfl
      | ok new =>
        change Attempt.outcome (style.fillSegments arguments rest >>= fun more => pure (new ++ more)) =
          (style.fillSegments arguments rest).outcome >>= fun more => .ok ("" ++ new ++ more)
        rw [Attempt.outcome_bind, String.empty_append]
        rfl

theorem wellFormed_of_mem_segments {cs : List Char} {mention : Mention}
    (h : .mention mention ∈ Template.segments cs) : mention.WellFormed := by
  fun_induction Template.segments cs with
  | case1 => simp at h
  | case2 c cs found rest taken ih =>
    rcases List.mem_cons.mp h with same | later
    · cases same
      exact Mention.wellFormed_of_atHead? taken
    · exact ih later
  | case3 c cs absent ih =>
    rcases List.mem_cons.mp h with same | later
    · cases same
    · exact ih later

/-- Filling a template comes to the same as filling its segments. -/
theorem outcome_fill_eq (template : String) :
    (style.fill template arguments).outcome =
      (style.fillSegments arguments (Template.segments template.toList)).outcome := by
  rw [fill, Attempt.outcome_bind]
  cases (style.fillSegments arguments (Template.segments template.toList)).outcome <;> rfl

theorem outcome_fill_of_segments {template : String} {segments : List Segment}
    (read : Template.segments template.toList = segments) :
    (style.fill template arguments).outcome = (style.fillSegments arguments segments).outcome := by
  rw [outcome_fill_eq, read]

/-- Filling a template is the run over its outline. -/
theorem outcome_fill (template : String) :
    (style.fill template arguments).outcome =
      (Outline.ofSegments (Template.segments template.toList)).run (style.replaced arguments) := by
  rw [← style.outcome_fillSegments arguments fun _ => wellFormed_of_mem_segments, outcome_fill_eq]

/-- Whatever outline of the template is known, filling is the run over it. -/
theorem outcome_fill_of_isOf {template : String} {outline : Outline}
    (isOf : outline.IsOf template.toList) :
    (style.fill template arguments).outcome = outline.run (style.replaced arguments) := by
  rw [isOf.unique (Outline.isOf_ofSegments template.toList)]
  exact style.outcome_fill arguments template

/-- Different occurrences of a text do not overlap, so it has exactly one outline, and filling a
template is settled by its outline: if each placeholder has a replacement, literal text is copied
and each placeholder gives way to its own; else the leftmost failure is the result. -/
theorem fill_follows_outline :
    (∀ (cs : List Char) (s t : Span), Template.IsOccurrence cs s → Template.IsOccurrence cs t →
      s ≠ t → s.stop ≤ t.start ∨ t.stop ≤ s.start) ∧
    (∀ cs : List Char, ∃ outline : Outline, outline.IsOf cs ∧
      ∀ other : Outline, other.IsOf cs → other = outline) ∧
    ∀ (template : String) (outline : Outline), outline.IsOf template.toList →
      ∀ (style : Style) (arguments : List Argument),
        (∀ texts : String → String,
          (∀ placeholder ∈ outline.placeholders,
            (style.replace placeholder arguments).run.value = .ok (texts placeholder)) →
          (style.fill template arguments).run.value = .ok (outline.filled texts)) ∧
        ∀ (before after : List String) (placeholder : String) (failure : Failure),
          outline.placeholders = before ++ placeholder :: after →
          (∀ other ∈ before, ∃ text, (style.replace other arguments).run.value = .ok text) →
          (style.replace placeholder arguments).run.value = .error failure →
          (style.fill template arguments).run.value = .error failure := by
  refine ⟨fun cs s t hs ht different => hs.disjoint ht different, fun cs => ?_, ?_⟩
  · have read := Outline.isOf_ofSegments cs
    exact ⟨_, read, fun other isOf => isOf.unique read⟩
  · intro template outline isOf style arguments
    have filled : (style.fill template arguments).run.value =
        outline.run (style.replaced arguments) := by
      rw [isOf.unique (Outline.isOf_ofSegments template.toList)]
      exact style.outcome_fill arguments template
    rw [filled]
    constructor
    · intro texts good
      exact Outline.run_eq_ok good
    · intro before after placeholder failure shape good bad
      exact Outline.run_eq_error shape good bad

end Style

end CaseLabel
