import CaseLabel.Proofs.Template.Replacement
import CaseLabel.Proofs.Template.Variation

/-!
# Respelling: placeholders written in another way

A placeholder can be written with the other letter, and one that is read can be written as its
canonical text. Neither has a part in what it is replaced by; only a failure shows how its subscript
was written. Main statements:

* a placeholder stays one (`isWritten_of_sameButLetter`, `isWritten_of_sameOrCanonical`);
* it is replaced by the same text, or fails with the same bounds
  (`replaced_of_sameButLetter`, `sameUpTo_replaced`);
* so any of the placeholders of a template can be respelled, whatever their lengths are
  (`fill_respelled`).
-/

namespace CaseLabel

/-- The failure is the same, but a subscript out of range may be named by its canonical text. -/
def Failure.SameOrCanonical (failure other : Failure) : Prop :=
  other = failure ∨
    ∃ (fault : RangeFault) (subscript : Subscript),
      Subscript.parse fault.subscript = .ok subscript ∧ failure = .outOfRange fault ∧
        other = .outOfRange ⟨subscript.text, fault.start, fault.stop, fault.count⟩

namespace Placeholder

/-- The same text stands between the brackets; the letters are any. -/
def SameButLetter (first second : String) : Prop :=
  ∃ (letter other : Letter) (text : String),
    first = bracketed letter text ∧ second = bracketed other text

/-- The text is the same, or the canonical one if it is read. -/
def SameOrCanonical (first second : String) : Prop :=
  second = first ∨ ∃ placeholder, parse first = .ok placeholder ∧ second = placeholder.text

theorem isWritten_bracketed_iff {letter : Letter} {text : String} :
    isWritten (bracketed letter text) = true ↔
      ∃ s : Subscript.Spelling, s.chars = text.toList := by
  rw [isWritten_iff, toList_bracketed]
  constructor
  · intro ⟨mention, ⟨s, spelled⟩, same⟩
    rw [← Mention.chars_inj.mp same] at spelled
    exact ⟨s, spelled⟩
  · intro ⟨s, spelled⟩
    exact ⟨⟨letter, text.toList⟩, ⟨s, spelled⟩, rfl⟩

theorem isWritten_of_sameButLetter {first second : String} (same : SameButLetter first second)
    (written : isWritten first = true) : isWritten second = true := by
  obtain ⟨letter, other, text, rfl, rfl⟩ := same
  exact isWritten_bracketed_iff.mpr (isWritten_bracketed_iff.mp written)

theorem text_eq_bracketed (placeholder : Placeholder) :
    placeholder.text = bracketed placeholder.letter placeholder.subscript.text := rfl

theorem isWritten_text (placeholder : Placeholder) : isWritten placeholder.text = true := by
  obtain ⟨s, spelled, -⟩ :=
    Subscript.parse_eq_ok_iff.mp (Subscript.parse_text placeholder.subscript)
  exact isWritten_bracketed_iff.mpr ⟨s, spelled⟩

theorem isWritten_of_sameOrCanonical {first second : String} (same : SameOrCanonical first second)
    (written : isWritten first = true) : isWritten second = true := by
  rcases same with rfl | ⟨placeholder, -, rfl⟩
  · exact written
  · exact placeholder.isWritten_text

end Placeholder

namespace Style

variable (style : Style) (arguments : List Argument) {first second : String}

theorem replaced_of_sameButLetter (same : Placeholder.SameButLetter first second)
    (written : Placeholder.isWritten first = true) :
    style.replaced arguments second = style.replaced arguments first := by
  obtain ⟨letter, other, text, rfl, rfl⟩ := same
  obtain ⟨s, spelled⟩ := Placeholder.isWritten_bracketed_iff.mp written
  rw [style.replaced_spelled spelled, style.replaced_spelled spelled]

/-- The canonical text of a placeholder selects the same, or is refused with the same bounds. -/
theorem sameUpTo_replaced_text {placeholder : Placeholder}
    (read : Placeholder.parse first = .ok placeholder) :
    Outline.SameUpTo Failure.SameOrCanonical (style.replaced arguments first)
      (style.replaced arguments placeholder.text) := by
  obtain ⟨s, whole⟩ := Placeholder.eq_bracketed_of_parse read
  rw [whole, Placeholder.parse_bracketed_eq_ok_iff] at read
  have canonical := Subscript.parse_text placeholder.subscript
  rw [whole, placeholder.text_eq_bracketed]
  rcases placeholder.subscript.granted_or_refused arguments.length with ⟨span, granted⟩ | refused
  · rw [style.replaced_of_granted read.2 (granted _), style.replaced_of_granted canonical (granted _)]
    exact .ok _
  · rw [style.replaced_of_refused read.2 (refused _), style.replaced_of_refused canonical (refused _)]
    exact .error (.inr ⟨⟨String.ofList s.chars, _, _, _⟩, _, read.2, rfl, rfl⟩)

theorem sameUpTo_replaced (same : Placeholder.SameOrCanonical first second) :
    Outline.SameUpTo Failure.SameOrCanonical (style.replaced arguments first)
      (style.replaced arguments second) := by
  rcases same with rfl | ⟨placeholder, read, rfl⟩
  · exact .refl (fun _ => .inl rfl) _
  · exact style.sameUpTo_replaced_text arguments read

/-- Placeholders that come to the same one by one can be put into a template. -/
theorem sameUpTo_fill {allowed : String → String → Prop} {similar : Failure → Failure → Prop}
    (keeps : ∀ first second, allowed first second → Placeholder.isWritten first = true →
      Placeholder.isWritten second = true)
    (each : ∀ first second, allowed first second → Placeholder.isWritten first = true →
      Outline.SameUpTo similar (style.replaced arguments first) (style.replaced arguments second))
    {template : String} {outline other : Outline} (isOf : outline.IsOf template.toList)
    (varies : outline.Varies allowed other) :
    other.IsOf other.chars ∧
      Outline.SameUpTo similar (style.fill template arguments).outcome
        (style.fill (String.ofList other.chars) arguments).outcome := by
  have otherIsOf := (varies.wellFormed keeps isOf.wellFormed).isOf
  refine ⟨otherIsOf, ?_⟩
  rw [← String.toList_ofList (l := other.chars)] at otherIsOf
  rw [style.outcome_fill_of_isOf _ isOf, style.outcome_fill_of_isOf _ otherIsOf]
  exact varies.run each isOf.wellFormed

/-- In any of the placeholders of a template the letter can be changed: the placeholders keep their
places among the literal text, no other is made, and the result is the same. Any that are read can
be written as their canonical text as well. Then the text is the same, and so is a failure, except
that one about bounds may name its subscript by its canonical text. -/
theorem fill_respelled {template : String} {outline : Outline} (isOf : outline.IsOf template.toList) :
    (∀ other : Outline, outline.Varies Placeholder.SameButLetter other →
      other.IsOf other.chars ∧
      (style.fill (String.ofList other.chars) arguments).run.value =
        (style.fill template arguments).run.value) ∧
    ∀ other : Outline, outline.Varies Placeholder.SameOrCanonical other →
      other.IsOf other.chars ∧
      (∀ text, (style.fill template arguments).run.value = .ok text →
        (style.fill (String.ofList other.chars) arguments).run.value = .ok text) ∧
      ∀ failure, (style.fill template arguments).run.value = .error failure →
        ∃ changed, (style.fill (String.ofList other.chars) arguments).run.value = .error changed ∧
          failure.SameOrCanonical changed := by
  constructor
  · have each : ∀ first second, Placeholder.SameButLetter first second →
        Placeholder.isWritten first = true →
        Outline.SameUpTo Eq (style.replaced arguments first) (style.replaced arguments second) := by
      intro first second same written
      rw [style.replaced_of_sameButLetter arguments same written]
      exact .refl (fun _ => rfl) _
    intro other varies
    obtain ⟨otherIsOf, same⟩ := style.sameUpTo_fill arguments
      (fun _ _ => Placeholder.isWritten_of_sameButLetter) each isOf varies
    exact ⟨otherIsOf, same.eq.symm⟩
  · intro other varies
    obtain ⟨otherIsOf, same⟩ := style.sameUpTo_fill arguments
      (fun _ _ => Placeholder.isWritten_of_sameOrCanonical)
      (fun _ _ allowed _ => style.sameUpTo_replaced arguments allowed) isOf varies
    refine ⟨otherIsOf, ?_, ?_⟩
    · intro text done
      exact same.eq_ok done
    · intro failure failed
      exact same.exists_error failed

/-- A spare zero stays in a failure when a letter is changed; the canonical text drops it. -/
theorem fill_respelled_spare_zero :
    (Outline.placed [] "%a[-0]".toList
      (.placed ['-'] "%a[07]".toList (.literal []))).IsOf "%a[-0]-%a[07]".toList ∧
    (standard.fill "%a[-0]-%a[07]" [.null]).run.value = .error (.outOfRange ⟨"07", 7, 8, 1⟩) ∧
    (standard.fill "%p[-0]-%a[07]" [.null]).run.value = .error (.outOfRange ⟨"07", 7, 8, 1⟩) ∧
    ∃ changed, (standard.fill "%a[0]-%a[7]" [.null]).run.value = .error changed ∧
      (Failure.outOfRange ⟨"07", 7, 8, 1⟩).SameOrCanonical changed := by
  have read : Template.segments "%a[-0]-%a[07]".toList =
      [.mention ⟨.argument, ['-', '0']⟩, .char '-', .mention ⟨.argument, ['0', '7']⟩] := by
    decide +kernel
  have isOf := Outline.isOf_ofSegments "%a[-0]-%a[07]".toList
  rw [read] at isOf
  have failed : (standard.fill "%a[-0]-%a[07]" [.null]).run.value =
      .error (.outOfRange ⟨"07", 7, 8, 1⟩) := standard.outcome_fill_of_segments _ read
  have respelled := fill_respelled standard [.null] isOf
  refine ⟨isOf, failed, ?_, ?_⟩
  · have letters := respelled.1
      (.placed [] "%p[-0]".toList (.placed ['-'] "%a[07]".toList (.literal [])))
      (.placed _ ⟨.argument, .parameter, "-0", rfl, rfl⟩
        (.placed _ ⟨.argument, .argument, "07", rfl, rfl⟩ (.literal _)))
    exact letters.2.trans failed
  · have canonical := respelled.2
      (.placed [] "%a[0]".toList (.placed ['-'] "%a[7]".toList (.literal [])))
      (.placed _ (.inr ⟨⟨.argument, .single ⟨0, by decide, by decide⟩⟩, rfl, rfl⟩)
        (.placed _ (.inr ⟨⟨.argument, .single ⟨7, by decide, by decide⟩⟩, rfl, rfl⟩) (.literal _)))
    exact canonical.2.2 _ failed

end Style

end CaseLabel
