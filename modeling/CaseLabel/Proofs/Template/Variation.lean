import CaseLabel.Proofs.Template.Filling

/-!
# Variation: outlines that differ in their placeholders only

Of the literal text of an outline only one thing matters to where the placeholders of the whole
lie: that no occurrence is in it. So placeholders can give way to others one by one, each of its own
length, and nothing else is read differently. Main statements:

* the outline of a text is well formed (`IsOf.wellFormed`), and a well-formed outline is that of the
  text it makes up (`WellFormed.isOf`);
* it stays well formed when other placeholders stand in it (`Varies.wellFormed`);
* if each placeholder and the other one come to the same up to their failures, so do the runs
  (`Varies.run`).
-/

namespace CaseLabel

namespace Outline

/-- No occurrence lies in literal text, and between stands nothing but placeholders. -/
def WellFormed : Outline → Prop
  | .literal text => ∀ span, ¬ Template.IsOccurrence text span
  | .placed text placeholder rest =>
    (∀ span, ¬ Template.IsOccurrence text span) ∧
      Placeholder.isWritten (String.ofList placeholder) = true ∧ rest.WellFormed

section IsOf

variable {outline : Outline} {cs : List Char}

theorem IsOf.isWritten_first {text placeholder : List Char} {rest : Outline}
    (h : (placed text placeholder rest).IsOf cs) :
    Placeholder.isWritten (String.ofList placeholder) = true := by
  obtain ⟨part, cut, written⟩ := h.isOccurrence_first
  have whole : Span.slice? ⟨text.length, text.length + placeholder.length⟩ cs = some placeholder :=
    Span.slice?_eq_some_iff.mpr ⟨text, rest.chars, h.chars_eq.symm, rfl⟩
  rw [whole, Option.some.injEq] at cut
  rw [cut]
  exact written

/-- An occurrence in the text in front would start before the leftmost one. -/
theorem IsOf.not_isOccurrence_front {text placeholder : List Char} {rest : Outline}
    (h : (placed text placeholder rest).IsOf cs) (span : Span) :
    ¬ Template.IsOccurrence text span := by
  intro occurs
  have nonempty := occurs.start_lt_stop
  have within := occurs.stop_le_length
  have whole : Template.IsOccurrence cs span := by
    rw [← h.chars_eq, chars, List.append_assoc]
    exact (Template.isOccurrence_append_right_iff _ within).mpr occurs
  have first := h.length_le_start whole
  omega

theorem IsOf.wellFormed (h : outline.IsOf cs) : outline.WellFormed := by
  induction outline generalizing cs with
  | literal text =>
    intro span occurs
    have whole : text = cs := h.chars_eq
    have member := (h.mem_spans_iff span).mpr (whole ▸ occurs)
    simp [spans] at member
  | placed text placeholder rest ih =>
    exact ⟨h.not_isOccurrence_front, h.isWritten_first, ih h.behind_first⟩

/-- The placeholders of a well-formed outline are all occurrences of the text it makes up: any
other would lie apart from the first one, in the text before it or among the rest. -/
theorem WellFormed.isOf (h : outline.WellFormed) : outline.IsOf outline.chars := by
  induction outline with
  | literal text =>
    refine ⟨rfl, fun span => ?_⟩
    simpa [spans, chars] using h span
  | placed text placeholder rest ih =>
    obtain ⟨free, written, later⟩ := h
    have first : Template.IsOccurrence (text ++ placeholder ++ rest.chars)
        ⟨text.length, text.length + placeholder.length⟩ :=
      ⟨placeholder, Span.slice?_eq_some_iff.mpr ⟨text, rest.chars, rfl, rfl⟩, written⟩
    refine ⟨rfl, fun span => ?_⟩
    rw [spans, List.mem_cons, List.mem_map, chars]
    constructor
    · intro member
      rcases member with rfl | ⟨inner, member, rfl⟩
      · exact first
      · exact (Template.isOccurrence_shift_iff _).mpr (((ih later).mem_spans_iff inner).mp member)
    · intro occurs
      by_cases same : span = ⟨text.length, text.length + placeholder.length⟩
      · exact .inl same
      · rcases occurs.disjoint first same with before | behind
        · rw [List.append_assoc, Template.isOccurrence_append_right_iff _ before] at occurs
          exact absurd occurs (free span)
        · rw [← List.length_append] at behind
          obtain ⟨inner, occurs, shifted⟩ := occurs.exists_shift _ behind
          exact .inr ⟨inner, ((ih later).mem_spans_iff inner).mpr occurs, shifted.symm⟩

end IsOf

/-- The literal text is kept, and each placeholder gives way to one that is allowed for it. -/
inductive Varies (allowed : String → String → Prop) : Outline → Outline → Prop
  | literal (text : List Char) : Varies allowed (.literal text) (.literal text)
  | placed (text : List Char) {placeholder other : List Char} {rest rest' : Outline}
    (first : allowed (String.ofList placeholder) (String.ofList other))
    (later : Varies allowed rest rest') :
    Varies allowed (.placed text placeholder rest) (.placed text other rest')

/-- Both are the same text, or both fail and the failures are similar. -/
inductive SameUpTo (similar : Failure → Failure → Prop) :
    Except Failure String → Except Failure String → Prop
  | ok (text : String) : SameUpTo similar (.ok text) (.ok text)
  | error {failure other : Failure} (h : similar failure other) :
    SameUpTo similar (.error failure) (.error other)

section SameUpTo

variable {similar : Failure → Failure → Prop} {first second : Except Failure String}

theorem SameUpTo.refl (similar_refl : ∀ failure, similar failure failure)
    (result : Except Failure String) : SameUpTo similar result result := by
  cases result with
  | ok text => exact .ok text
  | error failure => exact .error (similar_refl failure)

theorem SameUpTo.eq (same : SameUpTo Eq first second) : first = second := by
  cases same with
  | ok text => rfl
  | error h => rw [h]

theorem SameUpTo.eq_ok {text : String} (same : SameUpTo similar first second)
    (done : first = .ok text) : second = .ok text := by
  cases same with
  | ok other => exact done
  | error h => cases done

theorem SameUpTo.exists_error {failure : Failure} (same : SameUpTo similar first second)
    (failed : first = .error failure) : ∃ other, second = .error other ∧ similar failure other := by
  cases same with
  | ok text => cases failed
  | error h =>
    cases failed
    exact ⟨_, rfl, h⟩

theorem SameUpTo.bind {next next' : String → Except Failure String}
    (front : SameUpTo similar first second)
    (behind : ∀ text, SameUpTo similar (next text) (next' text)) :
    SameUpTo similar (first >>= next) (second >>= next') := by
  cases front with
  | ok text => exact behind text
  | error h => exact .error h

end SameUpTo

section Varies

variable {allowed : String → String → Prop} {outline other : Outline}

theorem Varies.wellFormed
    (keeps : ∀ first second, allowed first second → Placeholder.isWritten first = true →
      Placeholder.isWritten second = true)
    (varies : outline.Varies allowed other) (h : outline.WellFormed) : other.WellFormed := by
  induction varies with
  | literal text => exact h
  | placed text first later ih => exact ⟨h.1, keeps _ _ first h.2.1, ih h.2.2⟩

/-- Placeholders that come to the same one by one give runs that come to the same. -/
theorem Varies.run {similar : Failure → Failure → Prop}
    {replaced : String → Except Failure String}
    (each : ∀ first second, allowed first second → Placeholder.isWritten first = true →
      SameUpTo similar (replaced first) (replaced second))
    (varies : outline.Varies allowed other) (h : outline.WellFormed) :
    SameUpTo similar (outline.run replaced) (other.run replaced) := by
  induction varies with
  | literal text => exact .ok _
  | placed text first later ih =>
    have front := each _ _ first h.2.1
    have behind := ih h.2.2
    exact front.bind fun new => behind.bind fun more => .ok _

end Varies

end Outline

end CaseLabel
