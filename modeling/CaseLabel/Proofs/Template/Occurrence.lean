import CaseLabel.Proofs.Placeholder.Grammar
import CaseLabel.Template

/-!
# Occurrences: the parts of a text that are placeholders

An occurrence is a span whose part of the text is exactly one placeholder, wherever it lies. It is
stated without reading the text from the left. Main statements:

* different occurrences do not overlap (`IsOccurrence.disjoint`): a placeholder cannot start inside
  another one, and where one starts its end is settled;
* a character where no placeholder starts only shifts the occurrences (`isOccurrence_cons_iff`);
* a placeholder at the head is one occurrence and shifts the others (`isOccurrence_append_iff`).
-/

namespace CaseLabel

namespace Template

/-- The span covers exactly one placeholder of the text. -/
def IsOccurrence (cs : List Char) (span : Span) : Prop :=
  ∃ part, span.slice? cs = some part ∧ Placeholder.isWritten (String.ofList part) = true

theorem isOccurrence_iff {cs : List Char} {span : Span} :
    IsOccurrence cs span ↔
      ∃ (mention : Mention) (before after : List Char), mention.WellFormed ∧
        cs = before ++ mention.chars ++ after ∧
        span = ⟨before.length, before.length + mention.chars.length⟩ := by
  constructor
  · intro ⟨part, cut, written⟩
    obtain ⟨mention, wellFormed, same⟩ := Placeholder.isWritten_iff.mp written
    obtain ⟨before, after, whole, ends⟩ := Span.slice?_eq_some_iff.mp cut
    rw [String.toList_ofList] at same
    subst same
    exact ⟨mention, before, after, wellFormed, whole, ends⟩
  · intro ⟨mention, before, after, wellFormed, whole, ends⟩
    refine ⟨mention.chars, Span.slice?_eq_some_iff.mpr ⟨before, after, whole, ends⟩, ?_⟩
    exact Placeholder.isWritten_iff.mpr ⟨mention, wellFormed, String.toList_ofList⟩

/-- Placeholders that start at the same place are the same. -/
theorem mention_unique {mention other : Mention} {after after' : List Char}
    (h : mention.WellFormed) (h' : other.WellFormed)
    (same : mention.chars ++ after = other.chars ++ after') : mention = other ∧ after = after' := by
  have found := Mention.atHead?_append h after
  rw [same, Mention.atHead?_append h' after'] at found
  cases found
  exact ⟨rfl, rfl⟩

theorem IsOccurrence.start_lt_stop {cs : List Char} {span : Span} (h : IsOccurrence cs span) :
    span.start < span.stop := by
  obtain ⟨mention, before, after, -, -, rfl⟩ := isOccurrence_iff.mp h
  have := mention.length_chars_pos
  dsimp only
  omega

theorem IsOccurrence.stop_le_length {cs : List Char} {span : Span} (h : IsOccurrence cs span) :
    span.stop ≤ cs.length := by
  obtain ⟨mention, before, after, -, rfl, rfl⟩ := isOccurrence_iff.mp h
  simp only [List.length_append]
  omega

theorem IsOccurrence.eq_of_start_eq {cs : List Char} {s t : Span} (hs : IsOccurrence cs s)
    (ht : IsOccurrence cs t) (starts : s.start = t.start) : s = t := by
  obtain ⟨mention, before, after, wellFormed, whole, rfl⟩ := isOccurrence_iff.mp hs
  obtain ⟨other, before', after', wellFormed', whole', rfl⟩ := isOccurrence_iff.mp ht
  rw [whole, List.append_assoc, List.append_assoc] at whole'
  obtain ⟨rfl, rest⟩ := List.append_inj whole' starts
  rw [(mention_unique wellFormed wellFormed' rest).1]

/-- No placeholder starts inside another one: there is no percent sign. -/
theorem IsOccurrence.stop_le_of_start_lt {cs : List Char} {s t : Span} (hs : IsOccurrence cs s)
    (ht : IsOccurrence cs t) (later : s.start < t.start) : s.stop ≤ t.start := by
  obtain ⟨mention, before, after, wellFormed, whole, rfl⟩ := isOccurrence_iff.mp hs
  obtain ⟨other, before', after', -, whole', rfl⟩ := isOccurrence_iff.mp ht
  dsimp only at later ⊢
  refine Nat.le_of_not_lt fun inside => Mention.percent_not_mem_tail wellFormed ?_
  have percent : cs[before'.length]? = some '%' := by simp [whole', Mention.chars]
  obtain ⟨distance, position⟩ := Nat.exists_eq_add_of_lt later
  have within : distance < mention.chars.tail.length := by
    rw [List.length_tail]
    omega
  have found : mention.chars.tail[distance]? = some '%' := by
    rw [List.getElem?_tail, ← percent, whole, position, Nat.add_assoc, List.append_assoc,
      List.getElem?_append_right (by omega), Nat.add_sub_cancel_left,
      List.getElem?_append_left (by omega)]
  exact List.mem_of_getElem? found

/-- Different occurrences do not overlap. -/
theorem IsOccurrence.disjoint {cs : List Char} {s t : Span} (hs : IsOccurrence cs s)
    (ht : IsOccurrence cs t) (different : s ≠ t) : s.stop ≤ t.start ∨ t.stop ≤ s.start := by
  rcases Nat.lt_trichotomy s.start t.start with before | same | after
  · exact .inl (hs.stop_le_of_start_lt ht before)
  · exact absurd (hs.eq_of_start_eq ht same) different
  · exact .inr (ht.stop_le_of_start_lt hs after)

/-- Text in front shifts the occurrences behind it. -/
theorem isOccurrence_shift_iff (before : List Char) {cs : List Char} {span : Span} :
    IsOccurrence (before ++ cs) (span.shift before.length) ↔ IsOccurrence cs span := by
  unfold IsOccurrence
  rw [Span.slice?_shift]

/-- Text behind an occurrence does not matter. -/
theorem isOccurrence_append_right_iff (behind : List Char) {cs : List Char} {span : Span}
    (within : span.stop ≤ cs.length) :
    IsOccurrence (cs ++ behind) span ↔ IsOccurrence cs span := by
  unfold IsOccurrence
  rw [Span.slice?_append behind within]

/-- An occurrence that starts behind the text in front is one of what follows. -/
theorem IsOccurrence.exists_shift (before : List Char) {cs : List Char} {span : Span}
    (h : IsOccurrence (before ++ cs) span) (behind : before.length ≤ span.start) :
    ∃ inner, IsOccurrence cs inner ∧ span = inner.shift before.length := by
  have nonempty := h.start_lt_stop
  have same : span = Span.shift before.length
      ⟨span.start - before.length, span.stop - before.length⟩ := by
    obtain ⟨start, stop⟩ := span
    simp only [Span.shift, Span.mk.injEq]
    dsimp only at behind nonempty
    omega
  rw [same] at h
  exact ⟨_, (isOccurrence_shift_iff before).mp h, same⟩

theorem not_isOccurrence_nil (span : Span) : ¬ IsOccurrence [] span := by
  intro h
  obtain ⟨mention, before, after, -, whole, -⟩ := isOccurrence_iff.mp h
  have := congrArg List.length whole
  have := mention.length_chars_pos
  simp only [List.length_nil, List.length_append] at *
  omega

/-- Where no placeholder starts, a character only shifts the occurrences behind it. -/
theorem isOccurrence_cons_iff {c : Char} {cs : List Char} (absent : Mention.atHead? (c :: cs) = none)
    {span : Span} :
    IsOccurrence (c :: cs) span ↔ ∃ inner, IsOccurrence cs inner ∧ span = inner.shift 1 := by
  constructor
  · intro h
    refine IsOccurrence.exists_shift [c] h ?_
    obtain ⟨mention, before, after, wellFormed, whole, rfl⟩ := isOccurrence_iff.mp h
    cases before with
    | nil =>
      rw [whole, List.nil_append, Mention.atHead?_append wellFormed] at absent
      cases absent
    | cons _ before => simp
  · intro ⟨inner, h, same⟩
    rw [same]
    exact (isOccurrence_shift_iff [c]).mpr h

/-- A placeholder at the head is an occurrence, and the others follow it. -/
theorem isOccurrence_append_iff {mention : Mention} (wellFormed : mention.WellFormed)
    {cs : List Char} {span : Span} :
    IsOccurrence (mention.chars ++ cs) span ↔
      span = ⟨0, mention.chars.length⟩ ∨
        ∃ inner, IsOccurrence cs inner ∧ span = inner.shift mention.chars.length := by
  have first : IsOccurrence (mention.chars ++ cs) ⟨0, mention.chars.length⟩ :=
    isOccurrence_iff.mpr ⟨mention, [], cs, wellFormed, by simp, by simp⟩
  constructor
  · intro h
    by_cases same : span = ⟨0, mention.chars.length⟩
    · exact .inl same
    · refine .inr (IsOccurrence.exists_shift _ h ?_)
      have nonempty := h.start_lt_stop
      rcases h.disjoint first same with before | behind
      · simp at before
        omega
      · exact behind
  · intro h
    rcases h with rfl | ⟨inner, h, rfl⟩
    · exact first
    · exact (isOccurrence_shift_iff _).mpr h

end Template

end CaseLabel
