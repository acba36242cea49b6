import CaseLabel.Proofs.Placeholder.Bracketed
import CaseLabel.Proofs.Template.Filling
import CaseLabel.Proofs.Template.Segments
import CaseLabel.Proofs.Template.Selection

/-!
# Recognition: which texts count as one placeholder

Whether a text is exactly one placeholder can be asked of the check, of the reader of placeholders
and of a replacement, which refuses any other text. It can be asked of a search as well: the
leftmost placeholder of the text is all of it. Main statements:

* the search finds the leftmost occurrence (`leftmost?_eq_some_iff`), and a text is a placeholder
  exactly if nothing stands around what is found (`ofText?_eq_some_iff_leftmost?`);
* reading and replacing refuse exactly the texts that are no placeholder
  (`parse_eq_notPlaceholder_iff`, `replaced_eq_notPlaceholder_iff`);
* filling a placeholder is replacing it (`outcome_fill_of_isSpelled`), and a template is never
  refused as no placeholder (`outcome_fill_ne_notPlaceholder`).
-/

namespace CaseLabel

namespace Mention

/-- The leftmost placeholder of a text, with what stands before and behind it. -/
def leftmost? : List Char → Option (List Char × Mention × List Char)
  | [] => none
  | c :: cs =>
    match atHead? (c :: cs) with
    | some (mention, rest) => some ([], mention, rest)
    | none => (leftmost? cs).map fun (before, mention, after) => (c :: before, mention, after)

theorem eq_of_leftmost? {cs before after : List Char} {mention : Mention}
    (h : leftmost? cs = some (before, mention, after)) :
    mention.WellFormed ∧ cs = before ++ mention.chars ++ after := by
  induction cs generalizing before with
  | nil => cases h
  | cons c cs ih =>
    unfold leftmost? at h
    split at h
    next found =>
      cases h
      exact atHead?_eq_some_iff.mp found
    next =>
      obtain ⟨⟨front, other, rest⟩, later, same⟩ := Option.map_eq_some_iff.mp h
      cases same
      obtain ⟨wellFormed, whole⟩ := ih later
      exact ⟨wellFormed, by rw [whole, List.cons_append, List.cons_append]⟩

/-- No occurrence starts before the one that is found. -/
theorem length_le_of_leftmost? {cs before after : List Char} {mention : Mention}
    (h : leftmost? cs = some (before, mention, after)) {span : Span}
    (occurs : Template.IsOccurrence cs span) : before.length ≤ span.start := by
  induction cs generalizing before span with
  | nil => cases h
  | cons c cs ih =>
    unfold leftmost? at h
    split at h
    next =>
      cases h
      exact Nat.zero_le _
    next absent =>
      obtain ⟨⟨front, other, rest⟩, later, same⟩ := Option.map_eq_some_iff.mp h
      cases same
      obtain ⟨inner, occursLater, rfl⟩ := (Template.isOccurrence_cons_iff absent).mp occurs
      have behind := ih later occursLater
      simp only [Span.shift, List.length_cons]
      omega

theorem exists_leftmost? {cs : List Char} {span : Span} (occurs : Template.IsOccurrence cs span) :
    ∃ before mention after, leftmost? cs = some (before, mention, after) := by
  induction cs generalizing span with
  | nil => exact absurd occurs (Template.not_isOccurrence_nil span)
  | cons c cs ih =>
    cases found : atHead? (c :: cs) with
    | some taken => exact ⟨[], taken.1, taken.2, by simp [leftmost?, found]⟩
    | none =>
      obtain ⟨inner, later, -⟩ := (Template.isOccurrence_cons_iff found).mp occurs
      obtain ⟨before, mention, after, same⟩ := ih later
      exact ⟨c :: before, mention, after, by simp [leftmost?, found, same]⟩

/-- The search finds the leftmost occurrence. -/
theorem leftmost?_eq_some_iff {cs before after : List Char} {mention : Mention} :
    leftmost? cs = some (before, mention, after) ↔
      mention.WellFormed ∧ cs = before ++ mention.chars ++ after ∧
        ∀ span, Template.IsOccurrence cs span → before.length ≤ span.start := by
  constructor
  · intro h
    obtain ⟨wellFormed, whole⟩ := eq_of_leftmost? h
    exact ⟨wellFormed, whole, fun span occurs => length_le_of_leftmost? h occurs⟩
  · intro ⟨wellFormed, whole, first⟩
    have occurs : Template.IsOccurrence cs
        ⟨before.length, before.length + mention.chars.length⟩ :=
      Template.isOccurrence_iff.mpr ⟨mention, before, after, wellFormed, whole, rfl⟩
    obtain ⟨front, other, rest, found⟩ := exists_leftmost? occurs
    obtain ⟨wellFormed', whole'⟩ := eq_of_leftmost? found
    have lengths : before.length = front.length := by
      have early := length_le_of_leftmost? found occurs
      have late := first _ (Template.isOccurrence_iff.mpr
        ⟨other, front, rest, wellFormed', whole', rfl⟩)
      exact Nat.le_antisymm late early
    have same := whole.symm.trans whole'
    rw [List.append_assoc, List.append_assoc] at same
    obtain ⟨rfl, behind⟩ := List.append_inj same lengths
    obtain ⟨rfl, rfl⟩ := Template.mention_unique wellFormed wellFormed' behind
    exact found

/-- A text is a placeholder exactly if its leftmost placeholder is all of it. -/
theorem ofText?_eq_some_iff_leftmost? {text : String} {mention : Mention} :
    ofText? text = some mention ↔ leftmost? text.toList = some ([], mention, []) := by
  rw [ofText?_eq_some_iff, leftmost?_eq_some_iff]
  simp

end Mention

namespace Outline

/-- What reading from the left takes for a placeholder is one. -/
theorem isWritten_of_mem {cs : List Char} {placeholder : String}
    (h : placeholder ∈ (ofSegments (Template.segments cs)).placeholders) :
    Placeholder.isWritten placeholder = true := by
  rw [placeholders_ofSegments, List.mem_map] at h
  obtain ⟨mention, member, rfl⟩ := h
  obtain ⟨segment, read, same⟩ := List.mem_filterMap.mp member
  have shape : segment = .mention mention := by
    cases segment with
    | char c => cases same
    | mention other =>
      cases same
      rfl
  subst shape
  exact Placeholder.isWritten_iff.mpr
    ⟨mention, Style.wellFormed_of_mem_segments read, String.toList_ofList⟩

end Outline

namespace Placeholder

/-- A percent sign, a letter and, between brackets, a numeral or two numerals around two dots. -/
def IsSpelled (text : String) : Prop :=
  ∃ (letter : Letter) (s : Subscript.Spelling), text = bracketed letter (String.ofList s.chars)

theorem isWritten_iff_isSpelled {text : String} : isWritten text = true ↔ IsSpelled text := by
  rw [isWritten_iff]
  constructor
  · intro ⟨mention, ⟨s, spelled⟩, whole⟩
    refine ⟨mention.letter, s, String.toList_injective ?_⟩
    rw [whole, toList_bracketed, String.toList_ofList, spelled]
  · intro ⟨letter, s, same⟩
    refine ⟨⟨letter, s.chars⟩, ⟨s, rfl⟩, ?_⟩
    rw [same, toList_bracketed, String.toList_ofList]

theorem ofText?_eq_none_iff {text : String} : Mention.ofText? text = none ↔ ¬ IsSpelled text := by
  rw [← isWritten_iff_isSpelled, isWritten, Bool.not_eq_true, Option.isSome_eq_false_iff,
    Option.isNone_iff_eq_none]

/-- The reader refuses exactly the texts that are no placeholder, and names them. -/
theorem parse_eq_notPlaceholder_iff {text shown : String} :
    parse text = .error (.notPlaceholder shown) ↔ shown = text ∧ ¬ IsSpelled text := by
  rw [← ofText?_eq_none_iff, parse]
  cases Mention.ofText? text with
  | none => simp [eq_comm]
  | some mention =>
    have read : mention.placeholder ≠ .error (.notPlaceholder shown) := by
      intro h
      cases Mention.eq_malformed_of_placeholder h
    simp [read]

end Placeholder

namespace Style

variable {style : Style} {arguments : List Argument}

theorem outcome_replacement_ne_notPlaceholder (mention : Mention) (shown : String) :
    (style.replacement arguments mention).outcome ≠ .error (.notPlaceholder shown) := by
  rw [outcome_replacement]
  intro refused
  cases chosen : mention.select arguments with
  | error failure =>
    rw [chosen] at refused
    cases refused
    rcases Mention.select_eq_error chosen with malformed | ⟨fault, outside⟩
    · cases malformed
    · cases outside
  | ok choice =>
    rw [chosen] at refused
    cases refused

/-- A replacement is refused exactly for the texts that are no placeholder, and names them. -/
theorem replaced_eq_notPlaceholder_iff {text shown : String} :
    style.replaced arguments text = .error (.notPlaceholder shown) ↔
      shown = text ∧ ¬ Placeholder.IsSpelled text := by
  rw [← Placeholder.ofText?_eq_none_iff, replaced, replace]
  cases Mention.ofText? text with
  | none => simp [eq_comm]
  | some mention => simp [outcome_replacement_ne_notPlaceholder]

/-- Filling a template that is one placeholder is replacing it. -/
theorem outcome_fill_of_isSpelled {text : String} (spelled : Placeholder.IsSpelled text) :
    (style.fill text arguments).outcome = style.replaced arguments text := by
  rw [← Placeholder.isWritten_iff_isSpelled] at spelled
  obtain ⟨mention, wellFormed, whole⟩ := Placeholder.isWritten_iff.mp spelled
  have alone := Template.segments_chars_append wellFormed []
  rw [List.append_nil, ← whole, Template.segments] at alone
  rw [outcome_fill, alone, Outline.ofSegments, Outline.ofSegments, Outline.run, ← whole,
    String.ofList_toList]
  cases style.replaced arguments text with
  | error failure => rfl
  | ok new => simp [Outline.run, bind, Except.bind]

/-- A template with any text in it is never refused as no placeholder. -/
theorem outcome_fill_ne_notPlaceholder (template shown : String) :
    (style.fill template arguments).outcome ≠ .error (.notPlaceholder shown) := by
  rw [outcome_fill]
  intro h
  obtain ⟨placeholder, member, refused⟩ := Outline.exists_of_run_eq_error h
  have unspelled := (replaced_eq_notPlaceholder_iff.mp refused).2
  exact unspelled (Placeholder.isWritten_iff_isSpelled.mp (Outline.isWritten_of_mem member))

/-- A text that is spelled as a placeholder passes the check, is found as a whole by the search and
is refused neither by the reader nor, under any style and for any arguments, by a replacement; any
other text fails all of these. Filling such a text is replacing it, and no template at all is
refused when it is filled. -/
theorem recognition_agrees (text : String) :
    (Placeholder.isWritten text = true ↔ Placeholder.IsSpelled text) ∧
    ((∃ mention, Mention.leftmost? text.toList = some ([], mention, [])) ↔
      Placeholder.IsSpelled text) ∧
    ((∀ shown, Placeholder.parse text ≠ .error (.notPlaceholder shown)) ↔
      Placeholder.IsSpelled text) ∧
    ((∀ (style : Style) (arguments : List Argument) (shown : String),
        (style.replace text arguments).run.value ≠ .error (.notPlaceholder shown)) ↔
      Placeholder.IsSpelled text) ∧
    (¬ Placeholder.IsSpelled text →
      Placeholder.parse text = .error (.notPlaceholder text) ∧
      ∀ (style : Style) (arguments : List Argument),
        (style.replace text arguments).run.value = .error (.notPlaceholder text)) ∧
    (Placeholder.IsSpelled text → ∀ (style : Style) (arguments : List Argument),
      (style.fill text arguments).run.value = (style.replace text arguments).run.value) ∧
    ∀ (style : Style) (arguments : List Argument) (shown : String),
      (style.fill text arguments).run.value ≠ .error (.notPlaceholder shown) := by
  refine ⟨Placeholder.isWritten_iff_isSpelled, ?_, ?_, ?_, ?_, ?_, ?_⟩
  · rw [← Placeholder.isWritten_iff_isSpelled, Placeholder.isWritten, Option.isSome_iff_exists]
    exact exists_congr fun _ => Mention.ofText?_eq_some_iff_leftmost?.symm
  · simp [Placeholder.parse_eq_notPlaceholder_iff]
  · change (∀ style arguments shown,
      Style.replaced style arguments text ≠ .error (.notPlaceholder shown)) ↔ _
    simp [replaced_eq_notPlaceholder_iff]
  · intro unspelled
    refine ⟨Placeholder.parse_eq_notPlaceholder_iff.mpr ⟨rfl, unspelled⟩, ?_⟩
    intro style arguments
    exact replaced_eq_notPlaceholder_iff.mpr ⟨rfl, unspelled⟩
  · intro spelled style arguments
    exact outcome_fill_of_isSpelled spelled
  · intro style arguments shown
    exact outcome_fill_ne_notPlaceholder text shown

end Style

end CaseLabel
