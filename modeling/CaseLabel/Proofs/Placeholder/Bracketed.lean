import CaseLabel.Proofs.Placeholder.Grammar

/-!
# Bracketed texts: the grammar of placeholders against the grammar of subscripts

A placeholder is recognised by a scanner from left to right, a subscript by a cut at two dots and
two numeral readers. `bracketed` puts any text behind a letter and between brackets, and the two
recognisers are compared on it:

* a spelled subscript is read as the subscript reader reads it (`parse_bracketed`);
* any other text between the brackets makes no placeholder (`parse_bracketed_of_not_spelled`);
* what is read as a placeholder is a bracketed spelling (`eq_bracketed_of_parse`), and it is the
  canonical text unless a numeral of it is redundant (`text_eq_bracketed_iff`).
-/

namespace CaseLabel

/-- The reader of subscripts accepts the spellings that denote one. -/
theorem Subscript.parse_eq_ok_iff {text : String} {subscript : Subscript} :
    parse text = .ok subscript ↔
      ∃ s : Spelling, s.chars = text.toList ∧ s.Denotes subscript := by
  rw [← read?_eq_some_iff, parse]
  split
  next read => simp [read]
  next read => simp [read]

theorem Subscript.parse_eq_error {text : String} (h : ¬ ∃ subscript, parse text = .ok subscript) :
    parse text = .error (.malformedSubscript text) := by
  unfold parse at h ⊢
  split at h
  next subscript _ => exact absurd ⟨subscript, rfl⟩ h
  next => rfl

/-- A spelled text is read as a subscript unless a numeral of it overflows. -/
theorem Subscript.exists_parse_iff {text : String} {s : Spelling} (spelled : s.chars = text.toList) :
    (∃ subscript, parse text = .ok subscript) ↔ ¬ s.Overflows := by
  rw [← s.exists_denotes_iff]
  apply exists_congr
  intro subscript
  rw [parse_eq_ok_iff]
  constructor
  · intro ⟨t, spelled', denotes⟩
    have same : t = s := Spelling.chars_injective (spelled'.trans spelled.symm)
    exact same ▸ denotes
  · intro denotes
    exact ⟨s, spelled, denotes⟩

namespace Placeholder

/-- A text between the brackets of a placeholder. -/
def bracketed (letter : Letter) (text : String) : String := letter.opening ++ "[" ++ text ++ "]"

theorem toList_bracketed (letter : Letter) (text : String) :
    (bracketed letter text).toList = (Mention.mk letter text.toList).chars := by
  simp [bracketed, Letter.opening, Mention.chars]

theorem parse_eq_of_ofText? {text : String} {mention : Mention}
    (h : Mention.ofText? text = some mention) : parse text = mention.placeholder := by
  simp [parse, h]

theorem parse_chars {mention : Mention} (wellFormed : mention.WellFormed) :
    parse (String.ofList mention.chars) = mention.placeholder :=
  parse_eq_of_ofText? (Mention.ofText?_chars wellFormed)

theorem ofText?_bracketed {letter : Letter} {text : String} {s : Subscript.Spelling}
    (spelled : s.chars = text.toList) :
    Mention.ofText? (bracketed letter text) = some ⟨letter, text.toList⟩ :=
  Mention.ofText?_eq_some_iff.mpr ⟨⟨s, spelled⟩, toList_bracketed letter text⟩

/-- Between brackets a spelling is read as the reader of subscripts reads it. -/
theorem parse_bracketed (letter : Letter) {text : String} {s : Subscript.Spelling}
    (spelled : s.chars = text.toList) :
    parse (bracketed letter text) =
      (Subscript.parse text).map fun subscript => ⟨letter, subscript⟩ := by
  rw [parse_eq_of_ofText? (ofText?_bracketed spelled), Mention.placeholder, Mention.subscriptText, String.ofList_toList]
  cases Subscript.parse text <;> rfl

theorem parse_bracketed_of_not_spelled (letter : Letter) {text : String}
    (h : ¬ ∃ s : Subscript.Spelling, s.chars = text.toList) :
    parse (bracketed letter text) = .error (.notPlaceholder (bracketed letter text)) := by
  have absent : Mention.ofText? (bracketed letter text) = none := by
    rw [Option.eq_none_iff_forall_ne_some]
    intro mention found
    obtain ⟨⟨s, spelled⟩, same⟩ := Mention.ofText?_eq_some_iff.mp found
    rw [toList_bracketed, Mention.chars_inj] at same
    subst same
    exact h ⟨s, spelled⟩
  simp [parse, absent]

theorem parse_bracketed_eq_ok_iff {letter : Letter} {text : String} {placeholder : Placeholder} :
    parse (bracketed letter text) = .ok placeholder ↔
      placeholder.letter = letter ∧ Subscript.parse text = .ok placeholder.subscript := by
  by_cases spelled : ∃ s : Subscript.Spelling, s.chars = text.toList
  · obtain ⟨s, spelled⟩ := spelled
    rw [parse_bracketed letter spelled]
    obtain ⟨letter', subscript⟩ := placeholder
    cases Subscript.parse text with
    | error failure => simp [Except.map]
    | ok read => simp [Except.map, eq_comm]
  · rw [parse_bracketed_of_not_spelled letter spelled]
    have unread : Subscript.parse text ≠ .ok placeholder.subscript := by
      intro read
      obtain ⟨s, same, -⟩ := Subscript.parse_eq_ok_iff.mp read
      exact spelled ⟨s, same⟩
    simp [unread]

theorem parse_bracketed_eq_malformed_iff {letter : Letter} {text : String} :
    parse (bracketed letter text) = .error (.malformedSubscript text) ↔
      ∃ s : Subscript.Spelling, s.chars = text.toList ∧ s.Overflows := by
  constructor
  · intro h
    by_cases spelled : ∃ s : Subscript.Spelling, s.chars = text.toList
    · obtain ⟨s, spelled⟩ := spelled
      rw [parse_bracketed letter spelled] at h
      refine ⟨s, spelled, Classical.byContradiction fun within => ?_⟩
      obtain ⟨subscript, read⟩ := (Subscript.exists_parse_iff spelled).mpr within
      simp [read, Except.map] at h
    · rw [parse_bracketed_of_not_spelled letter spelled] at h
      simp at h
  · intro ⟨s, spelled, overflows⟩
    have unread : ¬ ∃ subscript, Subscript.parse text = .ok subscript := fun read =>
      (Subscript.exists_parse_iff spelled).mp read overflows
    rw [parse_bracketed letter spelled, Subscript.parse_eq_error unread]
    rfl

theorem parse_bracketed_eq_notPlaceholder_iff {letter : Letter} {text : String} :
    parse (bracketed letter text) = .error (.notPlaceholder (bracketed letter text)) ↔
      ¬ ∃ s : Subscript.Spelling, s.chars = text.toList := by
  constructor
  · intro h spelled
    obtain ⟨s, spelled⟩ := spelled
    rw [parse_bracketed letter spelled] at h
    by_cases read : ∃ subscript, Subscript.parse text = .ok subscript
    · obtain ⟨subscript, read⟩ := read
      simp [read, Except.map] at h
    · simp [Subscript.parse_eq_error read, Except.map] at h
  · exact parse_bracketed_of_not_spelled letter

/-- What is read as a placeholder is a spelling between brackets. -/
theorem eq_bracketed_of_parse {text : String} {placeholder : Placeholder}
    (h : parse text = .ok placeholder) :
    ∃ s : Subscript.Spelling, text = bracketed placeholder.letter (String.ofList s.chars) := by
  unfold parse at h
  split at h
  next mention found =>
    obtain ⟨⟨s, spelled⟩, same⟩ := Mention.ofText?_eq_some_iff.mp found
    have letters : placeholder.letter = mention.letter := by
      unfold Mention.placeholder at h
      cases read : Subscript.parse mention.subscriptText with
      | error failure => simp [read, bind, Except.bind] at h
      | ok subscript =>
        simp only [read, bind, Except.bind, Except.ok.injEq] at h
        rw [← h]
    refine ⟨s, String.toList_injective ?_⟩
    rw [same, toList_bracketed, String.toList_ofList, spelled, letters]
  next => cases h

/-- A spelling between brackets that is read is the canonical text unless it is redundant. -/
theorem text_eq_bracketed_iff {letter : Letter} {s : Subscript.Spelling} {placeholder : Placeholder}
    (h : parse (bracketed letter (String.ofList s.chars)) = .ok placeholder) :
    placeholder.text = bracketed letter (String.ofList s.chars) ↔ ¬ s.IsRedundant := by
  obtain ⟨letters, read⟩ := parse_bracketed_eq_ok_iff.mp h
  obtain ⟨t, spelled, denotes⟩ := Subscript.parse_eq_ok_iff.mp read
  rw [String.toList_ofList] at spelled
  have same : t = s := Subscript.Spelling.chars_injective spelled
  rw [same] at denotes
  have canonical : placeholder.text =
      bracketed letter (String.ofList placeholder.subscript.chars) := by
    rw [← letters]
    rfl
  rw [canonical, ← Subscript.Spelling.chars_eq_iff denotes, ← String.toList_inj,
    toList_bracketed, toList_bracketed, Mention.chars_inj]
  simp

/-- Between brackets the two grammars agree: what the reader of subscripts reads is read as a
placeholder, a spelling that overflows is malformed, and anything else is no placeholder. So the
canonical text of a placeholder is read back, and a text that is read is the canonical one unless
a numeral of it has a spare zero or is a negative zero. -/
theorem parse_agrees_with_subscript_parse :
    (∀ (letter : Letter) (text : String),
      (∀ placeholder, parse (bracketed letter text) = .ok placeholder ↔
        placeholder.letter = letter ∧ Subscript.parse text = .ok placeholder.subscript) ∧
      (parse (bracketed letter text) = .error (.malformedSubscript text) ↔
        ∃ s : Subscript.Spelling, s.chars = text.toList ∧ s.Overflows) ∧
      (parse (bracketed letter text) = .error (.notPlaceholder (bracketed letter text)) ↔
        (¬ ∃ subscript, Subscript.parse text = .ok subscript) ∧
        ¬ ∃ s : Subscript.Spelling, s.chars = text.toList ∧ s.Overflows)) ∧
    (∀ placeholder : Placeholder, parse placeholder.text = .ok placeholder) ∧
    ∀ (text : String) (placeholder : Placeholder), parse text = .ok placeholder →
      (∃ (letter : Letter) (s : Subscript.Spelling),
        text = bracketed letter (String.ofList s.chars)) ∧
      ∀ (letter : Letter) (s : Subscript.Spelling),
        text = bracketed letter (String.ofList s.chars) →
          (placeholder.text = text ↔
            ∀ n ∈ s.numerals, ¬ n.HasSpareZero ∧ ¬ n.IsNegativeZero) := by
  refine ⟨fun letter text => ⟨fun _ => parse_bracketed_eq_ok_iff,
    parse_bracketed_eq_malformed_iff, ?_⟩, ?_, ?_⟩
  · rw [parse_bracketed_eq_notPlaceholder_iff]
    constructor
    · intro other
      refine ⟨fun ⟨subscript, read⟩ => ?_, fun ⟨s, spelled, _⟩ => other ⟨s, spelled⟩⟩
      obtain ⟨s, spelled, -⟩ := Subscript.parse_eq_ok_iff.mp read
      exact other ⟨s, spelled⟩
    · intro ⟨unread, within⟩ ⟨s, spelled⟩
      refine unread ((Subscript.exists_parse_iff spelled).mpr fun overflows => ?_)
      exact within ⟨s, spelled, overflows⟩
  · intro placeholder
    exact parse_bracketed_eq_ok_iff.mpr ⟨rfl, Subscript.parse_text placeholder.subscript⟩
  · intro text placeholder read
    obtain ⟨s, same⟩ := eq_bracketed_of_parse read
    refine ⟨⟨placeholder.letter, s, same⟩, ?_⟩
    intro letter s same
    subst same
    rw [text_eq_bracketed_iff read]
    simp [Subscript.Spelling.IsRedundant, not_or]

end Placeholder

end CaseLabel
