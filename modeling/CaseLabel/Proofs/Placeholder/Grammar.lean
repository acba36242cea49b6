import CaseLabel.Placeholder.Scanner
import CaseLabel.Proofs.Subscript.Spelling

/-!
# The grammar of placeholders

A mention is well formed if a spelled subscript stands between its brackets. The scanner takes as
many digits as there are, which loses nothing: behind a spelling comes a bracket, neither a digit
nor a dot. Main statements:

* at the head of a text the scanner finds exactly the well-formed mentions (`atHead?_eq_some_iff`);
* a text is a placeholder exactly if it is a well-formed mention (`ofText?_eq_some_iff`);
* the percent sign stands only in front (`percent_not_mem_tail`), so a placeholder never starts
  inside another one.
-/

namespace CaseLabel

/-- No digit follows at the head of a text. -/
def NoDigitAhead (cs : List Char) : Prop := ∀ c ∈ cs.head?, c.isDigit = false

theorem takeWhile_isDigit_append {digits rest : List Char}
    (all : ∀ c ∈ digits, c.isDigit = true) (ahead : NoDigitAhead rest) :
    (digits ++ rest).takeWhile Char.isDigit = digits ∧
      (digits ++ rest).dropWhile Char.isDigit = rest := by
  rw [List.takeWhile_append_of_pos all, List.dropWhile_append_of_pos all]
  cases rest with
  | nil => simp
  | cons c rest =>
    have stop : c.isDigit = false := ahead c (by simp)
    simp [stop]

theorem digitsAtHead?_append {digits rest : List Char} (nonempty : digits ≠ [])
    (all : ∀ c ∈ digits, c.isDigit = true) (ahead : NoDigitAhead rest) :
    digitsAtHead? (digits ++ rest) = some (digits, rest) := by
  obtain ⟨taken, dropped⟩ := takeWhile_isDigit_append all ahead
  unfold digitsAtHead?
  rw [taken, dropped]
  split
  next => exact absurd rfl nonempty
  next => rfl

theorem all_isDigit_of_digitsAtHead? {cs digits rest : List Char}
    (h : digitsAtHead? cs = some (digits, rest)) :
    digits ≠ [] ∧ ∀ c ∈ digits, c.isDigit = true := by
  unfold digitsAtHead? at h
  split at h
  next => cases h
  next taken nonempty =>
    cases h
    exact ⟨nonempty, fun c member => List.all_eq_true.mp List.all_takeWhile c member⟩

theorem numeralAtHead?_append (n : Numeral.Spelling) {rest : List Char}
    (ahead : NoDigitAhead rest) :
    numeralAtHead? (n.chars ++ rest) = some (n.chars, rest) := by
  have taken := digitsAtHead?_append n.digits_ne_nil n.isDigit_of_mem ahead
  unfold Numeral.Spelling.chars
  split
  next => simp [numeralAtHead?, taken]
  next =>
    obtain ⟨c, digits, shape⟩ := List.exists_cons_of_ne_nil n.digits_ne_nil
    have digit : c.isDigit = true := n.isDigit_of_mem c (by simp [shape])
    unfold numeralAtHead?
    split
    next minus =>
      rw [shape, List.cons_append, List.cons.injEq] at minus
      rw [minus.1] at digit
      simp at digit
    next => exact taken

/-- What the scanner takes for a numeral is a spelled one. -/
theorem exists_spelling_of_numeralAtHead? {cs numeral rest : List Char}
    (h : numeralAtHead? cs = some (numeral, rest)) :
    ∃ n : Numeral.Spelling, n.chars = numeral := by
  unfold numeralAtHead? at h
  split at h
  next =>
    obtain ⟨⟨digits, tail⟩, taken, same⟩ := Option.map_eq_some_iff.mp h
    obtain ⟨nonempty, all⟩ := all_isDigit_of_digitsAtHead? taken
    cases same
    exact ⟨⟨true, digits, nonempty, all⟩, rfl⟩
  next =>
    obtain ⟨nonempty, all⟩ := all_isDigit_of_digitsAtHead? h
    exact ⟨⟨false, numeral, nonempty, all⟩, rfl⟩

theorem subscriptAtHead?_append (s : Subscript.Spelling) (rest : List Char) :
    subscriptAtHead? (s.chars ++ ']' :: rest) = some (s.chars, ']' :: rest) := by
  have bracket : NoDigitAhead (']' :: rest) := by simp [NoDigitAhead]
  cases s with
  | single n =>
    simp [subscriptAtHead?, Subscript.Spelling.chars, numeralAtHead?_append n bracket,
      rangeEndAtHead?]
  | range first last =>
    have dots : NoDigitAhead ('.' :: '.' :: (last.chars ++ ']' :: rest)) := by
      simp [NoDigitAhead]
    simp [subscriptAtHead?, Subscript.Spelling.chars, numeralAtHead?_append first dots,
      rangeEndAtHead?, numeralAtHead?_append last bracket]

/-- What the scanner takes for a subscript is a spelled one. -/
theorem exists_spelling_of_subscriptAtHead? {cs inner rest : List Char}
    (h : subscriptAtHead? cs = some (inner, rest)) :
    ∃ s : Subscript.Spelling, s.chars = inner := by
  obtain ⟨⟨numeral, tail⟩, taken, same⟩ := Option.map_eq_some_iff.mp h
  obtain ⟨first, rfl⟩ := exists_spelling_of_numeralAtHead? taken
  dsimp only at same
  split at same
  next rangeEnd rest' more =>
    cases same
    unfold rangeEndAtHead? at more
    split at more
    next =>
      obtain ⟨⟨numeral, tail⟩, takenLast, same⟩ := Option.map_eq_some_iff.mp more
      obtain ⟨last, rfl⟩ := exists_spelling_of_numeralAtHead? takenLast
      cases same
      exact ⟨.range first last, rfl⟩
    next => cases more
  next =>
    cases same
    exact ⟨.single first, rfl⟩

namespace Mention

/-- A spelled subscript stands between the brackets. -/
def WellFormed (mention : Mention) : Prop := ∃ s : Subscript.Spelling, s.chars = mention.inner

theorem chars_inj {mention other : Mention} : mention.chars = other.chars ↔ mention = other := by
  constructor
  · intro same
    obtain ⟨letter, inner⟩ := mention
    obtain ⟨letter', inner'⟩ := other
    simp only [chars, List.cons_append, List.cons.injEq, List.append_cancel_right_eq, true_and]
      at same
    have letters := congrArg Letter.ofChar? same.1
    rw [Letter.ofChar?_char, Letter.ofChar?_char] at letters
    cases letters
    rw [same.2]
  · rintro rfl
    rfl

theorem atHead?_append {mention : Mention} (h : mention.WellFormed) (rest : List Char) :
    atHead? (mention.chars ++ rest) = some (mention, rest) := by
  obtain ⟨letter, inner⟩ := mention
  obtain ⟨s, rfl⟩ := h
  simp [chars, atHead?, Letter.ofChar?_char, subscriptAtHead?_append]

theorem wellFormed_of_atHead? {cs rest : List Char} {mention : Mention}
    (h : atHead? cs = some (mention, rest)) : mention.WellFormed := by
  unfold atHead? at h
  split at h
  next =>
    split at h
    next taken =>
      cases h
      exact exists_spelling_of_subscriptAtHead? taken
    next => cases h
  next => cases h

/-- The scanner finds exactly the well-formed mentions. -/
theorem atHead?_eq_some_iff {cs rest : List Char} {mention : Mention} :
    atHead? cs = some (mention, rest) ↔ mention.WellFormed ∧ cs = mention.chars ++ rest := by
  constructor
  · intro h
    exact ⟨wellFormed_of_atHead? h, eq_of_atHead? h⟩
  · rintro ⟨wellFormed, rfl⟩
    exact atHead?_append wellFormed rest

/-- The texts that are exactly one placeholder are the well-formed mentions. -/
theorem ofText?_eq_some_iff {text : String} {mention : Mention} :
    ofText? text = some mention ↔ mention.WellFormed ∧ text.toList = mention.chars := by
  have whole : ofText? text = some mention ↔ atHead? text.toList = some (mention, []) := by
    unfold ofText?
    split
    next found => simp [found]
    next other => simpa using other mention
  rw [whole, atHead?_eq_some_iff, List.append_nil]

theorem ofText?_chars {mention : Mention} (wellFormed : mention.WellFormed) :
    ofText? (String.ofList mention.chars) = some mention :=
  ofText?_eq_some_iff.mpr ⟨wellFormed, String.toList_ofList⟩

theorem percent_not_mem_tail {mention : Mention} (h : mention.WellFormed) :
    '%' ∉ mention.chars.tail := by
  obtain ⟨letter, inner⟩ := mention
  obtain ⟨s, rfl⟩ := h
  have numeral (n : Numeral.Spelling) : '%' ∉ n.chars := by
    intro member
    have := Numeral.Spelling.eq_minus_or_isDigit_of_mem member
    simp at this
  have subscript : '%' ∉ s.chars := by
    cases s with
    | single n => exact numeral n
    | range first last => simp [Subscript.Spelling.chars, numeral]
  have notLetter : '%' ≠ letter.char := by
    cases letter <;> decide
  simp [chars, subscript, notLetter]

end Mention

theorem Placeholder.isWritten_iff {text : String} :
    isWritten text = true ↔ ∃ mention : Mention, mention.WellFormed ∧ text.toList = mention.chars := by
  rw [isWritten, Option.isSome_iff_exists]
  exact exists_congr fun _ => Mention.ofText?_eq_some_iff

end CaseLabel
