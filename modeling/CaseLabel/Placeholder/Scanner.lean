import CaseLabel.Placeholder.Basic

/-!
# The placeholder at the head of a text

`Mention.atHead?` recognises `%`, one of `a` and `p`, `[`, a numeral, optionally `..` and another
numeral, and `]`, going from left to right and taking as many digits as there are. Only ASCII
digits count, and a numeral has at most one minus sign, in front. The size of the numeral does not
matter here. This is a match of the pattern `PLACEHOLDER_RE` at one place; `Mention.ofText?` is
`full_match`, `Placeholder.isWritten` is `matches_placeholder_syntax`, and `Placeholder.parse` is how a
`PlaceholderRef` is read from text. `eq_of_atHead?` says that what is recognised and what remains
make up the text.
-/

namespace CaseLabel

/-- The digits at the head of a text; at least one is needed. -/
def digitsAtHead? (cs : List Char) : Option (List Char × List Char) :=
  match cs.takeWhile Char.isDigit with
  | [] => none
  | digits => some (digits, cs.dropWhile Char.isDigit)

/-- The numeral at the head of a text. -/
def numeralAtHead? : List Char → Option (List Char × List Char)
  | '-' :: cs => (digitsAtHead? cs).map fun (digits, rest) => ('-' :: digits, rest)
  | cs => digitsAtHead? cs

/-- Two dots and a numeral at the head of a text. -/
def rangeEndAtHead? : List Char → Option (List Char × List Char)
  | '.' :: '.' :: cs => (numeralAtHead? cs).map fun (numeral, rest) => ('.' :: '.' :: numeral, rest)
  | _ => none

/-- The subscript at the head of a text: a numeral and, where one follows, the end of a range. -/
def subscriptAtHead? (cs : List Char) : Option (List Char × List Char) :=
  (numeralAtHead? cs).map fun (numeral, rest) =>
    match rangeEndAtHead? rest with
    | some (rangeEnd, rest) => (numeral ++ rangeEnd, rest)
    | none => (numeral, rest)

namespace Mention

/-- The placeholder at the head of a text and what follows it. -/
def atHead? : List Char → Option (Mention × List Char)
  | '%' :: c :: '[' :: cs =>
    match Letter.ofChar? c, subscriptAtHead? cs with
    | some letter, some (inner, ']' :: rest) => some (⟨letter, inner⟩, rest)
    | _, _ => none
  | _ => none

/-- The placeholder that makes up the whole text. -/
def ofText? (text : String) : Option Mention :=
  match atHead? text.toList with
  | some (mention, []) => some mention
  | _ => none

end Mention

theorem eq_of_digitsAtHead? {cs digits rest : List Char}
    (h : digitsAtHead? cs = some (digits, rest)) : cs = digits ++ rest := by
  unfold digitsAtHead? at h
  split at h
  · simp at h
  · obtain ⟨rfl, rfl⟩ := h
    exact List.takeWhile_append_dropWhile.symm

theorem eq_of_numeralAtHead? {cs numeral rest : List Char}
    (h : numeralAtHead? cs = some (numeral, rest)) : cs = numeral ++ rest := by
  unfold numeralAtHead? at h
  split at h
  · obtain ⟨⟨digits, tail⟩, taken, same⟩ := Option.map_eq_some_iff.mp h
    obtain ⟨rfl, rfl⟩ := same
    simp [eq_of_digitsAtHead? taken]
  · exact eq_of_digitsAtHead? h

theorem eq_of_rangeEndAtHead? {cs rangeEnd rest : List Char}
    (h : rangeEndAtHead? cs = some (rangeEnd, rest)) : cs = rangeEnd ++ rest := by
  unfold rangeEndAtHead? at h
  split at h
  · obtain ⟨⟨numeral, tail⟩, taken, same⟩ := Option.map_eq_some_iff.mp h
    obtain ⟨rfl, rfl⟩ := same
    simp [eq_of_numeralAtHead? taken]
  · simp at h

theorem eq_of_subscriptAtHead? {cs inner rest : List Char}
    (h : subscriptAtHead? cs = some (inner, rest)) : cs = inner ++ rest := by
  obtain ⟨⟨numeral, tail⟩, taken, same⟩ := Option.map_eq_some_iff.mp h
  have first := eq_of_numeralAtHead? taken
  dsimp only at same
  split at same
  · rename_i more
    obtain ⟨rfl, rfl⟩ := same
    rw [first, eq_of_rangeEndAtHead? more, List.append_assoc]
  · obtain ⟨rfl, rfl⟩ := same
    exact first

/-- A recognised placeholder and what follows it make up the text. -/
theorem Mention.eq_of_atHead? {cs rest : List Char} {mention : Mention}
    (h : atHead? cs = some (mention, rest)) : cs = mention.chars ++ rest := by
  unfold atHead? at h
  split at h
  · split at h
    · rename_i known taken
      obtain ⟨rfl, rfl⟩ := h
      simp [Mention.chars, Letter.char_of_ofChar? known, eq_of_subscriptAtHead? taken]
    · simp at h
  · simp at h

/-- What follows a recognised placeholder is shorter than the text. -/
theorem Mention.length_lt_of_atHead? {cs rest : List Char} {mention : Mention}
    (h : atHead? cs = some (mention, rest)) : rest.length < cs.length := by
  have := mention.length_chars_pos
  rw [eq_of_atHead? h, List.length_append]
  omega

namespace Placeholder

/-- Whether a text is exactly one placeholder. -/
def isWritten (text : String) : Bool := (Mention.ofText? text).isSome

/-- Reads a text that is exactly one placeholder. -/
def parse (text : String) : Except Failure Placeholder :=
  match Mention.ofText? text with
  | some mention => mention.placeholder
  | none => .error (.notPlaceholder text)

end Placeholder

end CaseLabel
