import CaseLabel.Subscript.Written

/-!
# Placeholders

A placeholder selects test-case arguments by a subscript. It is spelled with one of two letters,
`%a[..]` for an argument or `%p[..]` for a parameter, which mean the same. `Placeholder` is
`PlaceholderRef` of the interface and `Letter` its `PlaceholderAlias`; a `Mention` is what is captured
of a placeholder, before its subscript is read, and `Mention.placeholder` is `from_captures`.
-/

namespace CaseLabel

/-- The letter behind the percent sign. -/
inductive Letter where
  | argument | parameter
  deriving DecidableEq, Repr

namespace Letter

def char : Letter → Char
  | .argument => 'a'
  | .parameter => 'p'

def ofChar? : Char → Option Letter
  | 'a' => some .argument
  | 'p' => some .parameter
  | _ => none

/-- The characters in front of the brackets. -/
def opening (letter : Letter) : String := String.ofList ['%', letter.char]

theorem ofChar?_char (letter : Letter) : ofChar? letter.char = some letter := by
  cases letter with
  | argument => rfl
  | parameter => rfl

theorem char_of_ofChar? {c : Char} {letter : Letter} (h : ofChar? c = some letter) :
    letter.char = c := by
  unfold ofChar? at h
  split at h
  · cases h
    rfl
  · cases h
    rfl
  · cases h

end Letter

/-- A placeholder whose subscript has been read. -/
structure Placeholder where
  letter : Letter
  subscript : Subscript
  deriving DecidableEq, Repr

/-- The canonical spelling. -/
def Placeholder.text (placeholder : Placeholder) : String :=
  placeholder.letter.opening ++ "[" ++ placeholder.subscript.text ++ "]"

/-- A placeholder as it is written: its letter and the characters between its brackets. -/
structure Mention where
  letter : Letter
  inner : List Char
  deriving DecidableEq, Repr

namespace Mention

/-- The characters of the whole placeholder. -/
def chars (mention : Mention) : List Char :=
  '%' :: mention.letter.char :: '[' :: mention.inner ++ [']']

/-- The subscript as it is written. -/
def subscriptText (mention : Mention) : String := String.ofList mention.inner

/-- Reads the subscript. It fails only if an end of it leaves the range of positions. -/
def placeholder (mention : Mention) : Except Failure Placeholder := do
  let subscript ← Subscript.parse mention.subscriptText
  .ok ⟨mention.letter, subscript⟩

theorem length_chars_pos (mention : Mention) : 0 < mention.chars.length := by
  simp [chars]

end Mention

end CaseLabel
