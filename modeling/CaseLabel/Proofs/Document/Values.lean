import CaseLabel.Document.Basic
import CaseLabel.Proofs.Decimal.FloatText
import CaseLabel.Proofs.Text.Escapes

/-!
# Values in compact text

A string ends at the first quote that no escape has in it, a number at the first stop. Main
statements:

* the text of a string determines it, whatever stands behind (`stringChars_append_inj`), and shows
  as they are just the characters from the space on that are no quote and no backslash
  (`stringChar_eq_singleton_iff`);
* the first character of a text tells the form of the document (`exists_first`);
* the text of a number shows where it ends (`number_eq_of_append_eq`), and that of a float is never
  that of a whole number (`whole_chars_ne_float_chars`).
-/

namespace CaseLabel.Document

/-! ## Strings -/

/-- The escapes of strings. A number has four digits, of which the first two are zeros. -/
def stringEscapes : Escapes where
  letters := [('"', '"'), ('\\', '\\'), ('\x08', 'b'), ('\x0c', 'f'), ('\n', 'n'), ('\r', 'r'),
    ('\t', 't')]
  number c := ['0', '0', Nat.digitChar (c.toNat / 16), Nat.digitChar (c.toNat % 16)]
  IsNumbered c := c.toNat < 32
  eq_of_letter_eq := by decide
  letter_ne := by decide
  eq_of_number_append_eq := by
    intro c d small small' rest rest' same
    simp only [List.cons_append, List.nil_append, List.cons.injEq, true_and] at same
    obtain ⟨high, low, rests⟩ := same
    have quotient := eq_of_digitChar_eq (by omega) (by omega) high
    have remainder := eq_of_digitChar_eq (by omega) (by omega) low
    exact ⟨Char.toNat_inj.mp (by omega), rests⟩

theorem shows_stringChar (c : Char) : stringEscapes.Shows c (stringChar c) := by
  unfold stringChar
  split
  · exact .letter (by decide)
  · exact .letter (by decide)
  · exact .letter (by decide)
  · exact .letter (by decide)
  · exact .letter (by decide)
  · exact .letter (by decide)
  · exact .letter (by decide)
  next quote backslash _ _ _ _ _ =>
    split
    next small => exact .number small
    next => exact .itself quote backslash

theorem stringChars_append_inj {text text' : String} {rest rest' : List Char}
    (same : stringChars text ++ rest = stringChars text' ++ rest') :
    text = text' ∧ rest = rest' := by
  simp only [stringChars, List.cons_append, List.append_assoc, List.nil_append, List.cons.injEq,
    true_and] at same
  obtain ⟨texts, rests⟩ := Escapes.eq_of_closed shows_stringChar same
  exact ⟨String.toList_inj.mp texts, rests⟩

/-- As they are stand the characters from the space on, but for two. -/
theorem stringChar_eq_singleton_iff {c : Char} :
    stringChar c = [c] ↔ 0x20 ≤ c.toNat ∧ c ≠ '"' ∧ c ≠ '\\' := by
  unfold stringChar
  split
  · decide
  · decide
  · decide
  · decide
  · decide
  · decide
  · decide
  next quote backslash _ _ _ _ _ =>
    split
    next small =>
      have escaped : numbered c ≠ [c] := by simp [numbered]
      simp only [escaped, false_iff, not_and]
      omega
    next large =>
      simp only [true_iff]
      exact ⟨Nat.not_lt.mp large, quote, backslash⟩

example : (Document.string "\"\\/\x08\x0c\n\r\t\x01\x1f\x7fé").text =
    "\"\\\"\\\\/\\b\\f\\n\\r\\t\\u0001\\u001f\x7fé\"" := by decide +kernel

/-! ## Values -/

/-- What the first character of a value tells. -/
inductive Form where
  | null | bool (value : Bool) | number | string | list | object
  deriving DecidableEq

def form : Document → Form
  | .null => .null
  | .bool value => .bool value
  | .whole _ => .number
  | .float _ => .number
  | .string _ => .string
  | .list _ => .list
  | .object _ => .object

/-- The form of the values that start with a character. -/
def Form.ofFirst? : Char → Option Form
  | 'n' => some .null
  | 't' => some (.bool true)
  | 'f' => some (.bool false)
  | '"' => some .string
  | '[' => some .list
  | '\x7b' => some .object
  | c => if Layout.IsDecimalChar c then some .number else none

theorem Form.ofFirst?_of_isDecimalChar {c : Char} (h : Layout.IsDecimalChar c) :
    ofFirst? c = some .number := by
  unfold ofFirst?
  split
  · exact absurd h (by decide)
  · exact absurd h (by decide)
  · exact absurd h (by decide)
  · exact absurd h (by decide)
  · exact absurd h (by decide)
  · exact absurd h (by decide)
  · rw [if_pos h]

section First

variable {document other : Document} {rest rest' : List Char}

theorem isDecimalChar_of_form (h : document.form = .number) :
    ∀ c ∈ document.chars, Layout.IsDecimalChar c := by
  cases document with
  | whole n => exact Layout.isDecimalChar_of_mem_ofInt n.val
  | float x => exact floatLayout.isDecimalChar_of_mem_chars x.finite
  | _ => cases h

theorem chars_ne_nil_of_form (h : document.form = .number) : document.chars ≠ [] := by
  cases document with
  | whole n =>
    intro empty
    have read := Numeral.int?_ofInt n.val
    rw [chars] at empty
    rw [empty] at read
    cases read
  | float x =>
    obtain ⟨mark, -, shown⟩ := floatLayout.exists_mark_mem_chars x.bits
    exact List.ne_nil_of_mem shown
  | _ => cases h

theorem exists_first_of_form (h : document.form = .number) : ∃ first more,
    document.chars = first :: more ∧ Form.ofFirst? first = some document.form := by
  obtain ⟨first, more, shape⟩ := List.exists_cons_of_ne_nil (chars_ne_nil_of_form h)
  have decimal := isDecimalChar_of_form h first (by simp [shape])
  exact ⟨first, more, shape, h ▸ Form.ofFirst?_of_isDecimalChar decimal⟩

theorem exists_first (document : Document) : ∃ first more,
    document.chars = first :: more ∧ Form.ofFirst? first = some document.form := by
  cases document with
  | null => exact ⟨_, _, rfl, rfl⟩
  | bool value =>
    cases value with
    | true => exact ⟨_, _, rfl, rfl⟩
    | false => exact ⟨_, _, rfl, rfl⟩
  | whole => exact exists_first_of_form rfl
  | float => exact exists_first_of_form rfl
  | string => exact ⟨_, _, rfl, rfl⟩
  | list => exact ⟨_, _, rfl, rfl⟩
  | object => exact ⟨_, _, rfl, rfl⟩

theorem form_eq_of_append_eq (same : document.chars ++ rest = other.chars ++ rest') :
    document.form = other.form := by
  obtain ⟨first, more, shape, tells⟩ := document.exists_first
  obtain ⟨first', more', shape', tells'⟩ := other.exists_first
  rw [shape, shape'] at same
  rw [List.head_eq_of_cons_eq same, tells'] at tells
  exact (Option.some.inj tells).symm

/-- What may stand behind a value. -/
def stops : List Char := [',', ']', '\x7d']

/-- Nothing follows, or a stop. -/
def Ends (rest : List Char) : Prop := ∀ c ∈ rest.head?, stops.contains c = true

theorem ends_cons {c : Char} (stop : c ∈ stops) : Ends (c :: rest) := by
  simp [Ends, stop]

/-- No value starts with a stop. -/
theorem append_ne_of_mem_stops {c : Char} (h : c ∈ stops) : document.chars ++ rest ≠ c :: rest' := by
  obtain ⟨first, more, shape, tells⟩ := document.exists_first
  have none : ∀ c ∈ stops, Form.ofFirst? c = none := by
    simp [stops, Form.ofFirst?, Layout.IsDecimalChar, Layout.signs]
  intro same
  rw [shape] at same
  rw [List.head_eq_of_cons_eq same, none c h] at tells
  cases tells

/-- Numbers end at the first stop. -/
theorem number_eq_of_append_eq (h : document.form = .number) (h' : other.form = .number)
    (ends : Ends rest) (ends' : Ends rest') (same : document.chars ++ rest = other.chars ++ rest') :
    document.chars = other.chars ∧ rest = rest' := by
  have noStop : ∀ c ∈ stops, ¬ Layout.IsDecimalChar c := by
    simp [stops, Layout.IsDecimalChar, Layout.signs]
  have within {number : Document} (h : number.form = .number) :
      ∀ c ∈ number.chars, stops.contains c = false := by
    intro c member
    rw [← Bool.not_eq_true, List.contains_iff_mem]
    exact fun stop => noStop c stop (isDecimalChar_of_form h c member)
  exact append_inj_of_stop (within h) (within h') ends ends' same

/-- A float shows a mark that a whole number does not. -/
theorem whole_chars_ne_float_chars (n : Document.Whole) (x : Document.Float) :
    chars (.whole n) ≠ chars (.float x) := by
  obtain ⟨mark, isMark, shown⟩ := floatLayout.exists_mark_mem_chars x.bits
  intro same
  rw [chars, chars] at same
  exact Layout.mark_not_mem_ofInt isMark n.val (same ▸ shown)

end First

example : (Document.list [.float ⟨0x4341C37937E08000, by decide⟩,
    .whole ⟨10000000000000000, by decide, by decide⟩, .float ⟨0x430C6BF526340000, by decide⟩,
    .float ⟨0x3EE4F8B588E368F1, by decide⟩, .float ⟨0x3EB0C6F7A0B5ED8D, by decide⟩,
    .float ⟨0x8000000000000000, by decide⟩]).text =
      "[1e+16,10000000000000000,1000000000000000.0,0.00001,1e-6,-0.0]" := by decide +kernel

end CaseLabel.Document
