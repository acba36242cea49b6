import CaseLabel.Subscript.Basic

/-!
# The written form of a subscript

A position is a decimal numeral and a range is two of them around `..`. The reader cuts the text
at its first `..`, so three dots and a third numeral are refused. `Position.read?` is `parse_index`
of the interface; `parse` and `text` are how a `Subscript` is read from text and shown. `parse_text`
says that the canonical text of every subscript is read back.
-/

namespace CaseLabel

/-- A numeral whose value lies in the range of positions. -/
def Position.read? (cs : List Char) : Option Position :=
  (Numeral.int? cs).bind Position.ofInt?

theorem Position.read?_ofInt (p : Position) : Position.read? (Numeral.ofInt p.val) = some p := by
  simp [Position.read?, Numeral.int?_ofInt, Position.ofInt?_val]

namespace Subscript

/-- Cuts at the first two neighbouring dots, which belong to neither part. -/
def cutAtDots : List Char → Option (List Char × List Char)
  | [] => none
  | '.' :: '.' :: rest => some ([], rest)
  | c :: rest => (cutAtDots rest).map fun (before, after) => (c :: before, after)

def read? (cs : List Char) : Option Subscript :=
  match cutAtDots cs with
  | some (first, last) => do
    let first ← Position.read? first
    let last ← Position.read? last
    some (.range first last)
  | none => (Position.read? cs).map .single

def parse (text : String) : Except Failure Subscript :=
  match read? text.toList with
  | some subscript => .ok subscript
  | none => .error (.malformedSubscript text)

/-- The canonical spelling: no leading zeros and no negative zero. -/
def chars : Subscript → List Char
  | .single p => Numeral.ofInt p.val
  | .range first last => Numeral.ofInt first.val ++ '.' :: '.' :: Numeral.ofInt last.val

def text (subscript : Subscript) : String := String.ofList subscript.chars

theorem cutAtDots_eq_none {cs : List Char} (h : '.' ∉ cs) : cutAtDots cs = none := by
  induction cs with
  | nil => rfl
  | cons c rest ih =>
    rw [List.mem_cons, not_or] at h
    unfold cutAtDots
    split
    · rfl
    · simp_all
    · simp_all

theorem cutAtDots_append {before after : List Char} (h : '.' ∉ before) :
    cutAtDots (before ++ '.' :: '.' :: after) = some (before, after) := by
  induction before with
  | nil => simp [cutAtDots]
  | cons c rest ih =>
    rw [List.mem_cons, not_or] at h
    rw [List.cons_append]
    unfold cutAtDots
    split
    · simp_all
    · simp_all
    · simp_all

theorem read?_chars (subscript : Subscript) : read? subscript.chars = some subscript := by
  cases subscript with
  | single p =>
    simp [read?, chars, cutAtDots_eq_none (Numeral.dot_not_mem_ofInt _), Position.read?_ofInt]
  | range first last =>
    simp [read?, chars, cutAtDots_append (Numeral.dot_not_mem_ofInt _), Position.read?_ofInt]

/-- The canonical text of a subscript is read back. -/
theorem parse_text (subscript : Subscript) : parse subscript.text = .ok subscript := by
  simp [parse, text, read?_chars]

end Subscript

end CaseLabel
