import CaseLabel.Proofs.Decimal.Spelling
import CaseLabel.Subscript.Written
import Mathlib.Algebra.Group.Int.Defs

/-!
# Spelled subscripts: one numeral, or two around two dots

The spelling of a subscript says which texts have the shape of a subscript, whatever the size of
their numerals. Main statements:

* the reader accepts exactly the spellings whose numbers are positions (`read?_eq_some_iff`);
* a spelling that denotes a subscript is its written form exactly if no numeral of it has a spare
  zero or is a negative zero (`Spelling.chars_eq_iff`).
-/

namespace CaseLabel

/-- The numbers that are positions. -/
theorem Position.exists_val_eq_iff {n : Int} :
    (∃ p : Position, n = p.val) ↔ -2 ^ 63 ≤ n ∧ n < 2 ^ 63 := by
  constructor
  · intro h
    obtain ⟨p, rfl⟩ := h
    exact ⟨p.min_le, p.lt_max⟩
  · intro bounds
    exact ⟨⟨n, bounds.1, bounds.2⟩, rfl⟩

theorem Position.read?_eq_some_iff {cs : List Char} {p : Position} :
    Position.read? cs = some p ↔ ∃ n : Numeral.Spelling, n.chars = cs ∧ n.value = p.val := by
  unfold Position.read?
  rw [Option.bind_eq_some_iff]
  constructor
  · rintro ⟨value, read, within⟩
    obtain ⟨n, rfl, rfl⟩ := Numeral.int?_eq_some_iff.mp read
    exact ⟨n, rfl, (Position.ofInt?_eq_some_iff.mp within).symm⟩
  · rintro ⟨n, rfl, same⟩
    exact ⟨n.value, Numeral.int?_chars n, Position.ofInt?_eq_some_iff.mpr same.symm⟩

namespace Subscript

inductive Spelling where
  | single (numeral : Numeral.Spelling)
  | range (first last : Numeral.Spelling)
  deriving DecidableEq

namespace Spelling

def chars : Spelling → List Char
  | .single n => n.chars
  | .range first last => first.chars ++ '.' :: '.' :: last.chars

def numerals : Spelling → List Numeral.Spelling
  | .single n => [n]
  | .range first last => [first, last]

/-- The numerals stand for the positions of the subscript. -/
inductive Denotes : Spelling → Subscript → Prop where
  | single {n : Numeral.Spelling} {p : Position} (value : n.value = p.val) :
      Denotes (.single n) (.single p)
  | range {first last : Numeral.Spelling} {p q : Position} (firstValue : first.value = p.val)
      (lastValue : last.value = q.val) : Denotes (.range first last) (.range p q)

/-- Some numeral stands for a number that is no position. -/
def Overflows (s : Spelling) : Prop :=
  ∃ n ∈ s.numerals, n.value < -2 ^ 63 ∨ 2 ^ 63 ≤ n.value

/-- Some numeral is not spelled as its value is written. -/
def IsRedundant (s : Spelling) : Prop :=
  ∃ n ∈ s.numerals, n.HasSpareZero ∨ n.IsNegativeZero

end Spelling

theorem eq_of_cutAtDots {cs before after : List Char} (h : cutAtDots cs = some (before, after)) :
    cs = before ++ '.' :: '.' :: after := by
  induction cs generalizing before with
  | nil => simp [cutAtDots] at h
  | cons c rest ih =>
    unfold cutAtDots at h
    split at h
    next absent => cases absent
    next tail shape =>
      cases shape
      cases h
      rfl
    next head tail _ shape =>
      cases shape
      obtain ⟨⟨start, finish⟩, cut, same⟩ := Option.map_eq_some_iff.mp h
      cases same
      rw [ih cut, List.cons_append]

/-- Texts without dots around two dots are told apart by the cut. -/
theorem append_dots_inj {before before' after after' : List Char} (h : '.' ∉ before)
    (h' : '.' ∉ before') :
    before ++ '.' :: '.' :: after = before' ++ '.' :: '.' :: after' ↔
      before = before' ∧ after = after' := by
  constructor
  · intro same
    have cut := congrArg cutAtDots same
    rw [cutAtDots_append h, cutAtDots_append h'] at cut
    simpa using cut
  · rintro ⟨rfl, rfl⟩
    rfl

theorem Spelling.chars_injective : Function.Injective Spelling.chars := by
  intro s t same
  have single_ne_range (n first last : Numeral.Spelling) :
      n.chars ≠ first.chars ++ '.' :: '.' :: last.chars := by
    intro equal
    have dot : '.' ∈ n.chars := by simp [equal]
    exact n.dot_not_mem dot
  cases s with
  | single n =>
    cases t with
    | single m => rw [Numeral.Spelling.chars_injective same]
    | range first last => exact absurd same (single_ne_range n first last)
  | range first last =>
    cases t with
    | single m => exact absurd same.symm (single_ne_range m first last)
    | range first' last' =>
      obtain ⟨firsts, lasts⟩ := (append_dots_inj first.dot_not_mem first'.dot_not_mem).mp same
      rw [Numeral.Spelling.chars_injective firsts, Numeral.Spelling.chars_injective lasts]

theorem read?_chars_of_denotes {s : Spelling} {subscript : Subscript}
    (h : s.Denotes subscript) : read? s.chars = some subscript := by
  cases h with
  | @single n p value =>
    have read : Position.read? n.chars = some p := Position.read?_eq_some_iff.mpr ⟨n, rfl, value⟩
    simp [read?, Spelling.chars, cutAtDots_eq_none n.dot_not_mem, read]
  | @range first last p q firstValue lastValue =>
    have readFirst : Position.read? first.chars = some p :=
      Position.read?_eq_some_iff.mpr ⟨first, rfl, firstValue⟩
    have readLast : Position.read? last.chars = some q :=
      Position.read?_eq_some_iff.mpr ⟨last, rfl, lastValue⟩
    simp [read?, Spelling.chars, cutAtDots_append first.dot_not_mem, readFirst, readLast]

/-- The reader accepts the spellings whose numbers are positions. -/
theorem read?_eq_some_iff {cs : List Char} {subscript : Subscript} :
    read? cs = some subscript ↔ ∃ s : Spelling, s.chars = cs ∧ s.Denotes subscript := by
  constructor
  · intro h
    unfold read? at h
    split at h
    next before after cut =>
      simp only [Option.bind_eq_bind, Option.bind_eq_some_iff, Option.some.injEq] at h
      obtain ⟨p, readFirst, q, readLast, rfl⟩ := h
      obtain ⟨first, rfl, firstValue⟩ := Position.read?_eq_some_iff.mp readFirst
      obtain ⟨last, rfl, lastValue⟩ := Position.read?_eq_some_iff.mp readLast
      exact ⟨.range first last, (eq_of_cutAtDots cut).symm, .range firstValue lastValue⟩
    next =>
      obtain ⟨p, read, rfl⟩ := Option.map_eq_some_iff.mp h
      obtain ⟨n, rfl, value⟩ := Position.read?_eq_some_iff.mp read
      exact ⟨.single n, rfl, .single value⟩
  · rintro ⟨s, rfl, denotes⟩
    exact read?_chars_of_denotes denotes

namespace Spelling

/-- A spelling denotes a subscript unless a numeral of it overflows. -/
theorem exists_denotes_iff (s : Spelling) : (∃ subscript, s.Denotes subscript) ↔ ¬ s.Overflows := by
  constructor
  · rintro ⟨subscript, denotes⟩ ⟨n, member, outside⟩
    cases denotes with
    | @single _ p value =>
      rw [numerals, List.mem_singleton] at member
      subst member
      have := p.min_le
      have := p.lt_max
      omega
    | @range _ _ p q firstValue lastValue =>
      simp only [numerals, List.mem_cons, List.not_mem_nil, or_false] at member
      have := p.min_le
      have := p.lt_max
      have := q.min_le
      have := q.lt_max
      rcases member with rfl | rfl <;> omega
  · intro within
    have position : ∀ n ∈ s.numerals, ∃ p : Position, n.value = p.val := by
      intro n member
      apply Position.exists_val_eq_iff.mpr
      have inside : ¬ (n.value < -2 ^ 63 ∨ 2 ^ 63 ≤ n.value) :=
        fun outside => within ⟨n, member, outside⟩
      omega
    cases s with
    | single n =>
      obtain ⟨p, value⟩ := position n (by simp [numerals])
      exact ⟨.single p, .single value⟩
    | range first last =>
      obtain ⟨p, firstValue⟩ := position first (by simp [numerals])
      obtain ⟨q, lastValue⟩ := position last (by simp [numerals])
      exact ⟨.range p q, .range firstValue lastValue⟩

/-- A spelling of a subscript is its written form unless a numeral of it is redundant. -/
theorem chars_eq_iff {s : Spelling} {subscript : Subscript} (h : s.Denotes subscript) :
    subscript.chars = s.chars ↔ ¬ s.IsRedundant := by
  cases h with
  | @single n p value =>
    rw [Subscript.chars, chars, ← value, n.ofInt_value_iff]
    simp [IsRedundant, numerals]
  | @range first last p q firstValue lastValue =>
    rw [Subscript.chars, chars, ← firstValue, ← lastValue,
      append_dots_inj (Numeral.dot_not_mem_ofInt _) first.dot_not_mem, first.ofInt_value_iff,
      last.ofInt_value_iff]
    simp [IsRedundant, numerals, not_or]

end Spelling

end Subscript

end CaseLabel
