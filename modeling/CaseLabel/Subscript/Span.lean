import CaseLabel.Subscript.Written

/-!
# Spans: what a subscript selects from a list

A subscript asks for the span from its first position up to and including its last one, each
counted from the front or from the back. The span is granted when it lies inside the list and
does not run backwards; a span that ends where it starts selects nothing and is granted too.
`resolve` and `select` are the functions of the interface with these names, `resolveAs` and
`selectAs` are `resolve_labelled` and `select_labelled`, and `resolveText` is `resolve_subscript`.

What a span covers is settled by what stands before and behind it (`Span.slice?_eq_some_iff`), so
further items in front only shift it (`Span.slice?_shift`) and items behind it do not matter
(`Span.slice?_append`).
-/

namespace CaseLabel

/-- The indices `start, …, stop - 1`. -/
structure Span where
  start : Nat
  stop : Nat
  deriving DecidableEq, Repr

namespace Span

/-- The part of a list that a span covers; there is none if the span leaves the list. -/
def slice? {α : Type} (span : Span) (items : List α) : Option (List α) :=
  if span.start ≤ span.stop ∧ span.stop ≤ items.length then
    some ((items.drop span.start).take (span.stop - span.start))
  else none

/-- The span with `offset` further items in front. -/
def shift (offset : Nat) (span : Span) : Span := ⟨offset + span.start, offset + span.stop⟩

theorem shift_injective (offset : Nat) : Function.Injective (Span.shift offset) := by
  intro s t same
  cases s
  cases t
  simpa [shift] using same

theorem shift_shift (m n : Nat) (span : Span) :
    (span.shift m).shift n = span.shift (n + m) := by
  simp only [shift, Nat.add_assoc]

theorem slice?_eq_some_iff {α : Type} {span : Span} {items part : List α} :
    span.slice? items = some part ↔
      ∃ before after, items = before ++ part ++ after ∧
        span = ⟨before.length, before.length + part.length⟩ := by
  obtain ⟨start, stop⟩ := span
  unfold slice?
  constructor
  · intro h
    split at h
    next inside =>
      dsimp only at inside
      cases h
      refine ⟨items.take start, items.drop stop, ?_, ?_⟩
      · have whole : start + (stop - start) = stop := by omega
        rw [← List.take_add, whole, List.take_append_drop]
      · simp only [List.length_take, List.length_drop, Span.mk.injEq]
        omega
    next => cases h
  · intro ⟨before, after, whole, same⟩
    cases same
    subst whole
    simp

/-- Items behind a span do not matter. -/
theorem slice?_append {α : Type} {span : Span} {items : List α} (more : List α)
    (within : span.stop ≤ items.length) : span.slice? (items ++ more) = span.slice? items := by
  have inside : span.stop ≤ (items ++ more).length := by
    rw [List.length_append]
    omega
  unfold slice?
  by_cases ordered : span.start ≤ span.stop
  · have rest : span.stop - span.start ≤ (items.drop span.start).length := by
      rw [List.length_drop]
      omega
    rw [if_pos ⟨ordered, inside⟩, if_pos ⟨ordered, within⟩,
      List.drop_append_of_le_length (by omega), List.take_append_of_le_length rest]
  · rw [if_neg fun h => ordered h.1, if_neg fun h => ordered h.1]

/-- Behind further items the shifted span covers the same part. -/
theorem slice?_shift {α : Type} (before : List α) {span : Span} {items : List α} :
    (span.shift before.length).slice? (before ++ items) = span.slice? items := by
  obtain ⟨start, stop⟩ := span
  have ends : before.length + stop - (before.length + start) = stop - start := by omega
  simp [slice?, shift, ends, List.drop_length_add_append]

end Span

/-- The index that a position names in a list of `count` items. It may lie outside of the list. -/
def Position.index (p : Position) (count : Nat) : Int :=
  if 0 ≤ p.val then p.val else count + p.val

namespace Subscript

/-- The index of the first selected item. -/
def start (subscript : Subscript) (count : Nat) : Int := subscript.first.index count

/-- One more than the index of the last selected item. -/
def stop (subscript : Subscript) (count : Nat) : Int := subscript.last.index count + 1

/-- The span of a subscript in a list of `count` items. A failure calls the subscript `label`. -/
def resolveAs (label : String) (subscript : Subscript) (count : Nat) : Except Failure Span :=
  let start := subscript.start count
  let stop := subscript.stop count
  if 0 ≤ start ∧ start ≤ stop ∧ stop ≤ count then .ok ⟨start.toNat, stop.toNat⟩
  else .error (.outOfRange ⟨label, start, stop, count⟩)

/-- The span of a subscript; a failure gives its canonical text. -/
def resolve (subscript : Subscript) (count : Nat) : Except Failure Span :=
  subscript.resolveAs subscript.text count

/-- The selected items. A failure calls the subscript `label`. -/
def selectAs {α : Type} (label : String) (subscript : Subscript) (items : List α) :
    Except Failure (List α) := do
  let span ← subscript.resolveAs label items.length
  match span.slice? items with
  | some selected => .ok selected
  | none => .error (.outOfRange ⟨label, span.start, span.stop, items.length⟩)

/-- The selected items; a failure gives the canonical text of the subscript. -/
def select {α : Type} (subscript : Subscript) (items : List α) : Except Failure (List α) :=
  subscript.selectAs subscript.text items

/-- Reads a subscript and resolves it; a failure gives the text as it was written. -/
def resolveText (text : String) (count : Nat) : Except Failure Span := do
  let subscript ← parse text
  subscript.resolveAs text count

end Subscript

end CaseLabel
