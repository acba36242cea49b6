import CaseLabel.Proofs.Subscript.Resolution

/-!
# Addressing: which items a position can name

A position names an item by its index or by its distance from the end of the list. Positions are
signed 64-bit numbers, so the front names the first `2 ^ 63` items and the back the last `2 ^ 63`.
Main statements:

* a single position is granted the item it counts to, from the front or from the back, and nothing
  else (`resolve_single_iff`, `resolve_single_stop`), so the item at its remainder by the length
  (`resolve_single_emod`);
* each item of a list has a position exactly if there are at most `2 ^ 64` items
  (`Position.forall_exists_index_iff`), and then each span with an item in it is that of a range
  (`exists_resolve_range`).
-/

namespace CaseLabel

namespace Position

/-- The position of an index, counted from the front. -/
def ofIndex (i : Nat) (fits : i < 2 ^ 63) : Position := ⟨i, by omega, by omega⟩

variable {count i : Nat}

theorem index_ofIndex (fits : i < 2 ^ 63) (count : Nat) : (ofIndex i fits).index count = i := by
  have front : (0 : Int) ≤ (ofIndex i fits).val := Int.natCast_nonneg i
  rw [index, if_pos front]
  rfl

/-- An item is named by its index and by its distance from the end. -/
theorem index_eq_iff {p : Position} (within : i < count) :
    p.index count = i ↔ p.val = i ∨ p.val = i - count := by
  unfold index
  split
  · omega
  · omega

/-- The front and the back each reach `2 ^ 63` items. -/
theorem exists_index_eq_iff (within : i < count) :
    (∃ p : Position, p.index count = i) ↔ i < 2 ^ 63 ∨ count ≤ i + 2 ^ 63 := by
  constructor
  · intro named
    obtain ⟨p, named⟩ := named
    have low := p.min_le
    have high := p.lt_max
    obtain front | back := (index_eq_iff within).mp named
    · exact .inl (by omega)
    · exact .inr (by omega)
  · intro reached
    obtain front | back := reached
    · exact ⟨ofIndex i front, index_ofIndex front count⟩
    · exact ⟨⟨i - count, by omega, by omega⟩, (index_eq_iff within).mpr (.inr rfl)⟩

/-- Beyond `2 ^ 64` items the two halves leave a gap, which starts at the index `2 ^ 63`. -/
theorem forall_exists_index_iff :
    (∀ i < count, ∃ p : Position, p.index count = i) ↔ count ≤ 2 ^ 64 := by
  constructor
  · intro each
    apply Classical.byContradiction
    intro beyond
    have within : 2 ^ 63 < count := by omega
    have reached := (exists_index_eq_iff within).mp (each _ within)
    omega
  · intro fits i within
    rw [exists_index_eq_iff within]
    omega

end Position

namespace Subscript

variable {count : Nat}

/-- The span at an index belongs to the two positions that name it. -/
theorem resolve_single_iff {p : Position} {i : Nat} :
    (single p).resolve count = .ok ⟨i, i + 1⟩ ↔
      i < count ∧ (p.val = i ∨ p.val = i - count) := by
  rw [resolve_eq_ok_span_iff, start, stop, first, last]
  dsimp only
  constructor
  · intro resolved
    obtain ⟨named, -, -, within⟩ := resolved
    exact ⟨within, (Position.index_eq_iff within).mp named⟩
  · intro named
    obtain ⟨within, counted⟩ := named
    rw [(Position.index_eq_iff within).mpr counted]
    omega

/-- A single position is granted one item or nothing. -/
theorem resolve_single_stop {p : Position} {span : Span}
    (resolved : (single p).resolve count = .ok span) : span.stop = span.start + 1 := by
  obtain ⟨first, last, -, -⟩ := resolve_eq_ok_span_iff.mp resolved
  have next : (single p).stop count = (single p).start count + 1 := rfl
  omega

/-- A position that does not leave the list names the item at its remainder by the length. -/
theorem resolve_single_emod {p : Position} (low : -count ≤ p.val) (high : p.val < count) :
    (single p).resolve count =
      .ok ⟨(p.val % count).toNat, (p.val % count).toNat + 1⟩ := by
  rw [resolve_single_iff]
  by_cases front : 0 ≤ p.val
  · rw [Int.emod_eq_of_lt front high]
    omega
  · have wrapped : p.val % count = p.val + count := by
      rw [← Int.add_emod_right, Int.emod_eq_of_lt (by omega) (by omega)]
    rw [wrapped]
    omega

/-- A span with an item in it runs from its first item to its last one. -/
theorem exists_resolve_range {start stop : Nat} (fits : count ≤ 2 ^ 64) (nonempty : start < stop)
    (within : stop ≤ count) : ∃ p q, (range p q).resolve count = .ok ⟨start, stop⟩ := by
  have named := Position.forall_exists_index_iff.mpr fits
  obtain ⟨p, first⟩ := named start (by omega)
  obtain ⟨q, last⟩ := named (stop - 1) (by omega)
  refine ⟨p, q, resolve_eq_ok_span_iff.mpr ?_⟩
  rw [Subscript.start, Subscript.stop, Subscript.first, Subscript.last, first, last]
  dsimp only
  omega

/-- In a list whose length is a 64-bit word, a single position is granted the item that it counts
to from the front or from the back, and no other span. Each item is granted to some position, also
where the list is longer than the positions from the front, and each span with an item in it to
some range. -/
theorem single_addresses_each_item (count : Nat) (fits : count < 2 ^ 64) :
    (∀ (position : Position) (i : Nat),
      (single position).resolve count = .ok ⟨i, i + 1⟩ ↔
        i < count ∧ (position.val = i ∨ position.val = i - count)) ∧
    (∀ (position : Position) (span : Span), (single position).resolve count = .ok span →
      span.stop = span.start + 1) ∧
    (∀ i, i < count → ∃ position, (single position).resolve count = .ok ⟨i, i + 1⟩) ∧
    ∀ start stop, start < stop → stop ≤ count →
      ∃ first last, (range first last).resolve count = .ok ⟨start, stop⟩ := by
  refine ⟨fun _ _ => resolve_single_iff, fun _ _ => resolve_single_stop, ?_, ?_⟩
  · intro i within
    obtain ⟨position, named⟩ := Position.forall_exists_index_iff.mpr (Nat.le_of_lt fits) i within
    exact ⟨position, resolve_single_iff.mpr ⟨within, (Position.index_eq_iff within).mp named⟩⟩
  · intro start stop
    exact exists_resolve_range (Nat.le_of_lt fits)

/-- In the longest list the last item that is named from the front is the first one that is named
from the back; the next one has a position from the back alone. -/
theorem single_addresses_longest :
    2 ^ 64 - 1 < 2 ^ 64 ∧
    (single ⟨2 ^ 63 - 1, by decide, by decide⟩).resolve (2 ^ 64 - 1) =
      .ok ⟨2 ^ 63 - 1, 2 ^ 63 - 1 + 1⟩ ∧
    (single ⟨-2 ^ 63, by decide, by decide⟩).resolve (2 ^ 64 - 1) =
      .ok ⟨2 ^ 63 - 1, 2 ^ 63 - 1 + 1⟩ ∧
    (∃ position, (single position).resolve (2 ^ 64 - 1) = .ok ⟨2 ^ 63, 2 ^ 63 + 1⟩) ∧
    ∃ first last, (range first last).resolve (2 ^ 64 - 1) = .ok ⟨2 ^ 63 - 1, 2 ^ 64 - 1⟩ := by
  obtain ⟨granted, -, reached, spans⟩ := single_addresses_each_item (2 ^ 64 - 1) (by decide)
  refine ⟨by decide, (granted _ _).mpr ?_, (granted _ _).mpr ?_, reached _ (by decide),
    spans _ _ (by decide) (by decide)⟩
  · exact ⟨by decide, .inl (by decide)⟩
  · exact ⟨by decide, .inr (by decide)⟩

end Subscript

end CaseLabel
