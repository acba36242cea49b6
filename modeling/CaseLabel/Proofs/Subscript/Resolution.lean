import CaseLabel.Subscript.Span
import Mathlib.Algebra.Group.Int.Defs
import Mathlib.Algebra.Group.Nat.Defs

/-!
# Resolution in numbers of fixed size

A subscript is resolved in unbounded numbers. `resolveFixed?` takes the same steps where a count is
a 64-bit word and sums are taken in the signed 128-bit range, and has no result as soon as a sum
leaves the range or a bound that was found good is no word; `selectFixed?` has none either if the
span misses the list. Main statements:

* below `2 ^ 64` items the steps always have a result, the one of the unbounded resolution
  (`resolveFixed?_eq`, `selectFixed?_eq`);
* the resolution grants a span exactly if its bounds are in order and within the list
  (`resolve_eq_ok_iff`, `resolve_eq_error_iff`);
* what is granted is selected, and nothing else (`selectAs_eq_ok`, `selectAs_eq_error`).
-/

namespace CaseLabel

/-- A sum in the signed 128-bit range. -/
def Wide.add? (m n : Int) : Option Int :=
  if -2 ^ 127 ≤ m + n ∧ m + n < 2 ^ 127 then some (m + n) else none

/-- A count in the signed 128-bit range. -/
def Wide.ofCount? (count : Nat) : Option Int := if count < 2 ^ 127 then some count else none

/-- A number as a 64-bit word. -/
def Wide.word? (n : Int) : Option Nat := if 0 ≤ n ∧ n < 2 ^ 64 then some n.toNat else none

/-- The index that a position names. -/
def Position.indexFixed? (p : Position) (size : Int) : Option Int :=
  if 0 ≤ p.val then some p.val else Wide.add? size p.val

namespace Subscript

/-- The span between two bounds as words. -/
def spanFixed? (start stop : Int) : Option Span := do
  let startWord ← Wide.word? start
  let stopWord ← Wide.word? stop
  some ⟨startWord, stopWord⟩

/-- The steps of `resolveAs` in numbers of fixed size. -/
def resolveFixed? (label : String) (subscript : Subscript) (count : Nat) :
    Option (Except Failure Span) := do
  let size ← Wide.ofCount? count
  let start ← subscript.first.indexFixed? size
  let last ← subscript.last.indexFixed? size
  let stop ← Wide.add? last 1
  if start < 0 ∨ stop < start ∨ size < stop then
    some (.error (.outOfRange ⟨label, start, stop, count⟩))
  else (spanFixed? start stop).map .ok

/-- The steps of `selectAs` in numbers of fixed size. -/
def selectFixed? {α : Type} (label : String) (subscript : Subscript) (items : List α) :
    Option (Except Failure (List α)) := do
  let resolved ← subscript.resolveFixed? label items.length
  match resolved with
  | .error failure => some (.error failure)
  | .ok span =>
    let selected ← span.slice? items
    some (.ok selected)

end Subscript

theorem Wide.add?_eq_some {m n : Int} (low : -2 ^ 127 ≤ m + n) (high : m + n < 2 ^ 127) :
    Wide.add? m n = some (m + n) := by
  rw [add?, if_pos ⟨low, high⟩]

theorem Wide.word?_eq_some {n : Int} (low : 0 ≤ n) (high : n < 2 ^ 64) :
    Wide.word? n = some n.toNat := by
  rw [word?, if_pos ⟨low, high⟩]

namespace Position

variable {count : Nat}

theorem index_bounds (p : Position) (fits : count < 2 ^ 64) :
    -2 ^ 63 ≤ p.index count ∧ p.index count < 2 ^ 64 := by
  have := p.min_le
  have := p.lt_max
  unfold index
  split
  · omega
  · omega

theorem indexFixed?_eq (p : Position) (fits : count < 2 ^ 64) :
    p.indexFixed? count = some (p.index count) := by
  have bounds := p.index_bounds fits
  unfold index at bounds ⊢
  unfold indexFixed?
  split
  next front => rfl
  next back =>
    rw [if_neg back] at bounds
    exact Wide.add?_eq_some (by omega) (by omega)

end Position

namespace Subscript

variable {label : String} {subscript : Subscript} {count : Nat}

/-- The bounds are in order and within the list. -/
def InRange (subscript : Subscript) (count : Nat) : Prop :=
  0 ≤ subscript.start count ∧ subscript.start count ≤ subscript.stop count ∧
    subscript.stop count ≤ count

theorem resolveAs_eq_ok (inRange : subscript.InRange count) :
    subscript.resolveAs label count =
      .ok ⟨(subscript.start count).toNat, (subscript.stop count).toNat⟩ := by
  unfold InRange at inRange
  simp only [resolveAs, if_pos inRange]

theorem resolveAs_eq_error (outside : ¬ subscript.InRange count) :
    subscript.resolveAs label count =
      .error (.outOfRange ⟨label, subscript.start count, subscript.stop count, count⟩) := by
  unfold InRange at outside
  simp only [resolveAs, if_neg outside]

/-- A subscript is granted one span, or refused with the bounds it asks for, under every name. -/
theorem granted_or_refused (subscript : Subscript) (count : Nat) :
    (∃ span, ∀ label, subscript.resolveAs label count = .ok span) ∨
      ∀ label, subscript.resolveAs label count =
        .error (.outOfRange ⟨label, subscript.start count, subscript.stop count, count⟩) := by
  by_cases inRange : subscript.InRange count
  · exact .inl ⟨_, fun _ => resolveAs_eq_ok inRange⟩
  · exact .inr fun _ => resolveAs_eq_error inRange

theorem spanFixed?_eq (inRange : subscript.InRange count) (fits : count < 2 ^ 64) :
    spanFixed? (subscript.start count) (subscript.stop count) =
      some ⟨(subscript.start count).toNat, (subscript.stop count).toNat⟩ := by
  obtain ⟨low, ordered, high⟩ := inRange
  have startWord := Wide.word?_eq_some low (by omega)
  have stopWord := Wide.word?_eq_some (n := subscript.stop count) (by omega) (by omega)
  simp [spanFixed?, startWord, stopWord]

/-- No sum leaves the 128-bit range, and bounds that are in range are words. -/
theorem resolveFixed?_eq (fits : count < 2 ^ 64) :
    subscript.resolveFixed? label count = some (subscript.resolveAs label count) := by
  have size : Wide.ofCount? count = some (count : Int) := by
    rw [Wide.ofCount?, if_pos (by omega)]
  have bounds := subscript.last.index_bounds fits
  have stop : Wide.add? (subscript.last.index count) 1 = some (subscript.stop count) :=
    Wide.add?_eq_some (by omega) (by omega)
  simp only [resolveFixed?, size, subscript.first.indexFixed?_eq fits,
    subscript.last.indexFixed?_eq fits, stop, Option.bind_eq_bind, Option.bind_some]
  change (if subscript.start count < 0 ∨ subscript.stop count < subscript.start count ∨
      count < subscript.stop count then _ else _) = _
  by_cases inRange : subscript.InRange count
  · have good := inRange
    unfold InRange at good
    rw [if_neg (by omega), resolveAs_eq_ok inRange]
    exact congrArg (Option.map Except.ok) (spanFixed?_eq inRange fits)
  · have bad := inRange
    unfold InRange at bad
    rw [if_pos (by omega), resolveAs_eq_error inRange]
    rfl

theorem slice?_eq_some {α : Type} {items : List α}
    (inRange : subscript.InRange items.length) :
    Span.slice? ⟨(subscript.start items.length).toNat, (subscript.stop items.length).toNat⟩ items =
      some ((items.drop (subscript.start items.length).toNat).take
        ((subscript.stop items.length).toNat - (subscript.start items.length).toNat)) := by
  obtain ⟨low, ordered, high⟩ := inRange
  rw [Span.slice?, if_pos]
  dsimp only
  omega

section Select

variable {α : Type} {items : List α}

/-- A granted span never misses the list. -/
theorem slice?_of_resolveAs {span : Span} (h : subscript.resolveAs label items.length = .ok span) :
    span.slice? items = some ((items.drop span.start).take (span.stop - span.start)) ∧
      ((items.drop span.start).take (span.stop - span.start)).length = span.stop - span.start := by
  by_cases inRange : subscript.InRange items.length
  · rw [resolveAs_eq_ok inRange] at h
    cases h
    refine ⟨slice?_eq_some inRange, ?_⟩
    obtain ⟨low, ordered, high⟩ := inRange
    simp only [List.length_take, List.length_drop]
    omega
  · rw [resolveAs_eq_error inRange] at h
    cases h

theorem selectAs_eq_ok {span : Span} (h : subscript.resolveAs label items.length = .ok span) :
    subscript.selectAs label items =
      .ok ((items.drop span.start).take (span.stop - span.start)) := by
  have sliced := (slice?_of_resolveAs h).1
  simp only [selectAs, h, bind, Except.bind, sliced]

theorem selectAs_eq_error {failure : Failure}
    (h : subscript.resolveAs label items.length = .error failure) :
    subscript.selectAs label items = .error failure := by
  simp only [selectAs, h, bind, Except.bind]

theorem subset_of_selectAs {selected : List α}
    (h : subscript.selectAs label items = .ok selected) : selected ⊆ items := by
  cases resolved : subscript.resolveAs label items.length with
  | error failure =>
    rw [selectAs_eq_error resolved] at h
    cases h
  | ok span =>
    rw [selectAs_eq_ok resolved] at h
    cases h
    exact List.Subset.trans (List.take_subset _ _) (List.drop_subset _ _)

theorem selectFixed?_eq (fits : items.length < 2 ^ 64) :
    subscript.selectFixed? label items = some (subscript.selectAs label items) := by
  unfold selectFixed?
  rw [resolveFixed?_eq fits, Option.bind_eq_bind, Option.bind_some]
  cases resolved : subscript.resolveAs label items.length with
  | error failure => simp only [selectAs_eq_error resolved]
  | ok span =>
    have sliced := (slice?_of_resolveAs resolved).1
    simp only [selectAs_eq_ok resolved, sliced, Option.bind_eq_bind, Option.bind_some]

end Select

theorem resolve_eq_ok_iff :
    subscript.InRange count ↔
      ∃ span, subscript.resolve count = .ok span ∧
        (span.start : Int) = subscript.start count ∧ (span.stop : Int) = subscript.stop count := by
  constructor
  · intro inRange
    refine ⟨_, resolveAs_eq_ok inRange, ?_, ?_⟩
    · obtain ⟨low, ordered, high⟩ := inRange
      exact Int.toNat_of_nonneg low
    · obtain ⟨low, ordered, high⟩ := inRange
      exact Int.toNat_of_nonneg (Int.le_trans low ordered)
  · intro ⟨span, resolved, _⟩
    by_cases inRange : subscript.InRange count
    · exact inRange
    · rw [resolve, resolveAs_eq_error inRange] at resolved
      cases resolved

theorem resolve_eq_error_iff :
    ¬ subscript.InRange count ↔
      subscript.resolve count = .error
        (.outOfRange ⟨subscript.text, subscript.start count, subscript.stop count, count⟩) := by
  constructor
  · intro outside
    exact resolveAs_eq_error outside
  · intro resolved inRange
    rw [resolve, resolveAs_eq_ok inRange] at resolved
    cases resolved

/-- The span that is granted has the bounds that the subscript asks for. -/
theorem resolve_eq_ok_span_iff {span : Span} :
    subscript.resolve count = .ok span ↔
      subscript.start count = span.start ∧ subscript.stop count = span.stop ∧
        span.start ≤ span.stop ∧ span.stop ≤ count := by
  constructor
  · intro resolved
    by_cases inRange : subscript.InRange count
    · rw [resolve, resolveAs_eq_ok inRange] at resolved
      cases resolved
      obtain ⟨low, ordered, high⟩ := inRange
      dsimp only
      omega
    · rw [resolve, resolveAs_eq_error inRange] at resolved
      cases resolved
  · intro ⟨first, last, ordered, within⟩
    have inRange : subscript.InRange count := by
      unfold InRange
      omega
    rw [resolve, resolveAs_eq_ok inRange, first, last, Int.toNat_natCast, Int.toNat_natCast]

/-- A position counts from the front or from the back, and the last one is selected too. The span
is granted exactly if its bounds are in order and within the list; else the failure shows these
bounds. What is granted is the part of the list that is selected. In numbers of fixed size no step
on the way fails. -/
theorem resolve_and_select_iff (subscript : Subscript) :
    (∀ (count : Nat) (start stop : Int),
      start = (if 0 ≤ subscript.first.val then subscript.first.val
        else count + subscript.first.val) →
      stop = (if 0 ≤ subscript.last.val then subscript.last.val + 1
        else count + subscript.last.val + 1) →
      (0 ≤ start ∧ start ≤ stop ∧ stop ≤ count ↔
        ∃ span, subscript.resolve count = .ok span ∧
          (span.start : Int) = start ∧ (span.stop : Int) = stop) ∧
      (¬ (0 ≤ start ∧ start ≤ stop ∧ stop ≤ count) ↔
        subscript.resolve count = .error (.outOfRange ⟨subscript.text, start, stop, count⟩)) ∧
      (count < 2 ^ 64 →
        subscript.resolveFixed? subscript.text count = some (subscript.resolve count))) ∧
    ∀ (α : Type) (items : List α),
      (∀ span, subscript.resolve items.length = .ok span →
        subscript.select items = .ok ((items.drop span.start).take (span.stop - span.start)) ∧
        ((items.drop span.start).take (span.stop - span.start)).length =
          span.stop - span.start) ∧
      (∀ failure, subscript.resolve items.length = .error failure →
        subscript.select items = .error failure) ∧
      (items.length < 2 ^ 64 →
        subscript.selectFixed? subscript.text items = some (subscript.select items)) := by
  constructor
  · intro count start stop startEq stopEq
    have first : start = subscript.start count := startEq
    have last : stop = subscript.stop count := by
      rw [stopEq, Subscript.stop, Position.index]
      split
      · rfl
      · rfl
    rw [first, last]
    exact ⟨resolve_eq_ok_iff, resolve_eq_error_iff, resolveFixed?_eq⟩
  · intro α items
    refine ⟨fun span resolved => ?_, fun failure resolved => selectAs_eq_error resolved,
      selectFixed?_eq⟩
    exact ⟨selectAs_eq_ok resolved, (slice?_of_resolveAs resolved).2⟩

end Subscript

end CaseLabel
