import CaseLabel.Argument.Scalar
import CaseLabel.Proofs.RelatedLists

/-!
# Equality of scalars and of arrays

Floats are compared as numbers: one that is no number is the same as nothing, and a zero is the same
as the zero of the other sign. Scalars of all other kinds are the same if they are equal. Main
statements:

* two scalars are the same if they are one scalar that is a number, or two zeros
  (`Scalar.same_iff`);
* equality of scalars and of arrays is symmetric, transitive, and reflexive where every float is a
  number (`ScalarArray.same_self_iff`).
-/

namespace CaseLabel

namespace Binary

variable {format : Binary} {a b : format.Bits}

theorem isNaN_of_isZero (zero : isZero a = true) : isNaN a = false := by
  rw [isZero, decide_eq_true_eq] at zero
  rw [isNaN, decide_eq_false_iff_not, zero]
  exact Nat.not_lt_zero _

theorem same_iff :
    same a b = true ↔ isNaN a = false ∧ a = b ∨ isZero a = true ∧ isZero b = true := by
  simp only [same, Bool.and_eq_true, Bool.or_eq_true, Bool.not_eq_true', beq_iff_eq]
  constructor
  · rintro ⟨⟨number, -⟩, equal | zeros⟩
    · exact .inl ⟨number, equal⟩
    · exact .inr zeros
  · rintro (⟨number, rfl⟩ | ⟨zero, zero'⟩)
    · exact ⟨⟨number, number⟩, .inl rfl⟩
    · exact ⟨⟨isNaN_of_isZero zero, isNaN_of_isZero zero'⟩, .inr ⟨zero, zero'⟩⟩

/-- Below its sign a zero has no bit. -/
theorem getLsbD_of_isZero (zero : isZero a = true) {i : Nat} (below : i < format.width - 1) :
    a.getLsbD i = false := by
  rw [isZero, decide_eq_true_eq, magnitude] at zero
  have rest : a.setWidth (format.width - 1) = 0#(format.width - 1) := BitVec.eq_of_toNat_eq zero
  have bit := congrArg (BitVec.getLsbD · i) rest
  simpa [below] using bit

theorem eq_of_isZero (zero : isZero a = true) (zero' : isZero b = true)
    (signs : isNegative a = isNegative b) : a = b := by
  apply BitVec.eq_of_getLsbD_eq
  intro i within
  by_cases below : i < format.width - 1
  · rw [getLsbD_of_isZero zero below, getLsbD_of_isZero zero' below]
  · have last : i = format.width - 1 := by omega
    rw [isNegative, isNegative, BitVec.msb_eq_getLsbD_last, BitVec.msb_eq_getLsbD_last] at signs
    rw [last, signs]

end Binary

theorem Whole.val_inj {kind : WholeKind} {m n : Whole kind} : m.val = n.val ↔ m = n := by
  cases m
  cases n
  simp

namespace Scalar

/-- A float that is no number. -/
def isNaN : Scalar → Bool
  | ⟨.float _, bits⟩ => Binary.isNaN bits
  | _ => false

/-- The sign of a float that is zero, `true` for the negative one. -/
def zeroSign? : Scalar → Option Bool
  | ⟨.float _, bits⟩ => if Binary.isZero bits then some (Binary.isNegative bits) else none
  | _ => none

theorem kind_eq_of_same {s t : Scalar} (h : s.same t = true) : s.kind = t.kind := by
  unfold same at h
  split at h
  · rfl
  · rfl
  · rw [Bool.and_eq_true, beq_iff_eq] at h
    exact congrArg Kind.whole h.1
  · rfl
  · rfl
  · cases h

/-- Two scalars are the same if they are one scalar, and a number if they are floats, or if both
are zeros of one format. -/
theorem same_iff {s t : Scalar} : s.same t = true ↔
    s.isNaN = false ∧ s = t ∨
      s.kind = t.kind ∧ s.zeroSign?.isSome = true ∧ t.zeroSign?.isSome = true := by
  by_cases kinds : s.kind = t.kind
  · obtain ⟨kind, v⟩ := s
    obtain ⟨other, w⟩ := t
    cases kinds
    cases kind with
    | bool => simp [same, isNaN, zeroSign?]
    | char => simp [same, isNaN, zeroSign?]
    | whole kind => simp [same, isNaN, zeroSign?, Whole.val_inj]
    | float format =>
      cases format with
      | binary32 => simp [same, isNaN, zeroSign?, Binary.same_iff]
      | binary64 => simp [same, isNaN, zeroSign?, Binary.same_iff]
  · constructor
    · exact fun h => absurd (kind_eq_of_same h) kinds
    · rintro (⟨-, rfl⟩ | ⟨same, -⟩)
      · exact absurd rfl kinds
      · exact absurd same kinds

/-- Only floats are zeros. -/
theorem exists_of_zeroSign? {s : Scalar} {sign : Bool} (zero : s.zeroSign? = some sign) :
    ∃ (format : Binary) (bits : format.Bits),
      s = ⟨.float format, bits⟩ ∧ Binary.isZero bits = true ∧ Binary.isNegative bits = sign := by
  unfold zeroSign? at zero
  split at zero
  next format bits =>
    simp only [Option.ite_none_right_eq_some, Option.some.injEq] at zero
    exact ⟨format, bits, rfl, zero⟩
  next => cases zero

theorem isNaN_of_zeroSign? {s : Scalar} {sign : Bool} (zero : s.zeroSign? = some sign) :
    s.isNaN = false := by
  obtain ⟨format, bits, rfl, isZero, -⟩ := exists_of_zeroSign? zero
  exact Binary.isNaN_of_isZero isZero

theorem eq_of_zeroSign? {s t : Scalar} {sign : Bool} (kinds : s.kind = t.kind)
    (zero : s.zeroSign? = some sign) (zero' : t.zeroSign? = some sign) : s = t := by
  obtain ⟨format, bits, rfl, isZero, negative⟩ := exists_of_zeroSign? zero
  obtain ⟨format', bits', rfl, isZero', negative'⟩ := exists_of_zeroSign? zero'
  cases kinds
  rw [Binary.eq_of_isZero isZero isZero' (negative.trans negative'.symm)]

theorem same_symm {s t : Scalar} (h : s.same t = true) : t.same s = true := by
  rw [same_iff] at h ⊢
  rcases h with ⟨number, rfl⟩ | ⟨kinds, zero, zero'⟩
  · exact .inl ⟨number, rfl⟩
  · exact .inr ⟨kinds.symm, zero', zero⟩

theorem same_trans {s t u : Scalar} (first : s.same t = true) (second : t.same u = true) :
    s.same u = true := by
  rw [same_iff] at first
  rcases first with ⟨-, rfl⟩ | ⟨kinds, zero, zero'⟩
  · exact second
  · rw [same_iff] at second ⊢
    rcases second with ⟨-, rfl⟩ | ⟨kinds', -, zero''⟩
    · exact .inr ⟨kinds, zero, zero'⟩
    · exact .inr ⟨kinds.trans kinds', zero, zero''⟩

theorem same_self_iff {s : Scalar} : s.same s = true ↔ s.isNaN = false := by
  rw [same_iff]
  constructor
  · rintro (⟨number, -⟩ | ⟨-, zero, -⟩)
    · exact number
    · obtain ⟨sign, zero⟩ := Option.isSome_iff_exists.mp zero
      exact isNaN_of_zeroSign? zero
  · exact fun number => .inl ⟨number, rfl⟩

theorem eq_of_same {s t : Scalar} (h : s.same t = true) (signs : s.zeroSign? = t.zeroSign?) :
    s = t := by
  rcases same_iff.mp h with ⟨-, equal⟩ | ⟨kinds, zero, -⟩
  · exact equal
  · obtain ⟨sign, zero⟩ := Option.isSome_iff_exists.mp zero
    exact eq_of_zeroSign? kinds zero (signs ▸ zero)

end Scalar

namespace ScalarArray

theorem allSame_iff {ss ts : List Scalar} :
    allSame ss ts = true ↔ List.Forall₂ (fun s t => s.same t = true) ss ts := by
  induction ss generalizing ts with
  | nil => cases ts <;> simp [allSame]
  | cons s ss ih =>
    cases ts with
    | nil => simp [allSame]
    | cons t ts => simp [allSame, ih]

theorem same_iff {array other : ScalarArray} : array.same other = true ↔
    array.kind = other.kind ∧
      List.Forall₂ (fun s t => s.same t = true) array.scalars other.scalars := by
  rw [same, Bool.and_eq_true, beq_iff_eq, allSame_iff]

theorem same_symm {array other : ScalarArray} (h : array.same other = true) :
    other.same array = true := by
  rw [same_iff] at h ⊢
  exact ⟨h.1.symm, forall₂_symm (fun _ _ _ => Scalar.same_symm) h.2⟩

theorem same_trans {first second third : ScalarArray} (h : first.same second = true)
    (h' : second.same third = true) : first.same third = true := by
  rw [same_iff] at h h' ⊢
  exact ⟨h.1.trans h'.1, forall₂_trans (fun _ _ _ _ => Scalar.same_trans) h.2 h'.2⟩

theorem same_self_iff {array : ScalarArray} :
    array.same array = true ↔ ∀ s ∈ array.scalars, s.isNaN = false := by
  rw [same_iff, List.forall₂_same]
  simp [Scalar.same_self_iff]

/-- An array is its kind and its elements as scalars. -/
theorem ext_scalars {array other : ScalarArray} (kinds : array.kind = other.kind)
    (elements : array.scalars = other.scalars) : array = other := by
  obtain ⟨kind, vs⟩ := array
  obtain ⟨kind', ws⟩ := other
  cases kinds
  have injective : ∀ v w : kind.Value, (⟨kind, v⟩ : Scalar) = ⟨kind, w⟩ → v = w := by
    intro v w equal
    injection equal
  have items : vs = ws := (List.map_inj_right injective).mp elements
  rw [items]

end ScalarArray

end CaseLabel
