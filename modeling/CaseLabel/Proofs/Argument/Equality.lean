import CaseLabel.Proofs.Argument.Places
import CaseLabel.Proofs.Argument.ScalarEquality

/-!
# Equality of arguments

Arguments are the same if they have the same form and their scalars are the same as values. Main
statements:

* equality is symmetric and transitive (`same_comm`, `same_trans`), and an argument is the same as
  itself exactly if it holds nothing that is no number (`same_self_iff`);
* arguments that are the same differ at most in the signs of zeros (`eq_of_same`).
-/

namespace CaseLabel.Argument

/-- A float that is no number stands somewhere in the argument. -/
def HoldsNaN (argument : Argument) : Prop :=
  ∃ path s, argument.scalarAt path = some s ∧ s.isNaN = true

/-- The sign of the zero that a path leads to, if it leads to one. -/
def zeroSignAt (argument : Argument) (path : List Nat) : Option Bool :=
  (argument.scalarAt path).bind Scalar.zeroSign?

section Forms

variable {other : Argument}

attribute [local simp] same allSame

theorem allSame_iff {as bs : List Argument} :
    allSame as bs = true ↔ List.Forall₂ (fun a b => a.same b = true) as bs := by
  induction as generalizing bs with
  | nil => cases bs <;> simp
  | cons a as ih =>
    cases bs with
    | nil => simp
    | cons b bs => simp [ih]

theorem same_null_iff : same .null other = true ↔ other = .null := by
  cases other <;> simp

theorem same_text_iff {t : String} : same (.text t) other = true ↔ other = .text t := by
  cases other with
  | text u =>
    rw [same, beq_iff_eq, text.injEq]
    exact eq_comm
  | _ => simp

theorem same_scalar_iff {s : Scalar} :
    same (.scalar s) other = true ↔ ∃ t, other = .scalar t ∧ s.same t = true := by
  cases other <;> simp

theorem same_scalars_iff {array : ScalarArray} :
    same (.scalars array) other = true ↔
      ∃ array', other = .scalars array' ∧ array.same array' = true := by
  cases other <;> simp

theorem same_list_iff {items : List Argument} :
    same (.list items) other = true ↔
      ∃ items', other = .list items' ∧ List.Forall₂ (fun a b => a.same b = true) items items' := by
  cases other <;> simp [allSame_iff]

theorem same_object_iff {description : Option String} :
    same (.object description) other = true ↔ other = .object description := by
  cases other with
  | object description' =>
    rw [same, beq_iff_eq, object.injEq]
    exact eq_comm
  | _ => simp

end Forms

theorem same_symm {a b : Argument} (h : a.same b = true) : b.same a = true := by
  induction a using induction generalizing b with
  | null =>
    rw [same_null_iff.mp h]
    rfl
  | text t =>
    rw [same_text_iff.mp h]
    exact same_text_iff.mpr rfl
  | scalar s =>
    obtain ⟨t, rfl, same⟩ := same_scalar_iff.mp h
    exact same_scalar_iff.mpr ⟨s, rfl, Scalar.same_symm same⟩
  | scalars array =>
    obtain ⟨other, rfl, same⟩ := same_scalars_iff.mp h
    exact same_scalars_iff.mpr ⟨array, rfl, ScalarArray.same_symm same⟩
  | list items ih =>
    obtain ⟨items', rfl, same⟩ := same_list_iff.mp h
    exact same_list_iff.mpr ⟨items, rfl, forall₂_symm (fun item member _ => ih item member) same⟩
  | object description =>
    rw [same_object_iff.mp h]
    exact same_object_iff.mpr rfl

theorem same_comm (a b : Argument) : a.same b = b.same a :=
  Bool.eq_iff_iff.mpr ⟨same_symm, same_symm⟩

theorem same_trans {a b c : Argument} (h : a.same b = true) (h' : b.same c = true) :
    a.same c = true := by
  induction a using induction generalizing b c with
  | null => rwa [same_null_iff.mp h] at h'
  | text t => rwa [same_text_iff.mp h] at h'
  | scalar s =>
    obtain ⟨t, rfl, first⟩ := same_scalar_iff.mp h
    obtain ⟨u, rfl, second⟩ := same_scalar_iff.mp h'
    exact same_scalar_iff.mpr ⟨u, rfl, Scalar.same_trans first second⟩
  | scalars array =>
    obtain ⟨array', rfl, first⟩ := same_scalars_iff.mp h
    obtain ⟨array'', rfl, second⟩ := same_scalars_iff.mp h'
    exact same_scalars_iff.mpr ⟨array'', rfl, ScalarArray.same_trans first second⟩
  | list items ih =>
    obtain ⟨items', rfl, first⟩ := same_list_iff.mp h
    obtain ⟨items'', rfl, second⟩ := same_list_iff.mp h'
    exact same_list_iff.mpr
      ⟨items'', rfl, forall₂_trans (fun item member _ _ => ih item member) first second⟩
  | object description => rwa [same_object_iff.mp h] at h'

theorem not_holdsNaN {argument : Argument} (none : ∀ path, argument.scalarAt path = none) :
    ¬ argument.HoldsNaN := by
  rintro ⟨path, s, found, -⟩
  rw [none path] at found
  cases found

theorem holdsNaN_scalar_iff {s : Scalar} : HoldsNaN (.scalar s) ↔ s.isNaN = true := by
  constructor
  · rintro ⟨path, t, found, isNaN⟩
    cases path with
    | nil =>
      cases found
      exact isNaN
    | cons i path => cases found
  · exact fun isNaN => ⟨[], s, rfl, isNaN⟩

theorem holdsNaN_scalars_iff {array : ScalarArray} :
    HoldsNaN (.scalars array) ↔ ∃ s ∈ array.scalars, s.isNaN = true := by
  constructor
  · rintro ⟨path, s, found, isNaN⟩
    match path with
    | [i] => exact ⟨s, List.mem_of_getElem? found, isNaN⟩
    | [] => cases found
    | _ :: _ :: _ => cases found
  · rintro ⟨s, member, isNaN⟩
    obtain ⟨i, found⟩ := List.mem_iff_getElem?.mp member
    exact ⟨[i], s, found, isNaN⟩

theorem holdsNaN_list_iff {items : List Argument} :
    HoldsNaN (.list items) ↔ ∃ item ∈ items, item.HoldsNaN := by
  constructor
  · rintro ⟨path, s, found, isNaN⟩
    cases path with
    | nil => cases found
    | cons i path =>
      rw [scalarAt] at found
      obtain ⟨item, place, found⟩ := Option.bind_eq_some_iff.mp found
      exact ⟨item, List.mem_of_getElem? place, path, s, found, isNaN⟩
  · rintro ⟨item, member, path, s, found, isNaN⟩
    obtain ⟨i, place⟩ := List.mem_iff_getElem?.mp member
    exact ⟨i :: path, s, by rw [scalarAt, place, Option.bind_some, found], isNaN⟩

/-- Only what is no number keeps an argument from being the same as itself. -/
theorem same_self_iff {argument : Argument} :
    argument.same argument = true ↔ ¬ argument.HoldsNaN := by
  induction argument using induction with
  | null =>
    refine iff_of_true rfl (not_holdsNaN fun path => ?_)
    cases path <;> rfl
  | text t =>
    refine iff_of_true (same_text_iff.mpr rfl) (not_holdsNaN fun path => ?_)
    cases path <;> rfl
  | scalar s => simp [same, holdsNaN_scalar_iff, Scalar.same_self_iff]
  | scalars array => simp [same, holdsNaN_scalars_iff, ScalarArray.same_self_iff]
  | list items ih =>
    rw [same, allSame_iff, List.forall₂_same, holdsNaN_list_iff]
    simp only [not_exists, not_and]
    exact forall₂_congr ih
  | object description =>
    refine iff_of_true (same_object_iff.mpr rfl) (not_holdsNaN fun path => ?_)
    cases path <;> rfl

/-- Arguments that are the same and have zeros of the same signs are equal. -/
theorem eq_of_same {a b : Argument} (h : a.same b = true)
    (signs : ∀ path, a.zeroSignAt path = b.zeroSignAt path) : a = b := by
  induction a using induction generalizing b with
  | null => exact (same_null_iff.mp h).symm
  | text t => exact (same_text_iff.mp h).symm
  | scalar s =>
    obtain ⟨t, rfl, same⟩ := same_scalar_iff.mp h
    have equal : s = t := Scalar.eq_of_same same (signs [])
    rw [equal]
  | scalars array =>
    obtain ⟨array', rfl, same⟩ := same_scalars_iff.mp h
    rw [ScalarArray.same_iff] at same
    have elements : array.scalars = array'.scalars := by
      apply eq_of_forall₂ same.2
      intro i s t place place' same
      have sign := signs [i]
      simp only [zeroSignAt, scalarAt, place, place', Option.bind_some] at sign
      exact Scalar.eq_of_same same sign
    rw [ScalarArray.ext_scalars same.1 elements]
  | list items ih =>
    obtain ⟨items', rfl, same⟩ := same_list_iff.mp h
    have equal : items = items' := by
      apply eq_of_forall₂ same
      intro i item item' place place' same
      apply ih item (List.mem_of_getElem? place) same
      intro path
      have sign := signs (i :: path)
      simpa only [zeroSignAt, scalarAt, place, place', Option.bind_some] using sign
    rw [equal]
  | object description => exact (same_object_iff.mp h).symm

end CaseLabel.Argument
