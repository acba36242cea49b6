import CaseLabel.Proofs.Argument.Equality
import CaseLabel.Proofs.Style.Printable

/-!
# Descriptions of arguments that are the same

The texts of two scalars that are the same differ at most in the minus sign of a zero, and where
they differ they differ in their first character. So the first place where two descriptions differ
decides that they do, whatever stands behind it (`ToldApart`). Main statements:

* the texts of arguments that are the same are told apart in every style (`toldApart_of_same`);
* so arguments that are the same have the same description exactly if their zeros have the same
  signs (`same_described_alike_iff`).
-/

namespace CaseLabel

/-- The texts of the two differ, whatever stands behind them, unless the two are equal. -/
def ToldApart {α : Type} (text : α → List Char) (a b : α) : Prop :=
  ∀ rest rest', text a ++ rest = text b ++ rest' → a = b

section Lists

variable {α : Type} {text : α → List Char} {as bs : List α}

theorem toldApart_intercalate (separator : List Char) (h : List.Forall₂ (ToldApart text) as bs) :
    ToldApart (fun items => separator.intercalate (items.map text)) as bs := by
  induction h with
  | nil => exact fun _ _ _ => rfl
  | @cons a b as bs first others ih =>
    intro rest rest' same
    cases others with
    | nil =>
      simp only [List.map_cons, List.map_nil, List.intercalate_singleton] at same
      rw [first _ _ same]
    | cons second others =>
      simp only [List.map_cons, List.intercalate_cons_cons, List.append_assoc] at same ih
      have equal : a = b := first _ _ same
      subst equal
      have behind := List.append_cancel_left (List.append_cancel_left same)
      rw [ih _ _ behind]

/-- Items between brackets. -/
theorem toldApart_bracketed (separator : List Char) (h : List.Forall₂ (ToldApart text) as bs) :
    ToldApart (fun items => '[' :: separator.intercalate (items.map text) ++ [']']) as bs := by
  intro rest rest' same
  simp only [List.cons_append, List.append_assoc] at same
  exact toldApart_intercalate separator h _ _ (List.cons.inj same).2

end Lists

namespace Scalar

theorem chars_of_zeroSign? {s : Scalar} {sign : Bool} (zero : s.zeroSign? = some sign) :
    s.chars = if sign then ['-', '0', '.', '0'] else ['0', '.', '0'] := by
  obtain ⟨format, bits, rfl, isZero, rfl⟩ := exists_of_zeroSign? zero
  have magnitude : Binary.magnitude bits = 0 := by simpa [Binary.isZero] using isZero
  simp [chars, Layout.chars, Layout.magnitude, Binary.isNaN_of_isZero isZero, magnitude]

/-- The texts of two zeros differ in their first character if the signs do. -/
theorem toldApart_of_same {s t : Scalar} (h : s.same t = true) : ToldApart chars s t := by
  intro rest rest' same
  rcases same_iff.mp h with ⟨-, equal⟩ | ⟨kinds, zero, zero'⟩
  · exact equal
  · obtain ⟨sign, zero⟩ := Option.isSome_iff_exists.mp zero
    obtain ⟨sign', zero'⟩ := Option.isSome_iff_exists.mp zero'
    rw [chars_of_zeroSign? zero, chars_of_zeroSign? zero'] at same
    have signs : sign = sign' := by
      cases sign <;> cases sign' <;> simp at same ⊢
    subst signs
    exact eq_of_zeroSign? kinds zero zero'

end Scalar

theorem ScalarArray.toldApart_of_same {array other : ScalarArray} (h : array.same other = true) :
    ToldApart chars array other := by
  intro rest rest' same
  obtain ⟨kinds, elements⟩ := same_iff.mp h
  have apart := elements.imp fun _ _ => Scalar.toldApart_of_same
  exact ext_scalars kinds (toldApart_bracketed [',', ' '] apart _ _ same)

namespace Style

/-- A zero is described as it is written. -/
theorem textOf_of_isSome_zeroSign? (style : Style) {s : Scalar}
    (zero : s.zeroSign?.isSome = true) : (style.textOf (.scalar s)).toList = s.chars := by
  obtain ⟨sign, zero⟩ := Option.isSome_iff_exists.mp zero
  obtain ⟨format, bits, rfl, -⟩ := Scalar.exists_of_zeroSign? zero
  rw [style.textOf_scalar (by simp), Scalar.text, String.toList_ofList]

variable (style : Style)

theorem toList_textOf_list (items : List Argument) :
    (style.textOf (.list items)).toList =
      '[' :: style.separator.toList.intercalate
        (items.map fun item => (style.textOf item).toList) ++ [']'] := by
  simp only [textOf, String.toList_append, String.toList_intercalate, textsOf_eq_map, List.map_map]
  rfl

/-- The texts of arguments that are the same are told apart in every style. -/
theorem toldApart_of_same {a b : Argument} (h : a.same b = true) :
    ToldApart (fun argument => (style.textOf argument).toList) a b := by
  induction a using Argument.induction generalizing b with
  | null => exact fun _ _ _ => (Argument.same_null_iff.mp h).symm
  | text t => exact fun _ _ _ => (Argument.same_text_iff.mp h).symm
  | object description => exact fun _ _ _ => (Argument.same_object_iff.mp h).symm
  | scalar s =>
    obtain ⟨t, rfl, same⟩ := Argument.same_scalar_iff.mp h
    intro rest rest' texts
    rcases Scalar.same_iff.mp same with ⟨-, equal⟩ | ⟨-, zero, zero'⟩
    · rw [equal]
    · simp only [style.textOf_of_isSome_zeroSign? zero, style.textOf_of_isSome_zeroSign? zero']
        at texts
      rw [Scalar.toldApart_of_same same _ _ texts]
  | scalars array =>
    obtain ⟨array', rfl, same⟩ := Argument.same_scalars_iff.mp h
    intro rest rest' texts
    simp only [textOf, ScalarArray.text, String.toList_ofList] at texts
    rw [ScalarArray.toldApart_of_same same _ _ texts]
  | list items ih =>
    obtain ⟨items', rfl, same⟩ := Argument.same_list_iff.mp h
    have apart := (forall₂_mem same).imp fun item _ related => ih item related.1 related.2
    intro rest rest' texts
    simp only [toList_textOf_list] at texts
    rw [toldApart_bracketed _ apart _ _ texts]

/-- Being the same is symmetric and transitive, and only what is no number is not the same as
itself. Arguments that are the same have the same description exactly if the zeros at each of their
places have the same sign. -/
theorem same_described_alike_iff :
    (∀ a b : Argument, a.same b = b.same a) ∧
    (∀ a b c : Argument, a.same b = true → b.same c = true → a.same c = true) ∧
    (∀ a : Argument, a.same a = true ↔ ¬ a.HoldsNaN) ∧
    ∀ a b : Argument, a.same b = true → ∀ style : Style,
      (style.describe a).value = (style.describe b).value ↔
        ∀ path, a.zeroSignAt path = b.zeroSignAt path := by
  refine ⟨Argument.same_comm, fun a b c => Argument.same_trans, fun a => Argument.same_self_iff, ?_⟩
  intro a b same style
  constructor
  · intro described path
    rw [describe_eq, describe_eq] at described
    have texts : (style.textOf a).toList = (style.textOf b).toList := congrArg _ described
    have equal : a = b := style.toldApart_of_same same [] [] (congrArg (· ++ []) texts)
    rw [equal]
  · intro signs
    rw [Argument.eq_of_same same signs]

/-- Two zeros in either order: the texts differ at the first, and the second does not make up for
it. -/
example :
    let negative : Argument := .scalars ⟨.float .binary32, [0x80000000#32, 0#32]⟩
    let positive : Argument := .scalars ⟨.float .binary32, [0#32, 0x80000000#32]⟩
    negative.same positive = true ∧ (standard.describe negative).value = "[-0.0, 0.0]" ∧
      (standard.describe positive).value = "[0.0, -0.0]" := by
  decide +kernel

end Style

end CaseLabel
