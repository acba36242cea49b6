import CaseLabel.Document.Argument
import CaseLabel.Proofs.Argument.Places
import CaseLabel.Proofs.Style.Printable
import Mathlib.Algebra.Group.Int.Defs

/-!
# Documents as arguments, place by place

Every path through the lists of a document leads to the same place in its argument
(`itemAt_argument`), so lists and the objects that are not inside of other objects keep their
places. Every number is read as a scalar (`scalar?_whole_of_lt`, `scalar?_whole_of_le`,
`scalar?_float`). Main statement: what this means for the forms in the argument and for its
description (`argument_mirrors`).
-/

namespace CaseLabel.Document

open Argument (Occurs)

/-- The document that a path through lists leads to. -/
def itemAt : Document → List Nat → Option Document
  | document, [] => some document
  | .list items, i :: path => items[i]?.bind fun item => itemAt item path
  | _, _ :: _ => none

def isNumber : Document → Bool
  | .whole _ => true
  | .float _ => true
  | _ => false

section Numbers

theorem scalar?_whole_of_lt {n : Document.Whole} (h : n.val < 2 ^ 63) :
    ∃ m : CaseLabel.Whole .signed64, m.val = n.val ∧
      scalar? (.whole n) = some ⟨.whole .signed64, m⟩ := by
  have fits : WholeKind.signed64.least ≤ n.val ∧ n.val ≤ WholeKind.signed64.greatest :=
    ⟨n.min_le, Int.le_sub_one_of_lt h⟩
  exact ⟨⟨n.val, fits.1, fits.2⟩, rfl, by simp [scalar?, signed?, CaseLabel.Whole.ofInt?, fits]⟩

theorem scalar?_whole_of_le {n : Document.Whole} (h : 2 ^ 63 ≤ n.val) :
    ∃ m : CaseLabel.Whole .unsigned64, m.val = n.val ∧
      scalar? (.whole n) = some ⟨.whole .unsigned64, m⟩ := by
  have large : ¬ (WholeKind.signed64.least ≤ n.val ∧ n.val ≤ WholeKind.signed64.greatest) :=
    fun fits => absurd (Int.lt_of_le_sub_one fits.2) (Int.not_lt.mpr h)
  have fits : WholeKind.unsigned64.least ≤ n.val ∧ n.val ≤ WholeKind.unsigned64.greatest :=
    ⟨Int.le_trans (by decide) h, Int.le_sub_one_of_lt n.lt_max⟩
  exact ⟨⟨n.val, fits.1, fits.2⟩, rfl,
    by simp [scalar?, signed?, unsigned?, CaseLabel.Whole.ofInt?, large, fits]⟩

theorem scalar?_float (x : Document.Float) :
    scalar? (.float x) = some ⟨.float .binary64, x.bits⟩ := rfl

theorem exists_scalar?_whole (n : Document.Whole) : ∃ kind, ∃ m : CaseLabel.Whole kind,
    m.val = n.val ∧ scalar? (.whole n) = some ⟨.whole kind, m⟩ := by
  by_cases small : n.val < 2 ^ 63
  · exact ⟨_, scalar?_whole_of_lt small⟩
  · exact ⟨_, scalar?_whole_of_le (Int.not_lt.mp small)⟩

/-- Numbers, and nothing else, can be read as scalars. -/
theorem isSome_scalar?_iff {document : Document} :
    document.scalar?.isSome = true ↔ document.isNumber = true := by
  cases document with
  | whole n =>
    obtain ⟨kind, m, -, read⟩ := exists_scalar?_whole n
    simp [read, isNumber]
  | float x => simp [scalar?_float, isNumber]
  | _ => simp [scalar?, signed?, unsigned?, float?, isNumber]

theorem argument_of_scalar? {document : Document} {s : Scalar} (read : document.scalar? = some s) :
    document.argument = .scalar s := by
  cases document with
  | whole n => rw [argument, numeric, read]
  | float x => rw [argument, numeric, read]
  | _ => cases read

/-- The text of a number never stands for it. -/
theorem exists_scalar_of_isNumber {number : Document} (h : number.isNumber = true) :
    ∃ s, number.scalar? = some s ∧ number.argument = .scalar s := by
  obtain ⟨s, read⟩ := Option.isSome_iff_exists.mp (isSome_scalar?_iff.mpr h)
  exact ⟨s, read, argument_of_scalar? read⟩

end Numbers

section Forms

theorem arguments_eq_map (items : List Document) : arguments items = items.map argument := by
  induction items with
  | nil => rfl
  | cons item rest ih => rw [arguments, List.map_cons, ih]

variable {document : Document}

theorem argument_eq_list_iff {args : List Argument} :
    document.argument = .list args ↔
      ∃ items, document = .list items ∧ args = items.map argument := by
  cases document with
  | whole n =>
    obtain ⟨kind, m, -, read⟩ := exists_scalar?_whole n
    simp [argument_of_scalar? read]
  | float x => simp [argument_of_scalar? (scalar?_float x)]
  | list items => simp [argument, arguments_eq_map, eq_comm]
  | _ => simp [argument]

theorem argument_eq_object_iff {description : Option String} :
    document.argument = .object description ↔
      ∃ members, document = .object members ∧ description = some (object members).text := by
  cases document with
  | whole n =>
    obtain ⟨kind, m, -, read⟩ := exists_scalar?_whole n
    simp [argument_of_scalar? read]
  | float x => simp [argument_of_scalar? (scalar?_float x)]
  | object members => simp [argument, eq_comm]
  | _ => simp [argument]

theorem argument_ne_scalars {array : ScalarArray} : document.argument ≠ .scalars array := by
  cases document with
  | whole n =>
    obtain ⟨kind, m, -, read⟩ := exists_scalar?_whole n
    simp [argument_of_scalar? read]
  | float x => simp [argument_of_scalar? (scalar?_float x)]
  | _ => simp [argument]

/-- A path leads to the same place in a document and in its argument. -/
theorem itemAt_argument (document : Document) (path : List Nat) :
    document.argument.itemAt path = (document.itemAt path).map argument := by
  induction path generalizing document with
  | nil => simp [itemAt, Argument.itemAt]
  | cons i path ih =>
    have leaf {argument : Argument} (notList : ∀ args, argument ≠ .list args) :
        argument.itemAt (i :: path) = none := by
      cases argument with
      | list args => exact absurd rfl (notList args)
      | _ => rfl
    cases document with
    | list items =>
      rw [argument, arguments_eq_map, Argument.itemAt, itemAt, List.getElem?_map, Option.map_bind,
        Option.bind_map]
      exact congrArg _ (funext fun item => ih item)
    | _ =>
      change Argument.itemAt _ (i :: path) = none
      exact leaf (by simp [argument_eq_list_iff])

end Forms

section Places

variable {document : Document} {path : List Nat}

theorem itemAt_argument_eq_some_iff {found : Argument} :
    document.argument.itemAt path = some found ↔
      ∃ inner, document.itemAt path = some inner ∧ inner.argument = found := by
  rw [itemAt_argument, Option.map_eq_some_iff]

theorem itemAt_eq_list_iff {args : List Argument} :
    document.argument.itemAt path = some (.list args) ↔
      ∃ items, document.itemAt path = some (.list items) ∧ args = items.map argument := by
  simp only [itemAt_argument_eq_some_iff, argument_eq_list_iff]
  constructor
  · rintro ⟨_, found, items, rfl, converted⟩
    exact ⟨items, found, converted⟩
  · rintro ⟨items, found, converted⟩
    exact ⟨_, found, items, rfl, converted⟩

theorem itemAt_eq_object_iff {description : Option String} :
    document.argument.itemAt path = some (.object description) ↔
      ∃ members, document.itemAt path = some (.object members) ∧
        description = some (object members).text := by
  simp only [itemAt_argument_eq_some_iff, argument_eq_object_iff]
  constructor
  · rintro ⟨_, found, members, rfl, described⟩
    exact ⟨members, found, described⟩
  · rintro ⟨members, found, described⟩
    exact ⟨_, found, members, rfl, described⟩

end Places

/-- No array of scalars and no object without a description occurs in the argument. -/
theorem forms_of_occurs {document : Document} {inner : Argument}
    (occurs : Occurs inner document.argument) :
    (∀ array, inner ≠ .scalars array) ∧ inner ≠ .object none := by
  obtain ⟨path, found⟩ := Argument.occurs_iff_exists_itemAt.mp occurs
  obtain ⟨part, -, converted⟩ := itemAt_argument_eq_some_iff.mp found
  subst converted
  exact ⟨fun array => argument_ne_scalars, by simp [argument_eq_object_iff]⟩

section Descriptions

variable {style : Style}

theorem printable_describe (h : style.IsPrintable) (document : Document) :
    Text.Printable (style.describe document.argument).value.toList := by
  rw [Style.describe_eq, Style.printable_textOf_iff h]
  rintro ⟨cs, occurs, -⟩
  exact (forms_of_occurs occurs).1 _ rfl

theorem events_describe (style : Style) (document : Document) :
    (style.describe document.argument).events = [] := by
  have described : document.argument.undescribed = 0 :=
    Argument.undescribed_eq_zero_iff.mpr fun occurs => (forms_of_occurs occurs).2 rfl
  rw [Style.describe_eq, described]
  rfl

theorem value_describe_whole (style : Style) (n : Document.Whole) :
    (style.describe (argument (.whole n))).value = Numeral.intText n.val := by
  obtain ⟨kind, m, same, read⟩ := exists_scalar?_whole n
  rw [Style.describe_eq, argument_of_scalar? read, style.textOf_scalar (by simp)]
  exact congrArg Numeral.intText same

end Descriptions

/-- The argument of a document holds no array of scalars and no object without a description. Each
path through lists leads to a list in both or in neither, with as many items in the same order,
and to an object exactly if it leads to one in the document, which is described by its compact
text. Whole numbers and floats keep their value: a whole number is signed if it fits and unsigned
otherwise, and no number is left to its text. So in the standard style the description is printable
and leaves no event, and that of a whole number is its numeral. -/
theorem argument_mirrors (document : Document) :
    (∀ inner, Occurs inner document.argument →
      (∀ array, inner ≠ .scalars array) ∧ inner ≠ .object none) ∧
    (∀ path, document.argument.itemAt path = (document.itemAt path).map argument) ∧
    (∀ path args, document.argument.itemAt path = some (.list args) ↔
      ∃ items, document.itemAt path = some (.list items) ∧ args = items.map argument) ∧
    (∀ path description, document.argument.itemAt path = some (.object description) ↔
      ∃ members, document.itemAt path = some (.object members) ∧
        description = some (object members).text) ∧
    (∀ path (n : Document.Whole), document.itemAt path = some (.whole n) →
      (n.val < 2 ^ 63 → ∃ m : CaseLabel.Whole .signed64, m.val = n.val ∧
        document.argument.itemAt path = some (.scalar ⟨.whole .signed64, m⟩)) ∧
      (2 ^ 63 ≤ n.val → ∃ m : CaseLabel.Whole .unsigned64, m.val = n.val ∧
        document.argument.itemAt path = some (.scalar ⟨.whole .unsigned64, m⟩))) ∧
    (∀ path (x : Document.Float), document.itemAt path = some (.float x) →
      document.argument.itemAt path = some (.scalar ⟨.float .binary64, x.bits⟩)) ∧
    (∀ number : Document, number.isNumber = true →
      ∃ s, number.scalar? = some s ∧ number.argument = .scalar s) ∧
    Text.Printable (Style.standard.describe document.argument).value.toList ∧
    (Style.standard.describe document.argument).events = [] ∧
    ∀ n : Document.Whole, document = .whole n →
      (Style.standard.describe document.argument).value = Numeral.intText n.val := by
  refine ⟨fun inner => forms_of_occurs, itemAt_argument document,
    fun path args => itemAt_eq_list_iff, fun path description => itemAt_eq_object_iff, ?_, ?_,
    fun number => exists_scalar_of_isNumber, printable_describe Style.isPrintable_standard document,
    events_describe _ document, ?_⟩
  · intro path n found
    constructor
    · intro small
      obtain ⟨m, same, read⟩ := scalar?_whole_of_lt small
      exact ⟨m, same, itemAt_argument_eq_some_iff.mpr ⟨_, found, argument_of_scalar? read⟩⟩
    · intro large
      obtain ⟨m, same, read⟩ := scalar?_whole_of_le large
      exact ⟨m, same, itemAt_argument_eq_some_iff.mpr ⟨_, found, argument_of_scalar? read⟩⟩
  · intro path x found
    exact itemAt_argument_eq_some_iff.mpr ⟨_, found, argument_of_scalar? (scalar?_float x)⟩
  · intro n isWhole
    rw [isWhole, value_describe_whole]

/-- Strings of one character are text and not characters, so what is not printable does not show. -/
example :
    (Style.standard.describe (argument (.list [.string "a", .string "\n", .string "\x07"]))).value =
      "[a, \\n, <np>]" := by
  decide +kernel

end CaseLabel.Document
