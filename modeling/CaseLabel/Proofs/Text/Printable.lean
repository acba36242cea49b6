import CaseLabel.Text.Visible
import Mathlib.Data.List.Basic

/-!
# Printable text and visible text

The tables of the categories leave the graphic ASCII characters alone, so escapes, digits and marks
are printable. Main statements, for a printable mark:

* visible text is printable (`printable_visible`);
* making text visible changes it unless it is printable (`visible_eq_iff`).
-/

namespace CaseLabel.Text

/-- Only printable characters. -/
def Printable (cs : List Char) : Prop := ∀ c ∈ cs, isPrintable c = true

@[simp] theorem printable_nil : Printable [] := by simp [Printable]

@[simp] theorem printable_cons {c : Char} {cs : List Char} :
    Printable (c :: cs) ↔ isPrintable c = true ∧ Printable cs := List.forall_mem_cons

@[simp] theorem printable_append {cs ds : List Char} :
    Printable (cs ++ ds) ↔ Printable cs ∧ Printable ds := List.forall_mem_append

theorem Printable.replicate {c : Char} (h : isPrintable c = true) (count : Nat) :
    Printable (List.replicate count c) := by
  intro other member
  rw [List.eq_of_mem_replicate member]
  exact h

/-- What holds of the characters of the separator holds of all that is joined exactly if it holds
of the parts. -/
theorem forall_mem_intercalate {p : Char → Prop} {separator : List Char}
    (h : ∀ c ∈ separator, p c) {parts : List (List Char)} :
    (∀ c ∈ separator.intercalate parts, p c) ↔ ∀ part ∈ parts, ∀ c ∈ part, p c := by
  induction parts with
  | nil => simp
  | cons part rest ih =>
    cases rest with
    | nil => simp
    | cons next rest =>
      rw [List.forall_mem_cons, List.intercalate_cons_cons, List.forall_mem_append,
        List.forall_mem_append, and_iff_left h, ih]

theorem printable_intercalate {separator : List Char} (h : Printable separator)
    {parts : List (List Char)} :
    Printable (separator.intercalate parts) ↔ ∀ part ∈ parts, Printable part :=
  forall_mem_intercalate h

/-- A character is not printable exactly if text of it alone is not. -/
theorem not_printable_iff {cs : List Char} :
    ¬ Printable cs ↔ ∃ c ∈ cs, isPrintable c = false := by
  simp [Printable]

/-- The ASCII characters from the space to the tilde. -/
@[simp] def isGraphic (c : Char) : Bool := 0x20 ≤ c.toNat && c.toNat < 0x7F

theorem isGraphic_iff {c : Char} : isGraphic c = true ↔ 0x20 ≤ c.toNat ∧ c.toNat < 0x7F := by
  simp [isGraphic]

theorem isPrintable_iff {c : Char} : isPrintable c = true ↔ category c = .ordinary := by
  unfold isPrintable
  cases category c <;> simp

theorem category_eq_ordinary {c : Char}
    (h : ∀ category ∈ tabulated, CodeRange.covers category.ranges c = false) :
    category c = .ordinary := by
  have missing : (tabulated.find? fun category => CodeRange.covers category.ranges c) = none := by
    rw [List.find?_eq_none]
    intro category member
    rw [h category member]
    exact Bool.false_ne_true
  rw [category, missing, Option.getD_none]

/-- A table does not hold what lies in front of its first range. -/
theorem CodeRange.hold_of_lt {range : CodeRange} {rest : List CodeRange} {n : Nat}
    (h : n < range.1) : hold (range :: rest) n = false := by
  rw [hold, if_pos h]

/-- As a simp lemma this settles every character literal. -/
@[simp] theorem isPrintable_of_isGraphic {c : Char} (h : isGraphic c = true) :
    isPrintable c = true := by
  obtain ⟨low, high⟩ := isGraphic_iff.mp h
  rw [isPrintable_iff]
  refine category_eq_ordinary fun category member => ?_
  unfold CodeRange.covers
  -- Control characters lie on both sides of the graphic ones, those of other categories behind.
  cases category with
  | control => simp [Category.ranges, CodeRange.hold, high, Nat.not_le.mpr low]
  | format => exact CodeRange.hold_of_lt (Nat.lt_of_lt_of_le high (by decide))
  | privateUse => exact CodeRange.hold_of_lt (Nat.lt_of_lt_of_le high (by decide))
  | surrogate => exact CodeRange.hold_of_lt (Nat.lt_of_lt_of_le high (by decide))
  | unassigned => exact CodeRange.hold_of_lt (Nat.lt_of_lt_of_le high (by decide))
  | ordinary => rfl

theorem printable_of_isGraphic {cs : List Char} (h : cs.all isGraphic = true) : Printable cs :=
  fun c member => isPrintable_of_isGraphic (List.all_eq_true.mp h c member)

/-- The characters with an escape are not printable, their escapes are. -/
theorem escape?_eq_some {c : Char} {escaped : List Char} (h : escape? c = some escaped) :
    isPrintable c = false ∧ Printable escaped := by
  unfold escape? at h
  split at h
  · cases h
    exact ⟨by decide, printable_of_isGraphic (by decide)⟩
  · cases h
    exact ⟨by decide, printable_of_isGraphic (by decide)⟩
  · cases h
    exact ⟨by decide, printable_of_isGraphic (by decide)⟩
  · cases h

theorem visibleChar_of_isPrintable {mark : List Char} {c : Char} (h : isPrintable c = true) :
    visibleChar mark c = [c] := by
  unfold visibleChar
  split
  next escaped found =>
    rw [(escape?_eq_some found).1] at h
    cases h
  next => rw [if_pos h]

theorem printable_visibleChar {mark : List Char} (h : Printable mark) (c : Char) :
    Printable (visibleChar mark c) := by
  unfold visibleChar
  split
  next escaped found => exact (escape?_eq_some found).2
  next =>
    split
    next printable => simp [printable]
    next => exact h

/-- Visible text is printable if the mark is. -/
theorem printable_visible {mark : String} (h : Printable mark.toList) (text : String) :
    Printable (visible mark text).toList := by
  rw [visible, String.toList_ofList]
  intro c member
  obtain ⟨source, -, member⟩ := List.mem_flatMap.mp member
  exact printable_visibleChar h source c member

/-- A text whose characters are all written as they are stays as it is. -/
theorem flatMap_eq_self {form : Char → List Char} {cs : List Char} (h : ∀ c ∈ cs, form c = [c]) :
    cs.flatMap form = cs :=
  (List.flatMap_congr h).trans (List.flatMap_singleton' cs)

theorem visible_of_printable {mark text : String} (h : Printable text.toList) :
    visible mark text = text := by
  have same : text.toList.flatMap (visibleChar mark.toList) = text.toList :=
    flatMap_eq_self fun c member => visibleChar_of_isPrintable (h c member)
  rw [visible, same, String.ofList_toList]

/-- Making text visible leaves it as it is exactly if it is printable. -/
theorem visible_eq_iff {mark : String} (h : Printable mark.toList) {text : String} :
    visible mark text = text ↔ Printable text.toList := by
  constructor
  · intro same
    have printable := printable_visible h text
    rw [same] at printable
    exact printable
  · exact visible_of_printable

end CaseLabel.Text
