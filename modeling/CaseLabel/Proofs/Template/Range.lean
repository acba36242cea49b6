import CaseLabel.Proofs.Subscript.Addressing
import CaseLabel.Proofs.Template.Replacement

/-!
# Ranges: a range of arguments against its positions one by one

What replaces a range is written here from the texts of single positions, without selecting a part
of the list: `spanText` joins the texts at the positions of a span. Main statements:

* a placeholder is replaced by the text of its span if it is granted (`replaced_of_resolve`);
* the text of a span is the texts of its two parts around the separator, wherever it is cut
  (`spanText_cut`);
* hence a range is replaced by what its positions are replaced by, joined, and cut anywhere by what
  the two ranges are replaced by (`replace_range_eq_joined`).
-/

namespace CaseLabel

theorem Numeral.intText_natCast (n : Nat) : intText n = natText n := by
  have front : ¬ (n : Int) < 0 := by omega
  rw [intText, natText, ofInt, if_neg front, Int.natAbs_natCast]

namespace Subscript

theorem text_single (p : Position) : (single p).text = Numeral.intText p.val := rfl

theorem text_range (first last : Position) :
    (range first last).text = Numeral.intText first.val ++ ".." ++ Numeral.intText last.val := by
  apply String.toList_injective
  simp [text, chars, Numeral.intText]

end Subscript

theorem Position.intText_ofIndex {i : Nat} (fits : i < 2 ^ 63) :
    Numeral.intText (ofIndex i fits).val = Numeral.natText i := Numeral.intText_natCast i

namespace Subscript

variable {count : Nat}

theorem resolve_ofIndex {i : Nat} (fits : i < 2 ^ 63) (within : i < count) :
    (single (.ofIndex i fits)).resolve count = .ok ⟨i, i + 1⟩ :=
  resolve_single_iff.mpr ⟨within, .inl rfl⟩

theorem resolve_range_ofIndex {i j : Nat} (fits : i < 2 ^ 63) (fits' : j < 2 ^ 63)
    (ordered : i ≤ j + 1) (within : j < count) :
    (range (.ofIndex i fits) (.ofIndex j fits')).resolve count = .ok ⟨i, j + 1⟩ := by
  rw [resolve_eq_ok_span_iff, start, stop, first, last, Position.index_ofIndex,
    Position.index_ofIndex]
  dsimp only
  omega

/-- A granted range may start at any later position of its span. -/
theorem resolve_range_of_le {p q : Position} {span : Span}
    (resolved : (range p q).resolve count = .ok span) {k : Nat} (fits : k < 2 ^ 63)
    (within : k ≤ span.stop) : (range (.ofIndex k fits) q).resolve count = .ok ⟨k, span.stop⟩ := by
  rw [resolve_eq_ok_span_iff, stop, last] at resolved
  rw [resolve_eq_ok_span_iff, start, stop, first, last, Position.index_ofIndex]
  exact ⟨rfl, resolved.2.1, within, resolved.2.2.2⟩

end Subscript

namespace Style

variable (style : Style) (arguments : List Argument)

/-- The text of the argument at an index. -/
def textAt (index : Nat) : String := (arguments[index]?.map style.textOf).getD ""

/-- The texts at the positions of a span, joined by the separator. -/
def spanText (span : Span) : String :=
  style.separator.intercalate
    ((List.range' span.start (span.stop - span.start)).map (style.textAt arguments))

theorem textAt_of_lt {index : Nat} (h : index < arguments.length) :
    style.textAt arguments index = style.textOf arguments[index] := by
  simp [textAt, h]

theorem joined_slice {span : Span} (ordered : span.start ≤ span.stop)
    (within : span.stop ≤ arguments.length) :
    style.joined ((arguments.drop span.start).take (span.stop - span.start)) =
      style.spanText arguments span := by
  rw [joined, spanText, textsOf_eq_map]
  congr 1
  apply List.ext_getElem
  · simp only [List.length_map, List.length_take, List.length_drop, List.length_range']
    omega
  · intro i inSlice inRange
    have bound : i < span.stop - span.start := by simpa using inRange
    simp only [List.getElem_map, List.getElem_take, List.getElem_drop, List.getElem_range',
      Nat.one_mul]
    rw [textAt_of_lt style arguments (by omega)]

theorem spanText_single {i : Nat} :
    style.spanText arguments ⟨i, i + 1⟩ = style.textAt arguments i := by
  simp [spanText]

theorem spanText_empty (i : Nat) : style.spanText arguments ⟨i, i⟩ = "" := by
  simp [spanText]

/-- Cut anywhere inside, a span has the texts of its two parts around the separator. -/
theorem spanText_cut {start k stop : Nat} (early : start < k) (late : k < stop) :
    style.spanText arguments ⟨start, stop⟩ =
      style.spanText arguments ⟨start, k⟩ ++ style.separator ++
        style.spanText arguments ⟨k, stop⟩ := by
  have cut : List.range' start (stop - start) =
      List.range' start (k - start) ++ List.range' k (stop - k) := by
    have lengths : stop - start = (k - start) + (stop - k) := by omega
    have next : start + 1 * (k - start) = k := by omega
    rw [lengths, ← List.range'_append, next]
  unfold spanText
  rw [cut, List.map_append, String.intercalate_append_of_ne_nil]
  · simp only [ne_eq, List.map_eq_nil_iff, List.range'_eq_nil_iff]
    omega
  · simp only [ne_eq, List.map_eq_nil_iff, List.range'_eq_nil_iff]
    omega

variable {arguments}

/-- The canonical text of a granted subscript is replaced by the text of its span. -/
theorem replaced_of_resolve {subscript : Subscript} {span : Span}
    (resolved : subscript.resolve arguments.length = .ok span) :
    style.replaced arguments ("%p[" ++ subscript.text ++ "]") =
      .ok (style.spanText arguments span) := by
  obtain ⟨-, -, ordered, within⟩ := Subscript.resolve_eq_ok_span_iff.mp resolved
  rw [← Placeholder.bracketed_parameter,
    style.replaced_of_granted (Subscript.parse_text subscript) resolved,
    style.joined_slice arguments ordered within]

theorem replaced_index {i : Nat} (fits : arguments.length < 2 ^ 63)
    (within : i < arguments.length) :
    style.replaced arguments ("%p[" ++ Numeral.natText i ++ "]") =
      .ok (style.textAt arguments i) := by
  have small : i < 2 ^ 63 := Nat.lt_trans within fits
  have single := style.replaced_of_resolve
    (Subscript.resolve_ofIndex small within)
  rw [Subscript.text_single, Position.intText_ofIndex, spanText_single] at single
  exact single

theorem replaced_range {p q : Position} {span : Span}
    (resolved : (Subscript.range p q).resolve arguments.length = .ok span) :
    style.replaced arguments
        ("%p[" ++ Numeral.intText p.val ++ ".." ++ Numeral.intText q.val ++ "]") =
      .ok (style.spanText arguments span) := by
  have range := style.replaced_of_resolve resolved
  rw [Subscript.text_range] at range
  simpa only [String.append_assoc] using range

/-- A range that is granted on a list is replaced by what its positions are replaced by one by one,
joined by the separator, so by no text if it is empty. Cut at any position inside, it is replaced
by what the ranges in front of the cut and behind it are replaced by, with the separator between;
the range behind the cut keeps the last position as it was written. -/
theorem replace_range_eq_joined (style : Style) (arguments : List Argument)
    (fits : arguments.length < 2 ^ 63) (first last : Position) (span : Span)
    (resolved : (Subscript.range first last).resolve arguments.length = .ok span) :
    ∃ texts : Nat → String,
      (∀ i, span.start ≤ i → i < span.stop →
        (style.replace ("%p[" ++ Numeral.natText i ++ "]") arguments).run.value =
          .ok (texts i)) ∧
      (style.replace ("%p[" ++ Numeral.intText first.val ++ ".." ++ Numeral.intText last.val ++
          "]") arguments).run.value =
        .ok (style.separator.intercalate
          ((List.range' span.start (span.stop - span.start)).map texts)) ∧
      (span.start = span.stop →
        (style.replace ("%p[" ++ Numeral.intText first.val ++ ".." ++ Numeral.intText last.val ++
          "]") arguments).run.value = .ok "") ∧
      ∀ k, span.start < k → k < span.stop → ∃ front back,
        (style.replace ("%p[" ++ Numeral.natText span.start ++ ".." ++ Numeral.natText (k - 1) ++
          "]") arguments).run.value = .ok front ∧
        (style.replace ("%p[" ++ Numeral.natText k ++ ".." ++ Numeral.intText last.val ++
          "]") arguments).run.value = .ok back ∧
        (style.replace ("%p[" ++ Numeral.intText first.val ++ ".." ++ Numeral.intText last.val ++
          "]") arguments).run.value = .ok (front ++ style.separator ++ back) := by
  obtain ⟨-, -, ordered, within⟩ := Subscript.resolve_eq_ok_span_iff.mp resolved
  have whole := style.replaced_range resolved
  refine ⟨style.textAt arguments, ?_, whole, ?_, ?_⟩
  · intro i _ inside
    exact style.replaced_index fits (by omega)
  · intro empty
    refine whole.trans ?_
    obtain ⟨start, stop⟩ := span
    cases empty
    rw [spanText_empty]
  · intro k early late
    have fitsStart : span.start < 2 ^ 63 := by omega
    have fitsCut : k < 2 ^ 63 := by omega
    have fitsBefore : k - 1 < 2 ^ 63 := by omega
    have inside : k - 1 < arguments.length := by omega
    have front := style.replaced_range
      (Subscript.resolve_range_ofIndex fitsStart fitsBefore (by omega) inside)
    have back := style.replaced_range
      (Subscript.resolve_range_of_le resolved fitsCut (by omega))
    rw [Position.intText_ofIndex, Position.intText_ofIndex, Nat.sub_add_cancel (by omega)] at front
    rw [Position.intText_ofIndex] at back
    exact ⟨_, _, front, back,
      whole.trans (congrArg Except.ok (style.spanText_cut arguments early late))⟩

/-- All arguments but the first, by a last position from the back, cut behind the second one. -/
theorem replace_range_behind_first :
    ([.null, .text "a", .text ""] : List Argument).length < 2 ^ 63 ∧
    (Subscript.range ⟨1, by decide, by decide⟩ ⟨-1, by decide, by decide⟩).resolve 3 = .ok ⟨1, 3⟩ ∧
    ∃ front back,
      (standard.replace "%p[1..1]" [.null, .text "a", .text ""]).run.value = .ok front ∧
      (standard.replace "%p[2..-1]" [.null, .text "a", .text ""]).run.value = .ok back ∧
      (standard.replace "%p[1..-1]" [.null, .text "a", .text ""]).run.value =
        .ok (front ++ ", " ++ back) := by
  have resolved : (Subscript.range ⟨1, by decide, by decide⟩ ⟨-1, by decide, by decide⟩).resolve 3 =
      .ok ⟨1, 3⟩ := Subscript.resolve_eq_ok_span_iff.mpr (by decide)
  obtain ⟨texts, -, -, -, cut⟩ := replace_range_eq_joined standard [.null, .text "a", .text ""]
    (by decide) _ _ _ resolved
  exact ⟨by decide, resolved, cut 2 (by decide) (by decide)⟩

end Style

end CaseLabel
