import CaseLabel.Proofs.Style.Printable

/-!
# Stability: visible text made visible again

Visible text under a printable mark is printable, so nothing is left for a second pass to do, under
whatever mark it is made. Main statements:

* the printable marks are exactly those whose visible text no second pass changes
  (`printable_iff_stable`);
* the standard mark is one of them, and so is every mark that is read from variables; under such a
  mark only printable text is visible text of itself (`visible_stays_visible`).
-/

namespace CaseLabel.Text

theorem visible_singleton (mark : String) (c : Char) :
    visible mark (String.singleton c) = String.ofList (visibleChar mark.toList c) := by
  rw [visible, String.toList_singleton, List.flatMap_singleton]

/-- A character that is not printable and has no escape becomes the mark. -/
theorem visible_bell (mark : String) : visible mark "\x07" = mark := by
  have bell : visibleChar mark.toList '\x07' = mark.toList := by
    unfold visibleChar escape?
    exact if_neg (by decide)
  have alone : "\x07" = String.singleton '\x07' := by decide
  rw [alone, visible_singleton, bell, String.ofList_toList]

theorem visible_visible {mark : String} (h : Printable mark.toList) (second text : String) :
    visible second (visible mark text) = visible mark text :=
  visible_of_printable (printable_visible h text)

/-- What a mark brings in is found by a second pass if it is not printable. -/
theorem printable_iff_stable {mark : String} :
    Printable mark.toList ↔
      ∀ second text, visible second (visible mark text) = visible mark text := by
  constructor
  · intro printable
    exact visible_visible printable
  · intro stable
    -- The empty mark differs from whatever it replaces.
    have empty : Printable "".toList := by simp
    have same := stable "" "\x07"
    rw [visible_bell] at same
    exact (visible_eq_iff empty).mp same

/-- Under a printable mark, such as the standard one and every one that is read from variables,
visible text is printable, it is the text itself exactly if that was printable, and it stays as it
is when it is made visible again, under the same mark or any other. -/
theorem visible_stays_visible :
    Printable Style.standard.nonPrintableMark.toList ∧
    (∀ (lookup : String → Option String) (style : Style),
      (Style.read lookup).run.value = .ok style → Printable style.nonPrintableMark.toList) ∧
    ∀ mark : String, Printable mark.toList → ∀ text : String,
      Printable (visible mark text).toList ∧
      (visible mark text = text ↔ Printable text.toList) ∧
      ∀ second : String, visible second (visible mark text) = visible mark text := by
  refine ⟨Style.isPrintable_standard.nonPrintableMark, ?_, ?_⟩
  · intro lookup style read
    exact (Style.isPrintable_of_read read).1.nonPrintableMark
  · intro mark printable text
    exact ⟨printable_visible printable text, visible_eq_iff printable,
      fun second => printable_iff_stable.mp printable second text⟩

end CaseLabel.Text
