import CaseLabel.Proofs.Template.Replacement

/-!
# Agreement: the four ways to what a subscript selects

A subscript can be resolved or made to select, and the text it was read from can be resolved or put
between the brackets of a placeholder. A failure of the first two names the subscript by its
canonical text, one of the others as it was written. Main statements:

* a text that is read is resolved as its subscript (`resolveText_of_parse`);
* the four ways agree for every text that is read, and a text that is not read has no span
  (`resolution_ways_agree`).
-/

namespace CaseLabel

namespace Subscript

variable {text : String} {subscript : Subscript}

/-- A text that is read is resolved as its subscript, under the name it was written with. -/
theorem resolveText_of_parse (read : parse text = .ok subscript) (count : Nat) :
    resolveText text count = subscript.resolveAs text count := by
  rw [resolveText, read]
  rfl

theorem resolveText_of_parse_error {failure : Failure} (unread : parse text = .error failure)
    (count : Nat) : resolveText text count = .error failure := by
  rw [resolveText, unread]
  rfl

end Subscript

namespace Style

/-- A text that is read resolves like its subscript, which selects what it resolves to, and a
placeholder around the text is replaced by the descriptions of that. Where one of them fails all
do, since the span does not fit the list, and show the same bounds; the subscript names itself by
its canonical text, the others name it as it was written. A text that is not read is malformed for
every list. -/
theorem resolution_ways_agree (text : String) :
    (∀ subscript, Subscript.parse text = .ok subscript →
      ∀ (style : Style) (arguments : List Argument),
        (∃ span : Span,
          subscript.resolve arguments.length = .ok span ∧
          subscript.select arguments =
            .ok ((arguments.drop span.start).take (span.stop - span.start)) ∧
          Subscript.resolveText text arguments.length = .ok span ∧
          (style.replace ("%p[" ++ text ++ "]") arguments).run.value =
            .ok (style.describeAll
              ((arguments.drop span.start).take (span.stop - span.start))).value) ∨
        ∃ start stop : Int,
          subscript.resolve arguments.length =
            .error (.outOfRange ⟨subscript.text, start, stop, arguments.length⟩) ∧
          subscript.select arguments =
            .error (.outOfRange ⟨subscript.text, start, stop, arguments.length⟩) ∧
          Subscript.resolveText text arguments.length =
            .error (.outOfRange ⟨text, start, stop, arguments.length⟩) ∧
          (style.replace ("%p[" ++ text ++ "]") arguments).run.value =
            .error (.outOfRange ⟨text, start, stop, arguments.length⟩)) ∧
    ((¬ ∃ subscript, Subscript.parse text = .ok subscript) →
      ∀ count, Subscript.resolveText text count = .error (.malformedSubscript text)) := by
  constructor
  · intro subscript read style arguments
    have written := Subscript.resolveText_of_parse read arguments.length
    rw [← Placeholder.bracketed_parameter]
    rcases subscript.granted_or_refused arguments.length with ⟨span, granted⟩ | refused
    · refine .inl ⟨span, granted _, Subscript.selectAs_eq_ok (granted _), ?_, ?_⟩
      · exact written.trans (granted text)
      · rw [describeAll_eq]
        exact style.replaced_of_granted read (granted text)
    · refine .inr ⟨_, _, refused _, Subscript.selectAs_eq_error (refused _), ?_, ?_⟩
      · exact written.trans (refused text)
      · exact style.replaced_of_refused read (refused text)
  · intro unread count
    exact Subscript.resolveText_of_parse_error (Subscript.parse_eq_error unread) count

end Style

end CaseLabel
