import CaseLabel.Proofs.Argument.Places
import CaseLabel.Proofs.Placeholder.Bracketed
import CaseLabel.Proofs.Template.Filling
import CaseLabel.Proofs.Template.Selection

/-!
# The log of filling a template

Filling leaves a line for each placeholder that is replaced, each followed by a warning for every
object without a description among the nodes of what it selects, and one line more when all
placeholders are replaced. Here these lines are stated from the outline of the template and the
words of each line, without the events they come from. Main statements:

* the events of segments are those of their selections, up to the first placeholder that has no
  replacement (`events_fillSegments`);
* the lines of a filling are those of its selections and, exactly if it succeeds, the closing one
  (`fill_lines`).
-/

namespace CaseLabel

/-- A line of the log as it is read. -/
structure Line where
  level : Level
  message : String
  deriving DecidableEq, Repr

def Event.line (event : Event) : Line := ⟨event.level, event.message⟩

/-- What a text that is exactly one placeholder is read as, and what it selects. -/
def Placeholder.selection (arguments : List Argument) (text : String) :
    Except Failure (Placeholder × List Argument) := do
  let placeholder ← parse text
  let selected ← placeholder.subscript.select arguments
  .ok (placeholder, selected)

namespace Style

variable (style : Style)

/-- The lines of one replacement: which placeholder selects how many of all arguments, and a
warning for each node that has no description. -/
def selectionLines (total : Nat) (choice : Placeholder × List Argument) : List Line :=
  ⟨.debug, choice.1.text ++ " selects " ++ Numeral.natText choice.2.length ++ " of " ++
    Numeral.natText total ++ " argument(s)"⟩ ::
  ((Argument.nodesAll choice.2).filter Argument.isUndescribed).map fun _ =>
    ⟨.warn, "argument has no textual description, substituting " ++ Text.quoted style.nullMark⟩

/-- The line that closes a filling whose placeholders are all replaced. -/
def closingLine (count : Nat) (template : String) : Line :=
  ⟨.debug, "replaced " ++ Numeral.natText count ++ " argument placeholder(s) in " ++
    Text.quoted template⟩

/-- The placeholder has a replacement. -/
def succeeds (arguments : List Argument) (text : String) : Bool :=
  (style.replaced arguments text).isOk

/-- The events of one replacement. -/
def selectionEvents (total : Nat) (choice : Placeholder × List Argument) : List Event :=
  .selected choice.1 choice.2.length total ::
    style.undescribedEvents (Argument.undescribedAll choice.2)

theorem map_line_selectionEvents (total : Nat) (choice : Placeholder × List Argument) :
    (style.selectionEvents total choice).map Event.line = style.selectionLines total choice := by
  rw [selectionEvents, selectionLines, List.map_cons, undescribedEvents, List.map_replicate,
    List.map_const', Argument.undescribedAll_eq_countP, List.countP_eq_length_filter]
  rfl

variable {arguments : List Argument}

theorem selection_chars {mention : Mention} (wellFormed : mention.WellFormed)
    {choice : Placeholder × List Argument} (chosen : mention.select arguments = .ok choice) :
    Placeholder.selection arguments (String.ofList mention.chars) = .ok choice := by
  obtain ⟨placeholder, selected⟩ := choice
  obtain ⟨read, selects⟩ := Mention.select_eq_ok_iff.mp chosen
  have known : Placeholder.parse (String.ofList mention.chars) = .ok placeholder :=
    (Placeholder.parse_chars wellFormed).trans read
  have canonical : placeholder.subscript.select arguments = .ok selected :=
    Subscript.selectAs_relabel selects _
  simp only [Placeholder.selection, known, bind, Except.bind, canonical]

/-- A placeholder has a replacement exactly if it selects. -/
theorem succeeds_chars (arguments : List Argument) {mention : Mention}
    (wellFormed : mention.WellFormed) :
    style.succeeds arguments (String.ofList mention.chars) = (mention.select arguments).isOk := by
  rw [succeeds, replaced_chars style arguments wellFormed, outcome_replacement]
  cases mention.select arguments with
  | error failure => rfl
  | ok choice => rfl

/-- The events of segments are those of their selections, up to the first placeholder that has no
replacement. -/
theorem events_fillSegments (arguments : List Argument) {segments : List Segment}
    (wellFormed : ∀ mention, .mention mention ∈ segments → mention.WellFormed) :
    ∃ chosen : List (Placeholder × List Argument),
      ((Outline.ofSegments segments).placeholders.takeWhile (style.succeeds arguments)).map
        (Placeholder.selection arguments) = chosen.map .ok ∧
      (style.fillSegments arguments segments).events =
        chosen.flatMap (style.selectionEvents arguments.length) := by
  induction segments with
  | nil => exact ⟨[], rfl, rfl⟩
  | cons segment rest ih =>
    obtain ⟨later, selections, events⟩ :=
      ih fun mention member => wellFormed mention (by simp [member])
    cases segment with
    | char c =>
      refine ⟨later, ?_, ?_⟩
      · rw [Outline.ofSegments, Outline.placeholders_cons]
        exact selections
      · rw [fillSegments, Attempt.events_bind_pure, events]
    | mention mention =>
      have here := wellFormed mention (by simp)
      have good := style.succeeds_chars arguments here
      have outcome := style.outcome_replacement arguments mention
      rw [Outline.ofSegments, Outline.placeholders, fillSegments]
      cases chosen : mention.select arguments with
      | error failure =>
        rw [chosen] at good outcome
        refine ⟨[], ?_, ?_⟩
        · have stop : ¬ style.succeeds arguments (String.ofList mention.chars) = true := by
            rw [good]
            exact Bool.false_ne_true
          rw [List.takeWhile_cons_of_neg stop]
          rfl
        · rw [Attempt.events_bind_of_error outcome]
          exact congrArg Logged.events (style.run_replacement_of_error chosen)
      | ok choice =>
        rw [chosen] at good outcome
        refine ⟨choice :: later, ?_, ?_⟩
        · rw [List.takeWhile_cons_of_pos good, List.map_cons, selections, List.map_cons,
            selection_chars here chosen]
        · rw [Attempt.events_bind_of_ok outcome, Attempt.events_bind_pure, events,
            List.flatMap_cons]
          exact congrArg (· ++ _) (congrArg Logged.events (style.run_replacement_of_ok chosen))

theorem events_fill_of_ok {template text : String}
    (h : (style.fill template arguments).outcome = .ok text) :
    (style.fill template arguments).events =
      (style.fillSegments arguments (Template.segments template.toList)).events ++
        [.replaced (Template.mentions template.toList).length template] := by
  rw [outcome_fill_eq] at h
  rw [fill, Attempt.events_bind_of_ok h]
  rfl

/-- A filling that fails leaves no closing event. -/
theorem events_fill_of_error {template : String} {failure : Failure}
    (h : (style.fill template arguments).outcome = .error failure) :
    (style.fill template arguments).events =
      (style.fillSegments arguments (Template.segments template.toList)).events := by
  rw [outcome_fill_eq] at h
  rw [fill, Attempt.events_bind_of_error h]

theorem length_placeholders {template : String} {outline : Outline}
    (isOf : outline.IsOf template.toList) :
    (Template.mentions template.toList).length = outline.placeholders.length := by
  rw [isOf.unique (Outline.isOf_ofSegments template.toList), Outline.placeholders_ofSegments,
    List.length_map, Template.mentions]

/-- The log of a filling has, for each occurrence from the left up to the first that fails, a line
with its canonical text, the number of arguments it selects and that of all arguments, followed by
a warning with the null mark for each object without a description in a walk through what it
selects. A line with the number of occurrences closes it exactly if the filling succeeds. -/
theorem fill_lines (style : Style) (arguments : List Argument) (template : String)
    (outline : Outline) (isOf : outline.IsOf template.toList) :
    ∃ chosen : List (Placeholder × List Argument),
      (outline.placeholders.takeWhile fun text =>
          (style.replace text arguments).run.value.isOk).map (Placeholder.selection arguments) =
        chosen.map .ok ∧
      (style.fill template arguments).run.events.map Event.line =
        chosen.flatMap (style.selectionLines arguments.length) ++
          match (style.fill template arguments).run.value with
          | .ok _ => [closingLine outline.placeholders.length template]
          | .error _ => [] := by
  have wellFormed : ∀ mention, .mention mention ∈ Template.segments template.toList →
      mention.WellFormed := fun _ => wellFormed_of_mem_segments
  obtain ⟨chosen, selections, events⟩ := style.events_fillSegments arguments wellFormed
  have lines : (style.fillSegments arguments (Template.segments template.toList)).events.map
      Event.line = chosen.flatMap (style.selectionLines arguments.length) := by
    simp only [events, List.map_flatMap, map_line_selectionEvents]
  refine ⟨chosen, ?_, ?_⟩
  · rw [isOf.unique (Outline.isOf_ofSegments template.toList)]
    exact selections
  · cases outcome : (style.fill template arguments).run.value with
    | error failure =>
      have all := congrArg (List.map Event.line) (style.events_fill_of_error outcome)
      rw [lines] at all
      exact all.trans (List.append_nil _).symm
    | ok text =>
      have all := congrArg (List.map Event.line) (style.events_fill_of_ok outcome)
      rw [List.map_append, lines, length_placeholders isOf] at all
      exact all

/-- The second placeholder fails, so the lines of the first are the whole log. The null mark is a
double quote, which the warning shows by its escape. -/
theorem fill_lines_second_fails :
    (Outline.placed [] "%p[00..-1]".toList (.placed [' '] "%a[2]".toList (.literal []))).IsOf
      "%p[00..-1] %a[2]".toList ∧
    (fill ⟨"\"", "", "", ""⟩ "%p[00..-1] %a[2]" [.null, .list [.object none]]).run.value =
      .error (.outOfRange ⟨"2", 2, 3, 2⟩) ∧
    (["%p[00..-1]", "%a[2]"].takeWhile fun text =>
        (replace ⟨"\"", "", "", ""⟩ text [.null, .list [.object none]]).run.value.isOk).map
      (Placeholder.selection [.null, .list [.object none]]) =
        [.ok (⟨.parameter, .range ⟨0, by decide, by decide⟩ ⟨-1, by decide, by decide⟩⟩,
          [.null, .list [.object none]])] ∧
    (fill ⟨"\"", "", "", ""⟩ "%p[00..-1] %a[2]"
        [.null, .list [.object none]]).run.events.map Event.line =
      [⟨.debug, "%p[0..-1] selects 2 of 2 argument(s)"⟩,
        ⟨.warn, "argument has no textual description, substituting \"\\\"\""⟩] := by
  have read : Template.segments "%p[00..-1] %a[2]".toList =
      [.mention ⟨.parameter, ['0', '0', '.', '.', '-', '1']⟩, .char ' ',
        .mention ⟨.argument, ['2']⟩] := by decide +kernel
  have fails : (fill ⟨"\"", "", "", ""⟩ "%p[00..-1] %a[2]"
      [.null, .list [.object none]]).run.value = .error (.outOfRange ⟨"2", 2, 3, 2⟩) :=
    outcome_fill_of_segments _ _ read
  have isOf := Outline.isOf_ofSegments "%p[00..-1] %a[2]".toList
  rw [read] at isOf
  obtain ⟨chosen, selections, lines⟩ := fill_lines ⟨"\"", "", "", ""⟩
    [.null, .list [.object none]] "%p[00..-1] %a[2]" _ isOf
  have first : (["%p[00..-1]", "%a[2]"].takeWhile fun text =>
      (replace ⟨"\"", "", "", ""⟩ text [.null, .list [.object none]]).run.value.isOk) =
        ["%p[00..-1]"] := by decide +kernel
  have selected : ["%p[00..-1]"].map (Placeholder.selection [.null, .list [.object none]]) =
      [(⟨.parameter, .range ⟨0, by decide, by decide⟩ ⟨-1, by decide, by decide⟩⟩,
        [.null, .list [.object none]])].map .ok := rfl
  have same := selected.symm.trans ((congrArg (List.map _) first).symm.trans selections)
  rw [fails, ← (List.map_inj_right fun _ _ => Except.ok.inj).mp same] at lines
  refine ⟨isOf, fails, ?_, lines.trans (by decide +kernel)⟩
  rw [first]
  exact selected

end Style

end CaseLabel
