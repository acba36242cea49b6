import CaseLabel.Placeholder.Scanner
import CaseLabel.Style.Description
import CaseLabel.Subscript.Span

/-!
# Templates: names with placeholders in them

A template is read from the left into characters and placeholders; where a placeholder can start,
it does, and reading goes on behind it. Filling a template replaces each placeholder by the
descriptions of the arguments it selects and copies all other characters. What a placeholder is
replaced by is not read again. The first placeholder that fails ends the filling. `Style.fill` is
`process` of the interface and `Style.replace` is `replacement_for`, which `resolve_placeholder` calls
with the standard style; `Style.replacement` is what both do for one placeholder, `replace_captures`.

`chars_segments` says that the segments of a template make it up.
-/

namespace CaseLabel

/-- A part of a template. -/
inductive Segment where
  | char (c : Char)
  | mention (mention : Mention)
  deriving DecidableEq, Repr

namespace Segment

/-- The characters of a segment. -/
def chars : Segment → List Char
  | .char c => [c]
  | .mention m => m.chars

/-- The placeholder of a segment, if it is one. -/
def mention? : Segment → Option Mention
  | .char _ => none
  | .mention m => some m

end Segment

namespace Template

/-- The segments of a text. -/
def segments : List Char → List Segment
  | [] => []
  | c :: cs =>
    match _found : Mention.atHead? (c :: cs) with
    | some (mention, rest) => .mention mention :: segments rest
    | none => .char c :: segments cs
termination_by cs => cs.length
decreasing_by
  · exact Mention.length_lt_of_atHead? _found
  · simp

/-- The placeholders of a text, from the left. -/
def mentions (cs : List Char) : List Mention := (segments cs).filterMap Segment.mention?

/-- The segments of a template make it up. -/
theorem chars_segments (cs : List Char) : (segments cs).flatMap Segment.chars = cs := by
  fun_induction segments cs with
  | case1 => rfl
  | case2 c cs mention rest found ih =>
    simp [Segment.chars, ih, Mention.eq_of_atHead? found]
  | case3 c cs _ ih => simp [Segment.chars, ih]

end Template

/-- The placeholder and what it selects from a list. A failure gives the subscript as it is
written. -/
def Mention.select {α : Type} (mention : Mention) (items : List α) :
    Except Failure (Placeholder × List α) := do
  let placeholder ← mention.placeholder
  let selected ← placeholder.subscript.selectAs mention.subscriptText items
  pure (placeholder, selected)

namespace Style

/-- What replaces a placeholder: the descriptions of the arguments it selects. -/
def replacement (style : Style) (arguments : List Argument) (mention : Mention) :
    Attempt Failure String :=
  match mention.select arguments with
  | .error failure => throw failure
  | .ok (placeholder, selected) => do
    Logged.record (.selected placeholder selected.length arguments.length)
    style.describeAll selected

/-- What replaces a text that is exactly one placeholder. -/
def replace (style : Style) (text : String) (arguments : List Argument) : Attempt Failure String :=
  match Mention.ofText? text with
  | some mention => style.replacement arguments mention
  | none => throw (.notPlaceholder text)

/-- The text of segments with each placeholder replaced. -/
def fillSegments (style : Style) (arguments : List Argument) :
    List Segment → Attempt Failure String
  | [] => pure ""
  | .char c :: rest => do
    let more ← fillSegments style arguments rest
    pure (String.singleton c ++ more)
  | .mention mention :: rest => do
    let text ← style.replacement arguments mention
    let more ← fillSegments style arguments rest
    pure (text ++ more)

/-- The text of a template with each placeholder replaced. -/
def fill (style : Style) (template : String) (arguments : List Argument) :
    Attempt Failure String := do
  let text ← style.fillSegments arguments (Template.segments template.toList)
  Logged.record (.replaced (Template.mentions template.toList).length template)
  pure text

end Style

end CaseLabel
