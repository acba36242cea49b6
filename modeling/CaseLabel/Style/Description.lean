import CaseLabel.Argument.Basic
import CaseLabel.Log
import CaseLabel.Text.Visible

/-!
# Descriptions of arguments

A description is written behind what has been written before. Text, scalars and descriptions of
objects are made visible; an array of scalars is written as it is, with a separator of its own; a
list stands between brackets, its items separated like arguments. An object without a description
is described by the null mark, which leaves an event. `write` and `writeAll` are `write_argument` and
`write_all` of the interface, `describe` and `describeAll` are `format` and `format_all`, which
`format_argument` and `format_arguments` call with the standard style.

`textOf` states the text of an argument by its form, without a place to write to: the texts of the
items of a list are joined by the separator and bracketed. Main statement: writing appends that
text and one event for each object without a description (`write_eq`, `writeAll_eq`), so what has
been written before does not matter.
-/

namespace CaseLabel.Style

/-- Writes text with the mark of this style for characters that are not printable. -/
def writeVisible (style : Style) (out : Logged String) (text : String) : Logged String :=
  out.append (Text.visible style.nonPrintableMark text)

mutual

/-- Writes the description of one argument. -/
def write (style : Style) (out : Logged String) : Argument → Logged String
  | .null => out.append style.nullMark
  | .text text => if text = "" then out.append style.emptyMark else style.writeVisible out text
  | .scalar scalar => style.writeVisible out scalar.text
  | .scalars array => out.append array.text
  | .list items => (writeAll style (out.append "[") items).append "]"
  | .object (some description) => style.writeVisible out description
  | .object none => (out.note (.undescribed style.nullMark)).append style.nullMark

/-- Writes the descriptions of arguments with separators between them. -/
def writeAll (style : Style) (out : Logged String) : List Argument → Logged String
  | [] => out
  | item :: rest => writeRest style (write style out item) rest

/-- Writes descriptions, each behind a separator. -/
def writeRest (style : Style) (out : Logged String) : List Argument → Logged String
  | [] => out
  | item :: rest => writeRest style (write style (out.append style.separator) item) rest

end

/-- The description of one argument. -/
def describe (style : Style) (argument : Argument) : Logged String := style.write (pure "") argument

/-- The descriptions of arguments, joined by the separator. -/
def describeAll (style : Style) (arguments : List Argument) : Logged String :=
  style.writeAll (pure "") arguments

mutual

/-- The text of an argument, by its form. -/
def textOf (style : Style) : Argument → String
  | .null => style.nullMark
  | .text text =>
    if text = "" then style.emptyMark else Text.visible style.nonPrintableMark text
  | .scalar scalar => Text.visible style.nonPrintableMark scalar.text
  | .scalars array => array.text
  | .list items => "[" ++ style.separator.intercalate (textsOf style items) ++ "]"
  | .object (some description) => Text.visible style.nonPrintableMark description
  | .object none => style.nullMark

/-- The texts of arguments. -/
def textsOf (style : Style) : List Argument → List String
  | [] => []
  | item :: rest => textOf style item :: textsOf style rest

end

/-- The texts of arguments, joined by the separator. -/
def joined (style : Style) (arguments : List Argument) : String :=
  style.separator.intercalate (style.textsOf arguments)

/-- Texts with a separator in front of each. -/
def separated (style : Style) : List Argument → String
  | [] => ""
  | item :: rest => style.separator ++ style.textOf item ++ separated style rest

theorem textsOf_eq_map (style : Style) (arguments : List Argument) :
    style.textsOf arguments = arguments.map style.textOf := by
  induction arguments with
  | nil => rfl
  | cons item rest ih => rw [textsOf, List.map_cons, ih]

theorem joined_nil (style : Style) : style.joined [] = "" := rfl

theorem joined_cons (style : Style) (item : Argument) (rest : List Argument) :
    style.joined (item :: rest) = style.textOf item ++ style.separated rest := by
  induction rest generalizing item with
  | nil => simp [joined, textsOf, separated]
  | cons next rest ih =>
    have later := ih next
    simp only [joined, textsOf, separated] at later ⊢
    rw [String.intercalate_cons_cons, later, String.append_assoc, String.append_assoc]

/-- The events of writing objects without a description. -/
def undescribedEvents (style : Style) (count : Nat) : List Event :=
  List.replicate count (.undescribed style.nullMark)

theorem undescribedEvents_add (style : Style) (m n : Nat) :
    style.undescribedEvents (m + n) = style.undescribedEvents m ++ style.undescribedEvents n :=
  List.replicate_append_replicate.symm

mutual

/-- Writing an argument appends its text and its events. -/
theorem write_eq (style : Style) (out : Logged String) :
    (argument : Argument) → style.write out argument =
      ⟨out.value ++ style.textOf argument,
        out.events ++ style.undescribedEvents argument.undescribed⟩
  | .null => by
    simp [write, textOf, Argument.undescribed, undescribedEvents, Logged.append]
  | .text text => by
    by_cases empty : text = ""
    · simp [write, textOf, Argument.undescribed, undescribedEvents, Logged.append, empty]
    · simp [write, textOf, Argument.undescribed, undescribedEvents, Logged.append, writeVisible,
        empty]
  | .scalar scalar => by
    simp [write, textOf, Argument.undescribed, undescribedEvents, Logged.append, writeVisible]
  | .scalars array => by
    simp [write, textOf, Argument.undescribed, undescribedEvents, Logged.append]
  | .list items => by
    rw [write, writeAll_eq style (out.append "[") items, textOf, Argument.undescribed]
    simp only [Logged.append, joined, String.append_assoc]
  | .object (some description) => by
    simp [write, textOf, Argument.undescribed, undescribedEvents, Logged.append, writeVisible]
  | .object none => by
    simp [write, textOf, Argument.undescribed, undescribedEvents, Logged.append, Logged.note]

/-- Writing arguments appends their joined texts and their events. -/
theorem writeAll_eq (style : Style) (out : Logged String) :
    (arguments : List Argument) → style.writeAll out arguments =
      ⟨out.value ++ style.joined arguments,
        out.events ++ style.undescribedEvents (Argument.undescribedAll arguments)⟩
  | [] => by
    simp [writeAll, joined_nil, Argument.undescribedAll, undescribedEvents]
  | item :: rest => by
    rw [writeAll, write_eq style out item, writeRest_eq style _ rest, joined_cons,
      Argument.undescribedAll, undescribedEvents_add, String.append_assoc, List.append_assoc]

/-- Writing further arguments appends their texts, each behind a separator, and their events. -/
theorem writeRest_eq (style : Style) (out : Logged String) :
    (arguments : List Argument) → style.writeRest out arguments =
      ⟨out.value ++ style.separated arguments,
        out.events ++ style.undescribedEvents (Argument.undescribedAll arguments)⟩
  | [] => by
    simp [writeRest, separated, Argument.undescribedAll, undescribedEvents]
  | item :: rest => by
    rw [writeRest, write_eq style _ item, writeRest_eq style _ rest, separated,
      Argument.undescribedAll, undescribedEvents_add]
    simp only [Logged.append, String.append_assoc, List.append_assoc]

end

/-- The descriptions of arguments are their joined texts. -/
theorem describeAll_eq (style : Style) (arguments : List Argument) :
    style.describeAll arguments =
      ⟨style.joined arguments,
        style.undescribedEvents (Argument.undescribedAll arguments)⟩ := by
  simp [describeAll, writeAll_eq]

/-- The description of an argument is its text. -/
theorem describe_eq (style : Style) (argument : Argument) :
    style.describe argument =
      ⟨style.textOf argument, style.undescribedEvents argument.undescribed⟩ := by
  simp [describe, write_eq]

end CaseLabel.Style
