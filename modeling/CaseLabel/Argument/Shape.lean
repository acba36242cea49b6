import CaseLabel.Style.Description

/-!
# Shapes: how an argument is described

The shape of an argument says which of the texts of a style it needs. Empty text has a shape of its
own. All other text, scalars and objects are plain: they have one text, not yet made visible, or none
at all. `Argument.shape` is `shape` of the interface, and `Style.writeShape` writes what
`write_argument` writes for each `Shape`.

Descriptions are written by the forms of arguments, through which lists are nested. Main statements:

* for every argument this is what its shape asks for (`Style.write_eq_writeShape`,
  `Style.describe_eq_writeShape`);
* the forms that a mark stands for are told by their shapes, and only they: a missing value, empty
  text and an object without a description (`shape_eq_null_iff`, `shape_eq_emptyText_iff`,
  `shape_eq_plain_none_iff`).
-/

namespace CaseLabel

inductive Shape where
  | null
  | emptyText
  | scalars (array : ScalarArray)
  | list (items : List Argument)
  | plain (text : Option String)

namespace Argument

/-- What matters of an argument for its description. -/
def shape : Argument → Shape
  | .null => .null
  | .text t => if t = "" then .emptyText else .plain (some t)
  | .scalar s => .plain (some s.text)
  | .scalars array => .scalars array
  | .list items => .list items
  | .object description => .plain description

theorem shape_text_empty : shape (.text "") = .emptyText := by
  rw [shape, if_pos rfl]

theorem shape_text {t : String} (nonempty : t ≠ "") : shape (.text t) = .plain (some t) := by
  rw [shape, if_neg nonempty]

theorem shape_eq_null_iff {argument : Argument} : argument.shape = .null ↔ argument = .null := by
  cases argument with
  | text t => by_cases empty : t = "" <;> simp [shape, empty]
  | _ => simp [shape]

theorem isNull_iff_shape {argument : Argument} :
    argument.isNull = true ↔ argument.shape = .null := by
  rw [shape_eq_null_iff]
  cases argument <;> simp [isNull]

theorem shape_eq_emptyText_iff {argument : Argument} :
    argument.shape = .emptyText ↔ argument = .text "" := by
  cases argument with
  | text t => by_cases empty : t = "" <;> simp [shape, empty]
  | _ => simp [shape]

theorem shape_eq_plain_none_iff {argument : Argument} :
    argument.shape = .plain none ↔ argument = .object none := by
  cases argument with
  | text t => by_cases empty : t = "" <;> simp [shape, empty]
  | _ => simp [shape]

end Argument

namespace Style

/-- Writes what a shape asks for. -/
def writeShape (style : Style) (out : Logged String) : Shape → Logged String
  | .null => out.append style.nullMark
  | .scalars array => out.append array.text
  | .list items => (style.writeAll (out.append "[") items).append "]"
  | .emptyText => out.append style.emptyMark
  | .plain (some text) => style.writeVisible out text
  | .plain none => (out.note (.undescribed style.nullMark)).append style.nullMark

/-- An argument is written as its shape asks for. -/
theorem write_eq_writeShape (style : Style) (out : Logged String) (argument : Argument) :
    style.write out argument = style.writeShape out argument.shape := by
  cases argument with
  | null => rfl
  | text t =>
    by_cases empty : t = ""
    · rw [empty, Argument.shape_text_empty, writeShape, write, if_pos rfl]
    · rw [Argument.shape_text empty, writeShape, write, if_neg empty]
  | scalar s => rfl
  | scalars array => rfl
  | list items => rfl
  | object description => cases description <;> rfl

/-- The description of an argument is settled by its shape. -/
theorem describe_eq_writeShape (style : Style) (argument : Argument) :
    style.describe argument = style.writeShape (pure "") argument.shape :=
  style.write_eq_writeShape (pure "") argument

end Style

end CaseLabel
