import CaseLabel.Style.Description

/-!
# The rules of descriptions

A description is written piece by piece behind what has been written. The rules speak of whole
texts instead: the text of an argument follows from its form, the text of a list from that of its
items, and the texts of arguments from those of any two parts of them. Main statements:

* descriptions follow the rules (`rules_textOf`);
* nothing else does (`textOf_of_rules`, `joined_of_rules`);
* writing adds the description behind what is there, whatever that is (`write_describes`).
-/

namespace CaseLabel

/-- The text of an array by the texts of its elements. -/
theorem ScalarArray.text_eq (array : ScalarArray) :
    array.text = "[" ++ ", ".intercalate (array.scalars.map Scalar.text) ++ "]" := by
  have elements : (array.scalars.map Scalar.text).map String.toList =
      array.scalars.map Scalar.chars := by
    rw [List.map_map]
    apply List.map_congr_left
    intro scalar _
    exact String.toList_ofList
  apply String.toList_injective
  rw [text, String.toList_ofList, chars, String.toList_append, String.toList_append,
    String.toList_intercalate, elements]
  rfl

namespace Style

/-- What texts of arguments and of lists of arguments have to be in a style. -/
structure Rules (style : Style) (text : Argument → String) (textAll : List Argument → String) :
    Prop where
  null : text .null = style.nullMark
  undescribed : text (.object none) = style.nullMark
  emptyText : text (.text "") = style.emptyMark
  plainText : ∀ t, t ≠ "" → text (.text t) = Text.visible style.nonPrintableMark t
  described : ∀ d, text (.object (some d)) = Text.visible style.nonPrintableMark d
  scalar : ∀ scalar : Scalar,
    text (.scalar scalar) = Text.visible style.nonPrintableMark scalar.text
  /-- The elements of an array are neither made visible nor joined by the separator. -/
  scalars : ∀ array : ScalarArray,
    text (.scalars array) = "[" ++ ", ".intercalate (array.scalars.map Scalar.text) ++ "]"
  list : ∀ items, text (.list items) = "[" ++ textAll items ++ "]"
  nil : textAll [] = ""
  single : ∀ argument, textAll [argument] = text argument
  append : ∀ front back, front ≠ [] → back ≠ [] →
    textAll (front ++ back) = textAll front ++ style.separator ++ textAll back

variable {style : Style}

theorem joined_singleton (style : Style) (argument : Argument) :
    style.joined [argument] = style.textOf argument := by
  rw [joined_cons, separated, String.append_empty]

theorem joined_append (style : Style) {front back : List Argument}
    (frontNonempty : front ≠ []) (backNonempty : back ≠ []) :
    style.joined (front ++ back) = style.joined front ++ style.separator ++ style.joined back := by
  simp only [joined, textsOf_eq_map, List.map_append]
  apply String.intercalate_append_of_ne_nil
  · simpa using frontNonempty
  · simpa using backNonempty

theorem rules_textOf (style : Style) : style.Rules style.textOf style.joined where
  null := rfl
  undescribed := rfl
  emptyText := by rw [textOf, if_pos rfl]
  plainText t nonempty := by rw [textOf, if_neg nonempty]
  described _ := rfl
  scalar _ := rfl
  scalars array := array.text_eq
  list _ := rfl
  nil := rfl
  single := style.joined_singleton
  append _ _ frontNonempty backNonempty := style.joined_append frontNonempty backNonempty

section Uniqueness

variable {text : Argument → String} {textAll : List Argument → String}

mutual

/-- The rules leave one text for an argument. -/
theorem textOf_of_rules (rules : style.Rules text textAll) :
    (argument : Argument) → text argument = style.textOf argument
  | .null => rules.null
  | .text t => by
    by_cases empty : t = ""
    · subst empty
      rw [rules.emptyText, style.rules_textOf.emptyText]
    · rw [rules.plainText t empty, style.rules_textOf.plainText t empty]
  | .scalar scalar => rules.scalar scalar
  | .scalars array => (rules.scalars array).trans array.text_eq.symm
  | .list items => by rw [rules.list, joined_of_rules rules items, style.rules_textOf.list]
  | .object (some d) => rules.described d
  | .object none => rules.undescribed

/-- The rules leave one text for a list of arguments: its first item is cut off. -/
theorem joined_of_rules (rules : style.Rules text textAll) :
    (arguments : List Argument) → textAll arguments = style.joined arguments
  | [] => rules.nil
  | [argument] => by
    rw [rules.single, textOf_of_rules rules argument, style.joined_singleton]
  | argument :: next :: rest => by
    have cut := rules.append [argument] (next :: rest) (by simp) (by simp)
    rw [List.singleton_append] at cut
    rw [cut, rules.single, textOf_of_rules rules argument, joined_of_rules rules (next :: rest),
      ← style.joined_singleton argument, ← style.joined_append (by simp) (by simp),
      List.singleton_append]

end

end Uniqueness

/-- Descriptions follow the rules and are the only texts that do, so they are what the structure
of the arguments says; the description of an object whose description is empty is empty. Writing an
argument or several only adds their description behind what has been written, and their events
behind those there are. -/
theorem write_describes (style : Style) :
    style.Rules (fun argument => (style.describe argument).value)
      (fun arguments => (style.describeAll arguments).value) ∧
    (∀ text textAll, style.Rules text textAll →
      (∀ argument, text argument = (style.describe argument).value) ∧
      ∀ arguments, textAll arguments = (style.describeAll arguments).value) ∧
    (style.describe (.object (some ""))).value = "" ∧
    (∀ (out : Logged String) (argument : Argument), style.write out argument =
      ⟨out.value ++ (style.describe argument).value,
        out.events ++ (style.describe argument).events⟩) ∧
    ∀ (out : Logged String) (arguments : List Argument), style.writeAll out arguments =
      ⟨out.value ++ (style.describeAll arguments).value,
        out.events ++ (style.describeAll arguments).events⟩ := by
  simp only [describe_eq, describeAll_eq]
  refine ⟨style.rules_textOf, ?_, ?_, style.write_eq, style.writeAll_eq⟩
  · intro text textAll rules
    exact ⟨textOf_of_rules rules, joined_of_rules rules⟩
  · rfl

end Style

end CaseLabel
