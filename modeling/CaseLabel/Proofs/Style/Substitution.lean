import Mathlib.Algebra.GroupWithZero.Nat
import CaseLabel.Proofs.Argument.Places
import CaseLabel.Proofs.Argument.Printable
import CaseLabel.Proofs.Style.Pieces

/-!
# Substitution: how often a description takes the text of a setting

The pieces of arguments are those of their nodes, in another order: a list adds its brackets and
separators around those of its items. So the places of a setting are counted node by node
(`count_piecesAll`). Main statement: a style only puts its texts into the places, and the places of
each of the four settings are counted by the nodes that have one (`describeAll_substitutes`).
-/

namespace CaseLabel

open Text (Printable isPrintable)

/-- A character that a mark stands for in visible text: it is not printable and has no escape. -/
def Text.isMarked (c : Char) : Bool :=
  !isPrintable c && decide (c ∉ ['\x00', '\r', '\n'])

namespace Argument

/-- A value that is missing: null, or an object without a description. -/
def isMissing : Argument → Bool
  | .null => true
  | .object none => true
  | _ => false

def isEmptyText : Argument → Bool
  | .text t => t == ""
  | _ => false

/-- The characters of a text, of the description of an object or of a character alone. -/
def spoken : Argument → List Char
  | .text t => t.toList
  | .object (some description) => description.toList
  | .scalar ⟨.char, c⟩ => [c]
  | _ => []

/-- The number of neighbouring items. -/
def gaps : Argument → Nat
  | .list items => items.length - 1
  | _ => 0

end Argument

namespace Piece

/-- A character with an escape is not marked. -/
theorem isMarked_of_escape? {c : Char} {escaped : List Char} (h : Text.escape? c = some escaped) :
    Text.isMarked c = false := by
  unfold Text.escape? at h
  split at h
  · rfl
  · rfl
  · rfl
  · cases h

theorem isMarked_of_escape?_eq_none {c : Char} (h : Text.escape? c = none) :
    Text.isMarked c = !isPrintable c := by
  unfold Text.escape? at h
  split at h
  · cases h
  · cases h
  · cases h
  next null carriage feed =>
    have unescaped : c ∉ ['\x00', '\r', '\n'] := by
      simp only [List.mem_cons, List.not_mem_nil, or_false, not_or]
      exact ⟨null, carriage, feed⟩
    rw [Text.isMarked, decide_eq_true unescaped, Bool.and_true]

variable {setting : Setting}

theorem count_chars (cs : List Char) : (cs.map Piece.char).count (.place setting) = 0 := by
  rw [List.count_eq_zero]
  simp

theorem count_ofChar (c : Char) :
    (ofChar c).count (.place setting) =
      if setting = .nonPrintableMark ∧ Text.isMarked c = true then 1 else 0 := by
  unfold ofChar
  cases found : Text.escape? c with
  | some escaped => simp [count_chars, isMarked_of_escape? found]
  | none =>
    rw [isMarked_of_escape?_eq_none found]
    by_cases printable : isPrintable c = true
    · simp [printable]
    · by_cases mark : setting = .nonPrintableMark
      · simp [printable, mark]
      · simp [printable, mark, Ne.symm mark]

/-- Of the settings visible text has places for one only, one for each marked character. -/
theorem count_visible (cs : List Char) :
    (visible cs).count (.place setting) =
      if setting = .nonPrintableMark then cs.countP Text.isMarked else 0 := by
  induction cs with
  | nil => simp [visible]
  | cons c rest ih =>
    rw [visible, List.flatMap_cons, List.count_append, count_ofChar, ← visible, ih,
      List.countP_cons]
    by_cases mark : setting = .nonPrintableMark
    · simp only [mark, true_and, if_true]
      omega
    · simp [mark]

end Piece

namespace Argument

open Piece (count_chars count_visible)

variable {setting : Setting}

mutual

/-- The places in a description are those of the nodes of the argument. -/
theorem count_pieces :
    (argument : Argument) → argument.pieces.count (.place setting) =
      (argument.nodes.flatMap ownPieces).count (.place setting)
  | .null => by simp [pieces, nodes]
  | .text _ => by simp [pieces, nodes]
  | .scalar _ => by simp [pieces, nodes]
  | .scalars _ => by simp [pieces, nodes]
  | .object _ => by simp [pieces, nodes]
  | .list items => by
    have inner := count_piecesAll items
    simp only [pieces, nodes, ownPieces, List.flatMap_cons, List.count_append, List.count_cons,
      List.count_nil, inner]
    omega

/-- Arguments have the places of their nodes and those of the separators between them. -/
theorem count_piecesAll :
    (arguments : List Argument) → (piecesAll arguments).count (.place setting) =
      (List.replicate (arguments.length - 1) (Piece.place .separator)).count (.place setting) +
        ((nodesAll arguments).flatMap ownPieces).count (.place setting)
  | [] => by simp [piecesAll, nodesAll]
  | item :: rest => by
    rw [piecesAll, nodesAll, List.flatMap_append, List.count_append, List.count_append,
      count_pieces item, count_piecesRest rest, List.length_cons, Nat.add_sub_cancel]
    omega

theorem count_piecesRest :
    (arguments : List Argument) → (piecesRest arguments).count (.place setting) =
      (List.replicate arguments.length (Piece.place .separator)).count (.place setting) +
        ((nodesAll arguments).flatMap ownPieces).count (.place setting)
  | [] => by simp [piecesRest, nodesAll]
  | item :: rest => by
    rw [piecesRest, nodesAll, List.cons_append, List.count_cons, List.flatMap_append,
      List.count_append, List.count_append, count_pieces item, count_piecesRest rest,
      List.length_cons, List.replicate_succ, List.count_cons]
    omega

end

/-- The number of places of a setting in an argument without those in its items. -/
def places (argument : Argument) : Setting → Nat
  | .nullMark => if argument.isMissing then 1 else 0
  | .emptyMark => if argument.isEmptyText then 1 else 0
  | .nonPrintableMark => argument.spoken.countP Text.isMarked
  | .separator => argument.gaps

/-- The text of a scalar has places for the mark of a character alone. -/
theorem countP_isMarked_scalar (scalar : Scalar) :
    scalar.chars.countP Text.isMarked = (spoken (.scalar scalar)).countP Text.isMarked := by
  have unmarked (notChar : scalar.kind ≠ .char) : scalar.chars.countP Text.isMarked = 0 := by
    rw [List.countP_eq_zero]
    intro c member
    simp [Text.isMarked, Scalar.printable_chars notChar c member]
  obtain ⟨kind, value⟩ := scalar
  cases kind with
  | bool => exact unmarked (by simp)
  | char => rfl
  | whole kind => exact unmarked (by simp)
  | float format => exact unmarked (by simp)

theorem count_ownPieces (argument : Argument) :
    argument.ownPieces.count (.place setting) = argument.places setting := by
  cases argument with
  | null => cases setting <;> rfl
  | text text =>
    by_cases empty : text = ""
    · subst empty
      cases setting <;> rfl
    · rw [ownPieces, if_neg empty, count_visible]
      cases setting <;> simp [places, isMissing, isEmptyText, spoken, gaps, empty]
  | scalar scalar =>
    rw [ownPieces, count_visible, countP_isMarked_scalar]
    cases setting <;> simp [places, isMissing, isEmptyText, gaps]
  | scalars array =>
    rw [ownPieces, count_chars]
    cases setting <;> rfl
  | list items =>
    rw [ownPieces, List.count_append, List.count_cons, List.count_replicate]
    cases setting <;> simp [places, isMissing, isEmptyText, spoken, gaps]
  | object description =>
    cases description with
    | none => cases setting <;> rfl
    | some description =>
      rw [ownPieces, count_visible]
      cases setting <;> simp [places, isMissing, isEmptyText, spoken, gaps]

/-- The places of a setting are those of the nodes, and for the separator those between the
arguments. -/
theorem count_piecesAll_eq_sum (arguments : List Argument) :
    (piecesAll arguments).count (.place setting) =
      (if setting = .separator then arguments.length - 1 else 0) +
        ((nodesAll arguments).map fun node => node.places setting).sum := by
  have own : List.count (Piece.place setting) ∘ ownPieces = fun node => node.places setting :=
    funext count_ownPieces
  rw [count_piecesAll, List.count_flatMap, own, List.count_replicate]
  by_cases between : setting = .separator
  · simp [between]
  · simp [between, Ne.symm between]

theorem sum_map_indicator (p : Argument → Bool) (arguments : List Argument) :
    (arguments.map fun argument => if p argument then 1 else 0).sum = arguments.countP p := by
  induction arguments with
  | nil => rfl
  | cons argument rest ih =>
    rw [List.map_cons, List.sum_cons, ih, List.countP_cons]
    omega

end Argument

namespace Style

open Argument (nodesAll piecesAll count_piecesAll_eq_sum)

/-- What a description is made of does not depend on the style. For all arguments there is exactly
one sequence of pieces that gives their descriptions in every style, of whatever texts, once each
place is taken by the text of its setting as it stands. The null mark has a place for each value
that is missing, at any depth, the mark of empty text for each empty text, the mark of characters
that are not printable for each such character without an escape in a text, in the description of
an object or alone, and the separator between any two neighbours among the arguments and among the
items of each list. -/
theorem describeAll_substitutes (arguments : List Argument) :
    ∃ pieces : List Piece,
      (∀ style : Style, (style.describeAll arguments).value = style.render pieces) ∧
      (∀ others : List Piece,
        (∀ style : Style, (style.describeAll arguments).value = style.render others) →
          others = pieces) ∧
      pieces.count (.place .nullMark) = (nodesAll arguments).countP Argument.isMissing ∧
      pieces.count (.place .emptyMark) = (nodesAll arguments).countP Argument.isEmptyText ∧
      pieces.count (.place .nonPrintableMark) =
        ((nodesAll arguments).flatMap Argument.spoken).countP Text.isMarked ∧
      pieces.count (.place .separator) =
        arguments.length - 1 + ((nodesAll arguments).map Argument.gaps).sum := by
  have rendered (style : Style) :
      (style.describeAll arguments).value = style.render (piecesAll arguments) := by
    rw [describeAll_eq, joined_eq_render]
  refine ⟨piecesAll arguments, rendered, ?_, ?_, ?_, ?_, ?_⟩
  · intro others alike
    apply render_injective
    intro style
    rw [← alike style, rendered style]
  · rw [count_piecesAll_eq_sum, if_neg (by decide), Nat.zero_add, ← Argument.sum_map_indicator]
    rfl
  · rw [count_piecesAll_eq_sum, if_neg (by decide), Nat.zero_add, ← Argument.sum_map_indicator]
    rfl
  · rw [count_piecesAll_eq_sum, if_neg (by decide), Nat.zero_add, List.countP_flatMap]
    rfl
  · rw [count_piecesAll_eq_sum, if_pos rfl]
    rfl

end Style

end CaseLabel
