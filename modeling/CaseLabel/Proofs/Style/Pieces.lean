import CaseLabel.Proofs.Text.Printable
import CaseLabel.Style.Description

/-!
# Pieces: a description before the style is known

A description is a sequence of pieces: characters, and places where the text of a setting stands.
The pieces are made from the arguments alone, and `render` puts in the texts of a style as they
are. Main statements:

* the descriptions of arguments in a style are their pieces, rendered (`joined_eq_render`);
* no other pieces are rendered alike in every style (`render_injective`).
-/

namespace CaseLabel

/-- A character of a description, or a place for the text of a setting. -/
inductive Piece where
  | char (c : Char)
  | place (setting : Setting)
  deriving DecidableEq, Repr

namespace Style

/-- A piece in a style. The text of a setting is taken as it is. -/
def spell (style : Style) : Piece → List Char
  | .char c => [c]
  | .place setting => (style.textFor setting).toList

/-- The text of pieces in a style. -/
def render (style : Style) (pieces : List Piece) : String :=
  String.ofList (pieces.flatMap style.spell)

end Style

namespace Piece

/-- The pieces of one character of visible text. -/
def ofChar (c : Char) : List Piece :=
  match Text.escape? c with
  | some escaped => escaped.map .char
  | none => if Text.isPrintable c then [.char c] else [.place .nonPrintableMark]

/-- The pieces of visible text. -/
def visible (cs : List Char) : List Piece := cs.flatMap ofChar

end Piece

namespace Argument

/-- The pieces of an argument without those of its items: a list has its brackets and one separator
between any two of its items. -/
def ownPieces : Argument → List Piece
  | .null => [.place .nullMark]
  | .text t => if t = "" then [.place .emptyMark] else Piece.visible t.toList
  | .scalar s => Piece.visible s.chars
  | .scalars array => array.chars.map .char
  | .list items =>
    .char '[' :: List.replicate (items.length - 1) (.place .separator) ++ [.char ']']
  | .object (some description) => Piece.visible description.toList
  | .object none => [.place .nullMark]

mutual

/-- The pieces of the description of an argument. -/
def pieces : Argument → List Piece
  | .list items => .char '[' :: piecesAll items ++ [.char ']']
  | argument => argument.ownPieces

/-- The pieces of the descriptions of arguments with separators between them. -/
def piecesAll : List Argument → List Piece
  | [] => []
  | item :: rest => pieces item ++ piecesRest rest

/-- The pieces of descriptions, each behind a separator. -/
def piecesRest : List Argument → List Piece
  | [] => []
  | item :: rest => .place .separator :: pieces item ++ piecesRest rest

end

end Argument

namespace Style

section Rendering

variable (style : Style)

@[simp] theorem render_nil : style.render [] = "" := rfl

@[simp] theorem render_append (front back : List Piece) :
    style.render (front ++ back) = style.render front ++ style.render back := by
  rw [render, List.flatMap_append, String.ofList_append, render, render]

theorem render_cons (piece : Piece) (rest : List Piece) :
    style.render (piece :: rest) = String.ofList (style.spell piece) ++ style.render rest := by
  rw [render, List.flatMap_cons, String.ofList_append, render]

theorem render_place (setting : Setting) :
    style.render [.place setting] = style.textFor setting := by
  rw [render_cons, render_nil, String.append_empty, spell, String.ofList_toList]

theorem flatMap_spell_chars (cs : List Char) : (cs.map Piece.char).flatMap style.spell = cs := by
  induction cs with
  | nil => rfl
  | cons c rest ih => rw [List.map_cons, List.flatMap_cons, ih, spell, List.singleton_append]

theorem render_chars (cs : List Char) : style.render (cs.map .char) = String.ofList cs := by
  rw [render, flatMap_spell_chars]

/-- One character of visible text is rendered with the mark of the style. -/
theorem spell_ofChar (c : Char) :
    (Piece.ofChar c).flatMap style.spell = Text.visibleChar style.nonPrintableMark.toList c := by
  unfold Piece.ofChar Text.visibleChar
  cases Text.escape? c with
  | some escaped => exact style.flatMap_spell_chars escaped
  | none =>
    dsimp only
    split
    · rfl
    · exact List.append_nil _

theorem render_visible (text : String) :
    style.render (Piece.visible text.toList) = Text.visible style.nonPrintableMark text := by
  rw [render, Piece.visible, List.flatMap_assoc, Text.visible]
  congr 2
  funext c
  exact style.spell_ofChar c

/-- The text of an argument that is no list is its own pieces, rendered. -/
theorem textOf_eq_render_ownPieces {argument : Argument}
    (notList : ∀ items, argument ≠ .list items) :
    style.textOf argument = style.render argument.ownPieces := by
  cases argument with
  | null => rw [textOf, Argument.ownPieces, render_place, textFor]
  | text text =>
    rw [textOf, Argument.ownPieces]
    split
    · rw [render_place, textFor]
    · rw [render_visible]
  | scalar scalar =>
    rw [textOf, Argument.ownPieces, ← render_visible, Scalar.text, String.toList_ofList]
  | scalars array => rw [textOf, Argument.ownPieces, render_chars, ScalarArray.text]
  | list items => exact absurd rfl (notList items)
  | object description =>
    cases description with
    | none => rw [textOf, Argument.ownPieces, render_place, textFor]
    | some description => rw [textOf, Argument.ownPieces, render_visible]

mutual

/-- The text of an argument is its pieces, rendered. -/
theorem textOf_eq_render :
    (argument : Argument) → style.textOf argument = style.render argument.pieces
  | .null => style.textOf_eq_render_ownPieces (by simp)
  | .text _ => style.textOf_eq_render_ownPieces (by simp)
  | .scalar _ => style.textOf_eq_render_ownPieces (by simp)
  | .scalars _ => style.textOf_eq_render_ownPieces (by simp)
  | .object _ => style.textOf_eq_render_ownPieces (by simp)
  | .list items => by
    have inner := joined_eq_render items
    rw [joined] at inner
    rw [textOf, inner, Argument.pieces, render_append, render_cons]
    rfl

/-- The joined texts of arguments are their pieces, rendered. -/
theorem joined_eq_render :
    (arguments : List Argument) →
      style.joined arguments = style.render (Argument.piecesAll arguments)
  | [] => rfl
  | item :: rest => by
    rw [joined_cons, Argument.piecesAll, render_append, textOf_eq_render item,
      separated_eq_render rest]

theorem separated_eq_render :
    (arguments : List Argument) →
      style.separated arguments = style.render (Argument.piecesRest arguments)
  | [] => rfl
  | item :: rest => by
    have between : String.ofList (style.spell (.place .separator)) = style.separator :=
      String.ofList_toList
    rw [separated, Argument.piecesRest, render_append, render_cons, between,
      textOf_eq_render item, separated_eq_render rest]

end

example : Argument.piecesAll [.list [.null, .text ""], .text "\n\x07"] =
    [.char '[', .place .nullMark, .place .separator, .place .emptyMark, .char ']',
      .place .separator, .char '\\', .char 'n', .place .nonPrintableMark] := by decide +kernel

end Rendering

/-- The style whose texts have one character each. -/
def ofChars (char : Setting → Char) : Style where
  nullMark := .singleton (char .nullMark)
  emptyMark := .singleton (char .emptyMark)
  nonPrintableMark := .singleton (char .nonPrintableMark)
  separator := .singleton (char .separator)

theorem spell_ofChars (char : Setting → Char) (setting : Setting) :
    (ofChars char).spell (.place setting) = [char setting] := by
  cases setting <;> simp [spell, textFor, ofChars]

theorem exists_ne_char (c : Char) : ∃ d : Char, c ≠ d := by
  by_cases zero : c = '0'
  · exact ⟨'1', by simp [zero]⟩
  · exact ⟨'0', zero⟩

/-- Pieces that differ are spelled with different characters in some style. -/
theorem exists_spell_ne {piece other : Piece} (differ : piece ≠ other) :
    ∃ (style : Style) (c d : Char), style.spell piece = [c] ∧ style.spell other = [d] ∧ c ≠ d := by
  cases piece with
  | char c =>
    cases other with
    | char d => exact ⟨standard, c, d, rfl, rfl, fun same => differ (same ▸ rfl)⟩
    | place setting =>
      obtain ⟨d, apart⟩ := exists_ne_char c
      exact ⟨_, c, d, rfl, spell_ofChars (fun _ => d) setting, apart⟩
  | place setting =>
    cases other with
    | char d =>
      obtain ⟨c, apart⟩ := exists_ne_char d
      exact ⟨_, c, d, spell_ofChars (fun _ => c) setting, rfl, apart.symm⟩
    | place setting' =>
      have apart : setting' ≠ setting := fun same => differ (same ▸ rfl)
      let char : Setting → Char := fun s => if s = setting then '0' else '1'
      refine ⟨ofChars char, _, _, spell_ofChars char setting, spell_ofChars char setting', ?_⟩
      simp [char, apart]

/-- In the style of one character for all settings no piece is left out. -/
theorem render_cons_ne_empty (piece : Piece) (rest : List Piece) :
    (ofChars fun _ => '0').render (piece :: rest) ≠ "" := by
  rw [render_cons, ne_eq, String.append_eq_empty_iff]
  cases piece with
  | char c => simp [spell]
  | place setting => simp [spell_ofChars]

/-- Pieces that are rendered alike in every style are the same. -/
theorem render_injective {pieces others : List Piece}
    (alike : ∀ style : Style, style.render pieces = style.render others) : pieces = others := by
  induction pieces generalizing others with
  | nil =>
    cases others with
    | nil => rfl
    | cons other others => exact absurd (alike _).symm (render_cons_ne_empty other others)
  | cons piece pieces ih =>
    cases others with
    | nil => exact absurd (alike _) (render_cons_ne_empty piece pieces)
    | cons other others =>
      have first : piece = other := by
        apply Classical.byContradiction
        intro differ
        obtain ⟨style, c, d, spelled, spelled', apart⟩ := exists_spell_ne differ
        have whole := alike style
        rw [render_cons, render_cons, spelled, spelled', ← String.toList_inj] at whole
        simp [apart] at whole
      subst first
      have rest : pieces = others := by
        apply ih
        intro style
        have whole := alike style
        rw [render_cons, render_cons] at whole
        exact (String.append_right_inj _).mp whole
      rw [rest]

end Style

end CaseLabel
