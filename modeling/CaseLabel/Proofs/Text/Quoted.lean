import CaseLabel.Log
import CaseLabel.Proofs.Argument.Printable
import CaseLabel.Proofs.Text.Category
import CaseLabel.Proofs.Text.Escapes

/-!
# Quoted text can be taken apart

The escapes of quoted text are the six letters and the numbers between braces. Main statements:

* quoted text determines the text (`quoted_injective`), and so it does with any text behind it
  (`quoted_append_inj`);
* graphic text without a quote or a backslash is only put between quotes (`quoted_of_graphic`);
* quoted text has no control character (`oneLine_quoted`), so a record of the log is one line
  whatever texts it shows (`Event.oneLine_message`).
-/

namespace CaseLabel

namespace Text

theorem digit_ne_brace {n : Nat} : ∀ c ∈ Nat.toDigits 16 n, (c == '\x7d') = false := by
  intro c member
  obtain ⟨d, -, rfl⟩ := exists_digit_of_mem_toDigits member
  exact beq_eq_false_iff_ne.mpr (Nat.digitChar_ne '\x7d' (by decide))

/-- The escapes of quoted text. A number ends at its closing brace, which is no digit. -/
def quotedEscapes : Escapes where
  letters := [('\x00', '0'), ('\t', 't'), ('\r', 'r'), ('\n', 'n'), ('"', '"'), ('\\', '\\')]
  number c := '\x7b' :: Nat.toDigits 16 c.toNat ++ ['\x7d']
  IsNumbered _ := True
  eq_of_letter_eq := by decide
  letter_ne := by decide
  eq_of_number_append_eq := by
    intro c d _ _ rest rest' same
    simp only [List.cons_append, List.append_assoc, List.nil_append, List.cons.injEq,
      true_and] at same
    obtain ⟨digits, behind⟩ :=
      append_inj_of_stop digit_ne_brace digit_ne_brace (by simp) (by simp) same
    exact ⟨Char.toNat_inj.mp (toDigits_hex_injective digits), List.tail_eq_of_cons_eq behind⟩

theorem shows_quotedChar (c : Char) : quotedEscapes.Shows c (quotedChar c) := by
  unfold quotedChar
  split
  · exact .letter (by decide)
  · exact .letter (by decide)
  · exact .letter (by decide)
  · exact .letter (by decide)
  · exact .letter (by decide)
  · exact .letter (by decide)
  next other quote backslash =>
    split
    · exact .number trivial
    · exact .itself quote backslash

/-- Quoted texts with other texts behind them are the same only piece by piece. -/
theorem quoted_append_inj {text text' rest rest' : String}
    (same : quoted text ++ rest = quoted text' ++ rest') : text = text' ∧ rest = rest' := by
  have chars := congrArg String.toList same
  simp only [quoted, String.toList_append, String.toList_ofList, List.cons_append,
    List.append_assoc, List.nil_append, List.cons.injEq, true_and] at chars
  obtain ⟨texts, rests⟩ := Escapes.eq_of_closed shows_quotedChar chars
  exact ⟨String.toList_inj.mp texts, String.toList_inj.mp rests⟩

theorem quoted_injective : Function.Injective quoted := fun _ _ same =>
  (quoted_append_inj (congrArg (· ++ "") same)).1

example : quoted "say \"\\\"\n\x07\u00e9\u200b" =
    "\"say \\\"\\\\\\\"\\n\\u\x7b7\x7dé\\u\x7b200b\x7d\"" := by decide +kernel

/-- Up to the last control character, those are numbered that are one and have no letter. -/
theorem hold_numberedRanges : ∀ n < 0xA0, CodeRange.hold numberedRanges n = true ↔
    (n < 0x20 ∨ 0x7F ≤ n) ∧ n ∉ [0x0, 0x9, 0xA, 0xD] := by
  decide +kernel

theorem not_covers_of_graphic {c : Char} (graphic : isGraphic c = true) :
    CodeRange.covers numberedRanges c = false := by
  obtain ⟨low, high⟩ := isGraphic_iff.mp graphic
  rw [← Bool.not_eq_true, CodeRange.covers, hold_numberedRanges c.toNat (by omega)]
  omega

theorem quotedChar_of_graphic {c : Char} (graphic : isGraphic c = true) (quote : c ≠ '"')
    (backslash : c ≠ '\\') : quotedChar c = [c] := by
  unfold quotedChar
  split
  · cases graphic
  · cases graphic
  · cases graphic
  · cases graphic
  · exact absurd rfl quote
  · exact absurd rfl backslash
  · rw [not_covers_of_graphic graphic, if_neg Bool.false_ne_true]

theorem quoted_of_graphic {text : String}
    (h : ∀ c ∈ text.toList, isGraphic c = true ∧ c ≠ '"' ∧ c ≠ '\\') :
    quoted text = "\"" ++ text ++ "\"" := by
  have same : text.toList.flatMap quotedChar = text.toList := by
    refine flatMap_eq_self fun c member => ?_
    obtain ⟨graphic, quote, backslash⟩ := h c member
    exact quotedChar_of_graphic graphic quote backslash
  rw [← String.toList_inj, quoted, String.toList_ofList, same]
  simp

/-- No character of the text is a control character. -/
def NoControl (cs : List Char) : Prop := ∀ c ∈ cs, Category.control.has c = false

theorem Printable.noControl {cs : List Char} (h : Printable cs) : NoControl cs :=
  fun c member => category_eq_ordinary_iff.mp (isPrintable_iff.mp (h c member)) .control

theorem noControl_append {cs ds : List Char} :
    NoControl (cs ++ ds) ↔ NoControl cs ∧ NoControl ds := List.forall_mem_append

theorem printable_numbered (c : Char) : Printable (numbered c) := by
  have digits : Printable (Nat.toDigits 16 c.toNat) := by
    intro digit member
    obtain ⟨d, small, rfl⟩ := exists_digit_of_mem_toDigits member
    have graphic : ∀ d < 16, isGraphic (Nat.digitChar d) = true := by decide
    exact isPrintable_of_isGraphic (graphic d small)
  simp [numbered, digits]

/-- A control character without a number has a letter. -/
theorem lettered_of_control {c : Char} (control : Category.control.has c = true)
    (unlisted : ¬ CodeRange.covers numberedRanges c = true) :
    c = '\x00' ∨ c = '\t' ∨ c = '\n' ∨ c = '\r' := by
  have bounds : c.toNat ≤ 0x1F ∨ 0x7F ≤ c.toNat ∧ c.toNat ≤ 0x9F := by
    simpa [Category.has, Category.ranges] using control
  rw [CodeRange.covers, hold_numberedRanges c.toNat (by omega)] at unlisted
  have lettered : c.toNat ∈ [0x0, 0x9, 0xA, 0xD] := by
    by_contra unlettered
    exact unlisted ⟨by omega, unlettered⟩
  simp only [List.mem_cons, List.not_mem_nil, or_false] at lettered
  rcases lettered with code | code | code | code
  · exact .inl (Char.toNat_inj.mp code)
  · exact .inr (.inl (Char.toNat_inj.mp code))
  · exact .inr (.inr (.inl (Char.toNat_inj.mp code)))
  · exact .inr (.inr (.inr (Char.toNat_inj.mp code)))

theorem noControl_quotedChar (c : Char) : NoControl (quotedChar c) := by
  unfold quotedChar
  split
  · exact (printable_of_isGraphic (by decide)).noControl
  · exact (printable_of_isGraphic (by decide)).noControl
  · exact (printable_of_isGraphic (by decide)).noControl
  · exact (printable_of_isGraphic (by decide)).noControl
  · exact (printable_of_isGraphic (by decide)).noControl
  · exact (printable_of_isGraphic (by decide)).noControl
  next null tab carriageReturn lineFeed _ _ =>
    split
    · exact (printable_numbered c).noControl
    next unlisted =>
      intro other member
      rw [List.mem_singleton.mp member]
      by_contra control
      rcases lettered_of_control (eq_true_of_ne_false control) unlisted with h | h | h | h
      · exact null h
      · exact tab h
      · exact lineFeed h
      · exact carriageReturn h

end Text

theorem Subscript.printable_chars (subscript : Subscript) : Text.Printable subscript.chars := by
  cases subscript with
  | single p => exact Numeral.printable_ofInt p.val
  | range first last => simp [chars, Numeral.printable_ofInt]

theorem Placeholder.printable_text (placeholder : Placeholder) :
    Text.Printable placeholder.text.toList := by
  have letter : Text.isPrintable placeholder.letter.char = true := by
    cases placeholder.letter <;> simp [Letter.char]
  simp [text, Letter.opening, letter, Subscript.text, Subscript.printable_chars]

namespace Text

/-- The text has no control character. -/
def OneLine (text : String) : Prop := NoControl text.toList

theorem OneLine.append {text more : String} (h : OneLine text) (h' : OneLine more) :
    OneLine (text ++ more) := by
  rw [OneLine, String.toList_append]
  exact noControl_append.mpr ⟨h, h'⟩

theorem oneLine_of_graphic {text : String} (h : text.toList.all isGraphic = true) : OneLine text :=
  (printable_of_isGraphic h).noControl

theorem oneLine_quoted (text : String) : OneLine (quoted text) := by
  have quote : NoControl ['"'] := (printable_of_isGraphic (by decide)).noControl
  have shown : NoControl (text.toList.flatMap quotedChar) := by
    intro other member
    obtain ⟨c, -, shown⟩ := List.mem_flatMap.mp member
    exact noControl_quotedChar c other shown
  rw [OneLine, quoted, String.toList_ofList]
  exact noControl_append.mpr ⟨noControl_append.mpr ⟨quote, shown⟩, quote⟩

theorem oneLine_natText (n : Nat) : OneLine (Numeral.natText n) := by
  rw [OneLine, Numeral.natText, String.toList_ofList]
  exact (Numeral.printable_ofNat n).noControl

theorem oneLine_variableName (setting : Setting) : OneLine setting.variableName := by
  cases setting with
  | nullMark => exact oneLine_of_graphic (by decide +kernel)
  | emptyMark => exact oneLine_of_graphic (by decide +kernel)
  | nonPrintableMark => exact oneLine_of_graphic (by decide +kernel)
  | separator => exact oneLine_of_graphic (by decide +kernel)

end Text

open Text

theorem Event.oneLine_message (event : Event) : OneLine event.message := by
  cases event with
  | selected placeholder count total =>
    have text : OneLine placeholder.text := placeholder.printable_text.noControl
    have selects : OneLine " selects " := oneLine_of_graphic (by decide +kernel)
    have among : OneLine " of " := oneLine_of_graphic (by decide +kernel)
    have closing : OneLine " argument(s)" := oneLine_of_graphic (by decide +kernel)
    exact ((((text.append selects).append (oneLine_natText count)).append among).append
      (oneLine_natText total)).append closing
  | undescribed nullMark =>
    have words : OneLine "argument has no textual description, substituting " :=
      oneLine_of_graphic (by decide +kernel)
    exact words.append (oneLine_quoted nullMark)
  | replaced count template =>
    have words : OneLine "replaced " := oneLine_of_graphic (by decide +kernel)
    have among : OneLine " argument placeholder(s) in " := oneLine_of_graphic (by decide +kernel)
    exact ((words.append (oneLine_natText count)).append among).append (oneLine_quoted template)
  | overridden setting value =>
    have words : OneLine " overrides the default with " := oneLine_of_graphic (by decide +kernel)
    exact ((oneLine_variableName setting).append words).append (oneLine_quoted value)

theorem BadSetting.oneLine_message (bad : BadSetting) : OneLine bad.message := by
  have words : OneLine "invalid value " := oneLine_of_graphic (by decide +kernel)
  have name : OneLine " for " := oneLine_of_graphic (by decide +kernel)
  have expected : OneLine ", expected non-empty printable text" :=
    oneLine_of_graphic (by decide +kernel)
  exact (((words.append (oneLine_quoted bad.value)).append name).append
    (oneLine_variableName bad.setting)).append expected

end CaseLabel
