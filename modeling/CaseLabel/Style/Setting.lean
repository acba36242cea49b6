import CaseLabel.Text.Quoted

/-!
# Styles and the settings that replace their texts

A style has the four texts that a description may need besides the arguments. A mark stands for what
has no text of its own: a missing value, empty text, a character that is not printable. The
separator stands between arguments. Any text is allowed here. A variable that is set replaces the
standard text if its value is printable; the separator may be empty, a mark may not.

A style is what the interface calls `FormatOptions`, `standard` its default, and a change is what the
`with_` functions replace. `Setting.accepts` is the test of `checked_token`, and `BadSetting` is
`InvalidToken`.
-/

namespace CaseLabel

structure Style where
  nullMark : String
  emptyMark : String
  nonPrintableMark : String
  separator : String
  deriving DecidableEq, Repr

/-- The texts used unless others are asked for. -/
def Style.standard : Style := ⟨"<null>", "<empty string>", "<np>", ", "⟩

instance : Inhabited Style := ⟨Style.standard⟩

/-- New texts for some of the four. -/
structure Style.Change where
  nullMark : Option String
  emptyMark : Option String
  nonPrintableMark : Option String
  separator : Option String
  deriving DecidableEq, Repr

/-- A text that the change does not name stays. -/
def Style.apply (style : Style) (change : Style.Change) : Style where
  nullMark := change.nullMark.getD style.nullMark
  emptyMark := change.emptyMark.getD style.emptyMark
  nonPrintableMark := change.nonPrintableMark.getD style.nonPrintableMark
  separator := change.separator.getD style.separator

/-- The four texts of a style, each with a variable of its own. -/
inductive Setting where
  | nullMark | emptyMark | nonPrintableMark | separator
  deriving DecidableEq, Repr

namespace Setting

/-- The variable that replaces the text. -/
def variableName : Setting → String
  | .nullMark => "DATAPROVIDER_NAMES_NULL_TOKEN"
  | .emptyMark => "DATAPROVIDER_NAMES_EMPTY_TOKEN"
  | .nonPrintableMark => "DATAPROVIDER_NAMES_NON_PRINTABLE_TOKEN"
  | .separator => "DATAPROVIDER_NAMES_SEPARATOR"

/-- The text that holds while the variable is not set. -/
def standard : Setting → String
  | .nullMark => Style.standard.nullMark
  | .emptyMark => Style.standard.emptyMark
  | .nonPrintableMark => Style.standard.nonPrintableMark
  | .separator => Style.standard.separator

/-- Whether a value may replace the text. -/
def accepts (setting : Setting) (value : String) : Bool :=
  (setting == .separator || value != "") && value.toList.all Text.isPrintable

end Setting

/-- The text of a setting in a style. -/
def Style.textFor (style : Style) : Setting → String
  | .nullMark => style.nullMark
  | .emptyMark => style.emptyMark
  | .nonPrintableMark => style.nonPrintableMark
  | .separator => style.separator

/-- A variable with a value that its setting does not accept. -/
structure BadSetting where
  setting : Setting
  value : String
  deriving DecidableEq, Repr

def BadSetting.message (bad : BadSetting) : String :=
  "invalid value " ++ Text.quoted bad.value ++ " for " ++ bad.setting.variableName ++
    ", expected non-empty printable text"

end CaseLabel
