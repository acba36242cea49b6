import CaseLabel.Log

/-!
# Reading a style from variables

The settings are read in a fixed order: the null mark, the mark of empty text, the mark of
characters that are not printable, the separator. The first value that is not accepted ends the
reading; each accepted one leaves an event. `Style.read` is `from_lookup` of the interface, which
`from_env` calls with the variables of the process; `Setting.read` is the part of it that is done for
one variable, `checked_token` included. A style is read exactly if each of its settings is
(`Style.read_eq_ok_iff`).
-/

namespace CaseLabel

/-- The value of the variable if it is set, else the standard text. -/
def Setting.read (setting : Setting) (lookup : String → Option String) :
    Attempt BadSetting String :=
  match lookup setting.variableName with
  | none => pure setting.standard
  | some value =>
    if setting.accepts value then do
      Logged.record (.overridden setting value)
      pure value
    else throw ⟨setting, value⟩

namespace Setting

variable {setting : Setting} {lookup : String → Option String} {value : String}

theorem read_of_unset (unset : lookup setting.variableName = none) :
    setting.read lookup = pure setting.standard := by
  rw [read, unset]

theorem read_of_accepts (found : lookup setting.variableName = some value)
    (accepted : setting.accepts value = true) :
    (setting.read lookup).outcome = .ok value ∧
      (setting.read lookup).events = [.overridden setting value] := by
  rw [read, found]
  dsimp only
  rw [if_pos accepted]
  exact ⟨rfl, rfl⟩

/-- What is not accepted leaves no event. -/
theorem read_of_not_accepts (found : lookup setting.variableName = some value)
    (refused : setting.accepts value = false) :
    (setting.read lookup).outcome = .error ⟨setting, value⟩ ∧
      (setting.read lookup).events = [] := by
  rw [read, found]
  dsimp only
  rw [refused, if_neg Bool.false_ne_true]
  exact ⟨rfl, rfl⟩

/-- Nothing but the value of the variable matters. -/
theorem read_congr {other : String → Option String}
    (same : other setting.variableName = lookup setting.variableName) :
    setting.read other = setting.read lookup := by
  rw [read, read, same]

end Setting

def Style.read (lookup : String → Option String) : Attempt BadSetting Style := do
  let nullMark ← Setting.nullMark.read lookup
  let emptyMark ← Setting.emptyMark.read lookup
  let nonPrintableMark ← Setting.nonPrintableMark.read lookup
  let separator ← Setting.separator.read lookup
  pure ⟨nullMark, emptyMark, nonPrintableMark, separator⟩

/-- A style is read exactly if each of its texts is. -/
theorem Style.read_eq_ok_iff {lookup : String → Option String} {style : Style} :
    (read lookup).outcome = .ok style ↔
      ∀ setting : Setting, (setting.read lookup).outcome = .ok (style.textFor setting) := by
  constructor
  · intro h
    obtain ⟨nullMark, readNull, h⟩ := Attempt.outcome_bind_eq_ok.mp h
    obtain ⟨emptyMark, readEmpty, h⟩ := Attempt.outcome_bind_eq_ok.mp h
    obtain ⟨nonPrintableMark, readNonPrintable, h⟩ := Attempt.outcome_bind_eq_ok.mp h
    obtain ⟨separator, readSeparator, h⟩ := Attempt.outcome_bind_eq_ok.mp h
    cases h
    intro setting
    cases setting with
    | nullMark => exact readNull
    | emptyMark => exact readEmpty
    | nonPrintableMark => exact readNonPrintable
    | separator => exact readSeparator
  · intro h
    apply Attempt.outcome_bind_eq_ok.mpr
    refine ⟨_, h .nullMark, Attempt.outcome_bind_eq_ok.mpr ?_⟩
    refine ⟨_, h .emptyMark, Attempt.outcome_bind_eq_ok.mpr ?_⟩
    refine ⟨_, h .nonPrintableMark, Attempt.outcome_bind_eq_ok.mpr ?_⟩
    exact ⟨_, h .separator, rfl⟩

end CaseLabel
