import CaseLabel.Log
import CaseLabel.Proofs.Text.Printable
import CaseLabel.Style.Reading

/-!
# Settings: what is read from one variable

A variable is usable if it is not set or set to a text that its setting accepts. Main statements:

* the accepted texts are the printable ones, of which only the separator takes the empty one, and
  the standard texts are among them (`accepts_eq_true_iff`, `accepts_standard`);
* a usable variable gives its text, which is accepted, and an event if it is set (`read_of_usable`,
  `read_eq_ok`);
* any other is named with its value and leaves no event (`read_of_not_usable`).
-/

namespace CaseLabel.Setting

open Text (Printable printable_of_isGraphic)

theorem printable_standard (setting : Setting) : Printable setting.standard.toList := by
  apply printable_of_isGraphic
  cases setting <;> decide

theorem standard_ne_empty (setting : Setting) : setting.standard ≠ "" := by
  cases setting <;> decide

theorem accepts_eq_true_iff {setting : Setting} {value : String} :
    setting.accepts value = true ↔
      (setting ≠ .separator → value ≠ "") ∧ Printable value.toList := by
  simp only [accepts, Bool.and_eq_true, Bool.or_eq_true, beq_iff_eq, bne_iff_ne, List.all_eq_true,
    Printable]
  constructor
  · rintro ⟨separator | nonempty, printable⟩
    · exact ⟨fun isMark => absurd separator isMark, printable⟩
    · exact ⟨fun _ => nonempty, printable⟩
  · rintro ⟨nonempty, printable⟩
    refine ⟨?_, printable⟩
    by_cases separator : setting = .separator
    · exact .inl separator
    · exact .inr (nonempty separator)

theorem accepts_standard (setting : Setting) : setting.accepts setting.standard = true :=
  accepts_eq_true_iff.mpr ⟨fun _ => setting.standard_ne_empty, setting.printable_standard⟩

/-- The variable is not set, or it is set to printable text, which only the separator may leave
empty. -/
def Usable (lookup : String → Option String) (setting : Setting) : Prop :=
  ∀ value, lookup setting.variableName = some value →
    (setting ≠ .separator → value ≠ "") ∧ Printable value.toList

/-- The text of the variable, or the standard text if it is not set. -/
def textIn (lookup : String → Option String) (setting : Setting) : String :=
  (lookup setting.variableName).getD setting.standard

/-- The event of a variable that is set. -/
def override? (lookup : String → Option String) (setting : Setting) : Option Event :=
  (lookup setting.variableName).map (.overridden setting)

variable {lookup : String → Option String} {setting : Setting} {value : String}

theorem usable_iff_all :
    setting.Usable lookup ↔ (lookup setting.variableName).all setting.accepts = true := by
  unfold Usable
  cases lookup setting.variableName with
  | none => simp
  | some value => simp [accepts_eq_true_iff]

instance (lookup : String → Option String) : DecidablePred (Usable lookup) := fun _ =>
  decidable_of_iff _ usable_iff_all.symm

/-- A usable variable gives its text, and an event if it is set. -/
theorem read_of_usable (usable : setting.Usable lookup) :
    (setting.read lookup).outcome = .ok (setting.textIn lookup) ∧
      (setting.read lookup).events = (setting.override? lookup).toList := by
  rw [usable_iff_all] at usable
  unfold textIn override?
  cases found : lookup setting.variableName with
  | none =>
    rw [read_of_unset found]
    exact ⟨rfl, rfl⟩
  | some value =>
    rw [found, Option.all_some] at usable
    exact read_of_accepts found usable

/-- A variable that is not usable is named with its value and leaves no event. -/
theorem read_of_not_usable (refused : ¬ setting.Usable lookup) :
    ∃ value, lookup setting.variableName = some value ∧
      (setting.read lookup).outcome = .error ⟨setting, value⟩ ∧
      (setting.read lookup).events = [] := by
  rw [usable_iff_all, Bool.not_eq_true] at refused
  cases found : lookup setting.variableName with
  | none => simp [found] at refused
  | some value =>
    rw [found, Option.all_some] at refused
    exact ⟨value, rfl, read_of_not_accepts found refused⟩

theorem read_eq_ok_iff {text : String} :
    (setting.read lookup).outcome = .ok text ↔
      setting.Usable lookup ∧ text = setting.textIn lookup := by
  by_cases usable : setting.Usable lookup
  · rw [(read_of_usable usable).1, Except.ok.injEq, eq_comm]
    simp [usable]
  · obtain ⟨value, -, failed, -⟩ := read_of_not_usable usable
    simp [failed, usable]

/-- What is read is the standard text or an accepted value, printable and no empty mark. -/
theorem read_eq_ok {lookup : String → Option String} {value : String}
    (h : (setting.read lookup).outcome = .ok value) :
    (setting ≠ .separator → value ≠ "") ∧ Printable value.toList := by
  obtain ⟨usable, rfl⟩ := read_eq_ok_iff.mp h
  rw [textIn]
  cases found : lookup setting.variableName with
  | none => exact accepts_eq_true_iff.mp setting.accepts_standard
  | some value => exact usable value found

end CaseLabel.Setting
