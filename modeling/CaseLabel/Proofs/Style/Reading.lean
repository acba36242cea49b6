import CaseLabel.Proofs.Style.Printable

/-!
# Reading a style: the first variable that is not usable decides

The settings are read one after the other, each into the style that is there (`readInto`). Reading
goes on as long as the variables are usable, with one event for each that is set, and ends at the
first one that is not. Main statements:

* usable settings are read, with an event for each variable that is set
  (`exists_outcome_readInto`, `events_readInto`);
* the first setting that is not usable is named with the value of its variable, and the events of
  those in front of it are kept (`read_of_isFirst`, `read_eq_error_iff`);
* hence the outcome and the log of reading a style, by its four variables and nothing else
  (`read_by_variables`).
-/

namespace CaseLabel

open Text (Printable)

namespace Setting

/-- The settings in the order in which they are read. -/
def inOrder : List Setting := [.nullMark, .emptyMark, .nonPrintableMark, .separator]

theorem mem_inOrder (setting : Setting) : setting ∈ inOrder := by
  cases setting <;> decide

variable {lookup : String → Option String}

theorem level_override {settings : List Setting} {event : Event}
    (member : event ∈ settings.filterMap (override? lookup)) : event.level = .debug := by
  obtain ⟨setting, -, noted⟩ := List.mem_filterMap.mp member
  obtain ⟨value, -, rfl⟩ := Option.map_eq_some_iff.mp noted
  rfl

end Setting

/-- Behind the settings `front`, which are usable, the bad one is the next in the order of reading,
and its variable is set to the bad value. -/
structure BadSetting.IsFirst (lookup : String → Option String) (front : List Setting)
    (bad : BadSetting) : Prop where
  order : ∃ back, Setting.inOrder = front ++ bad.setting :: back
  usable : ∀ setting ∈ front, setting.Usable lookup
  isSet : lookup bad.setting.variableName = some bad.value
  refused : ¬ bad.setting.Usable lookup

/-- All variables are usable, or one of them is the first that is not. -/
theorem Setting.usable_or_exists_isFirst (lookup : String → Option String) :
    (∀ setting : Setting, setting.Usable lookup) ∨
      ∃ front bad, BadSetting.IsFirst lookup front bad := by
  cases found : inOrder.find? fun setting => ¬ setting.Usable lookup with
  | none =>
    refine .inl fun setting => ?_
    simpa using List.find?_eq_none.mp found setting setting.mem_inOrder
  | some setting =>
    obtain ⟨refused, front, back, order, usable⟩ := List.find?_eq_some_iff_append.mp found
    have refused : ¬ setting.Usable lookup := by simpa using refused
    obtain ⟨value, isSet, -, -⟩ := read_of_not_usable refused
    exact .inr ⟨front, ⟨setting, value⟩, ⟨back, order⟩, by simpa using usable, isSet, refused⟩

namespace Style

/-- The style with another text for one setting. -/
def withText (style : Style) (text : String) : Setting → Style
  | .nullMark => { style with nullMark := text }
  | .emptyMark => { style with emptyMark := text }
  | .nonPrintableMark => { style with nonPrintableMark := text }
  | .separator => { style with separator := text }

/-- Settings read one after the other, each into the style that is there. -/
def readInto (lookup : String → Option String) : Style → List Setting → Attempt BadSetting Style
  | style, [] => pure style
  | style, setting :: rest => do
    let text ← setting.read lookup
    readInto lookup (style.withText text setting) rest

theorem read_eq_readInto (lookup : String → Option String) :
    read lookup = readInto lookup standard Setting.inOrder := rfl

section Reading

variable {lookup : String → Option String} {style : Style} {settings front back : List Setting}
  {bad : BadSetting}

theorem exists_outcome_readInto (style : Style)
    (usable : ∀ setting ∈ settings, setting.Usable lookup) :
    ∃ next, (readInto lookup style settings).outcome = .ok next := by
  induction settings generalizing style with
  | nil => exact ⟨style, rfl⟩
  | cons setting rest ih =>
    rw [List.forall_mem_cons] at usable
    rw [readInto, Attempt.outcome_bind, (Setting.read_of_usable usable.1).1]
    exact ih _ usable.2

theorem events_readInto (usable : ∀ setting ∈ settings, setting.Usable lookup) :
    (readInto lookup style settings).events = settings.filterMap (Setting.override? lookup) := by
  induction settings generalizing style with
  | nil => rfl
  | cons setting rest ih =>
    rw [List.forall_mem_cons] at usable
    obtain ⟨outcome, events⟩ := Setting.read_of_usable usable.1
    rw [readInto, Attempt.events_bind_of_ok outcome, events, ih usable.2, List.filterMap_cons]
    cases Setting.override? lookup setting <;> rfl

theorem readInto_append : readInto lookup style (front ++ back) =
    (do let next ← readInto lookup style front; readInto lookup next back) := by
  induction front generalizing style with
  | nil => rw [List.nil_append, readInto, pure_bind]
  | cons setting rest ih =>
    rw [List.cons_append, readInto, readInto, bind_assoc]
    congr 1
    funext text
    exact ih

/-- What is read behind the first variable that is not usable has no say. -/
theorem read_of_isFirst (first : bad.IsFirst lookup front) :
    (read lookup).outcome = .error bad ∧
      (read lookup).events = front.filterMap (Setting.override? lookup) := by
  obtain ⟨back, order⟩ := first.order
  obtain ⟨next, reached⟩ := exists_outcome_readInto standard first.usable
  obtain ⟨value, isSet, failed, silent⟩ := Setting.read_of_not_usable first.refused
  have same : value = bad.value := Option.some.inj (isSet.symm.trans first.isSet)
  have outcome : (readInto lookup next (bad.setting :: back)).outcome = .error bad := by
    rw [readInto, Attempt.outcome_bind, failed, same]
    rfl
  have events : (readInto lookup next (bad.setting :: back)).events = [] := by
    rw [readInto, Attempt.events_bind_of_error failed, silent]
  rw [read_eq_readInto, order, readInto_append]
  constructor
  · rw [Attempt.outcome_bind, reached]
    exact outcome
  · rw [Attempt.events_bind_of_ok reached, events, events_readInto first.usable, List.append_nil]

theorem read_eq_ok_iff_usable :
    (read lookup).outcome = .ok style ↔
      ∀ setting : Setting,
        setting.Usable lookup ∧ style.textFor setting = setting.textIn lookup := by
  rw [read_eq_ok_iff]
  exact forall_congr' fun _ => Setting.read_eq_ok_iff

theorem exists_read_eq_ok_iff :
    (∃ style, (read lookup).outcome = .ok style) ↔ ∀ setting : Setting, setting.Usable lookup := by
  constructor
  · intro found setting
    obtain ⟨style, found⟩ := found
    exact (read_eq_ok_iff_usable.mp found setting).1
  · intro usable
    rw [read_eq_readInto]
    exact exists_outcome_readInto standard fun setting _ => usable setting

theorem read_eq_error_iff :
    (read lookup).outcome = .error bad ↔ ∃ front, bad.IsFirst lookup front := by
  constructor
  · intro failed
    obtain usable | ⟨front, other, first⟩ := Setting.usable_or_exists_isFirst lookup
    · obtain ⟨style, found⟩ := exists_read_eq_ok_iff.mpr usable
      rw [failed] at found
      cases found
    · rw [(read_of_isFirst first).1, Except.error.injEq] at failed
      exact ⟨front, failed ▸ first⟩
  · intro first
    obtain ⟨front, first⟩ := first
    exact (read_of_isFirst first).1

theorem events_read_of_usable (usable : ∀ setting : Setting, setting.Usable lookup) :
    (read lookup).events = Setting.inOrder.filterMap (Setting.override? lookup) := by
  rw [read_eq_readInto]
  exact events_readInto fun setting _ => usable setting

theorem level_of_mem_events_read {event : Event} (member : event ∈ (read lookup).events) :
    event.level = .debug := by
  obtain usable | ⟨front, bad, first⟩ := Setting.usable_or_exists_isFirst lookup
  · rw [events_read_of_usable usable] at member
    exact Setting.level_override member
  · rw [(read_of_isFirst first).2] at member
    exact Setting.level_override member

theorem read_congr {other : String → Option String}
    (same : ∀ setting : Setting, other setting.variableName = lookup setting.variableName) :
    read other = read lookup := by
  simp only [read, Setting.read_congr (same _)]

end Reading

/-- The lookup in which each variable is set to the text of the style. -/
def asLookup (style : Style) (name : String) : Option String :=
  (Setting.inOrder.find? fun setting => setting.variableName == name).map style.textFor

theorem asLookup_variableName (style : Style) (setting : Setting) :
    style.asLookup setting.variableName = some (style.textFor setting) := by
  cases setting <;> rfl

/-- A style is read back from its own texts exactly if they may be set. -/
theorem read_own_iff {lookup : String → Option String} {style : Style}
    (own : ∀ setting : Setting, lookup setting.variableName = some (style.textFor setting)) :
    (read lookup).outcome = .ok style ↔
      (∀ setting, setting ≠ .separator → style.textFor setting ≠ "") ∧ style.IsPrintable := by
  have texts (setting : Setting) : style.textFor setting = setting.textIn lookup := by
    rw [Setting.textIn, own, Option.getD_some]
  rw [read_eq_ok_iff_usable]
  constructor
  · intro read
    have each (setting : Setting) := (read setting).1 _ (own setting)
    exact ⟨fun setting => (each setting).1, isPrintable_iff.mpr fun setting => (each setting).2⟩
  · intro allowed setting
    obtain ⟨nonempty, printable⟩ := allowed
    refine ⟨?_, texts setting⟩
    intro value isSet
    rw [own, Option.some.injEq] at isSet
    subst isSet
    exact ⟨nonempty setting, isPrintable_iff.mp printable setting⟩

/-- A style is read exactly if each variable is not set or set to printable text, which only the
separator may leave empty; it has the texts that are set and else the standard ones. If it is not
read, the first variable that is not usable is named with its value. Each variable in front of it,
or each one if there is none, has left one debug event if it is set. Nothing but the four variables
has an influence. A style is read back from its own texts exactly if they may be set. -/
theorem read_by_variables (lookup : String → Option String) :
    ((∃ style, (read lookup).run.value = .ok style) ↔
      ∀ (setting : Setting) (value : String), lookup setting.variableName = some value →
        (setting ≠ .separator → value ≠ "") ∧ Printable value.toList) ∧
    (∀ style, (read lookup).run.value = .ok style →
      (∀ setting : Setting,
        style.textFor setting = (lookup setting.variableName).getD setting.standard) ∧
      (read lookup).run.events = Setting.inOrder.filterMap (Setting.override? lookup)) ∧
    (∀ bad : BadSetting, (read lookup).run.value = .error bad ↔
      ∃ front, bad.IsFirst lookup front) ∧
    (∀ (bad : BadSetting) (front : List Setting), bad.IsFirst lookup front →
      (read lookup).run.events = front.filterMap (Setting.override? lookup)) ∧
    (∀ event ∈ (read lookup).run.events, event.level = .debug) ∧
    (∀ other : String → Option String,
      (∀ setting : Setting, other setting.variableName = lookup setting.variableName) →
        read other = read lookup) ∧
    ∀ style : Style,
      (∃ own : String → Option String,
        ∀ setting : Setting, own setting.variableName = some (style.textFor setting)) ∧
      ∀ own : String → Option String,
        (∀ setting : Setting, own setting.variableName = some (style.textFor setting)) →
          ((read own).run.value = .ok style ↔
            (∀ setting, setting ≠ .separator → style.textFor setting ≠ "") ∧
              style.IsPrintable) := by
  refine ⟨exists_read_eq_ok_iff, ?_, fun _ => read_eq_error_iff,
    fun _ _ first => (read_of_isFirst first).2, fun _ => level_of_mem_events_read,
    fun _ => read_congr, ?_⟩
  · intro style found
    have each := read_eq_ok_iff_usable.mp found
    exact ⟨fun setting => (each setting).2,
      events_read_of_usable fun setting => (each setting).1⟩
  · intro style
    exact ⟨⟨style.asLookup, style.asLookup_variableName⟩, fun _ => read_own_iff⟩

/-- The separator is not looked at behind a bad mark, and the null mark in front of it is logged. -/
example :
    (read fun name => if name = "DATAPROVIDER_NAMES_EMPTY_TOKEN" then some "" else some "-").run =
      ⟨.error ⟨.emptyMark, ""⟩, [.overridden .nullMark "-"]⟩ := by
  rfl

end Style

end CaseLabel
