import CaseLabel.Placeholder.Basic
import CaseLabel.Style.Setting

/-!
# The log: what happened while a text was made

An event names what happened; its level and its message are functions of it, and together they are
one record of the log. In the interface `replace_captures` records what is selected, `process` that all
is replaced, `write_argument` what has no description and `checked_token` what overrides a text.
`Logged` is a value together with the events on the way to it, oldest first, and `Attempt` is a
computation that may fail: the events before a failure are kept.

The log has no influence on the outcome of an attempt, so outcomes compose like plain results:
`outcome_bind` for the whole, `outcome_bind_eq_ok` for an attempt that succeeds. The log of two
steps is that of the first and, if it succeeds, then that of the second (`events_bind_of_ok`,
`events_bind_of_error`).
-/

namespace CaseLabel

inductive Level where
  | debug | warn
  deriving DecidableEq, Repr

inductive Event where
  /-- A placeholder selected `count` of `total` arguments. -/
  | selected (placeholder : Placeholder) (count total : Nat)
  /-- The null mark stands for an object without a description. -/
  | undescribed (nullMark : String)
  /-- All placeholders of a template were replaced. -/
  | replaced (count : Nat) (template : String)
  /-- A variable replaced a standard text. -/
  | overridden (setting : Setting) (value : String)
  deriving DecidableEq, Repr

namespace Event

def level : Event → Level
  | .undescribed _ => .warn
  | _ => .debug

def message : Event → String
  | .selected placeholder count total =>
    placeholder.text ++ " selects " ++ Numeral.natText count ++ " of " ++ Numeral.natText total ++
      " argument(s)"
  | .undescribed nullMark =>
    "argument has no textual description, substituting " ++ Text.quoted nullMark
  | .replaced count template =>
    "replaced " ++ Numeral.natText count ++ " argument placeholder(s) in " ++ Text.quoted template
  | .overridden setting value =>
    setting.variableName ++ " overrides the default with " ++ Text.quoted value

end Event

structure Logged (α : Type) where
  value : α
  events : List Event

namespace Logged

instance : Monad Logged where
  map f x := ⟨f x.value, x.events⟩
  pure a := ⟨a, []⟩
  bind x f := ⟨(f x.value).value, x.events ++ (f x.value).events⟩

/-- One event and no value. -/
def record (event : Event) : Logged Unit := ⟨(), [event]⟩

/-- Writes text behind what has been written. -/
def append (out : Logged String) (text : String) : Logged String :=
  { out with value := out.value ++ text }

/-- Adds an event behind those there are. -/
def note {α : Type} (out : Logged α) (event : Event) : Logged α :=
  { out with events := out.events ++ [event] }

variable {α β : Type}

@[simp] theorem value_pure (a : α) : (pure a : Logged α).value = a := rfl

@[simp] theorem events_pure (a : α) : (pure a : Logged α).events = [] := rfl

@[simp] theorem value_map (f : α → β) (x : Logged α) : (f <$> x).value = f x.value := rfl

@[simp] theorem events_map (f : α → β) (x : Logged α) : (f <$> x).events = x.events := rfl

@[simp] theorem value_bind (x : Logged α) (f : α → Logged β) :
    (x >>= f).value = (f x.value).value := rfl

@[simp] theorem events_bind (x : Logged α) (f : α → Logged β) :
    (x >>= f).events = x.events ++ (f x.value).events := rfl

@[ext] theorem ext {x y : Logged α} (value : x.value = y.value) (events : x.events = y.events) :
    x = y := by
  cases x; cases y; simp_all

instance : LawfulMonad Logged :=
  LawfulMonad.mk' Logged
    (fun _ => rfl)
    (fun _ _ => rfl)
    (fun x f g => by simp [Logged.ext_iff])
    (fun _ _ => rfl)
    (fun _ _ => rfl)
    (fun _ _ => rfl)
    (fun f x => by simp [Logged.ext_iff])
    (fun _ _ => rfl)

end Logged

/-- A computation that writes a log and may fail. -/
abbrev Attempt (ε α : Type) : Type := ExceptT ε Logged α

namespace Attempt

/-- What only writes a log does not fail. -/
@[simp] theorem run_liftM {ε α : Type} (x : Logged α) :
    (liftM x : Attempt ε α).run = Except.ok <$> x := rfl

/-- What a computation comes to, apart from its log. -/
def outcome {ε α : Type} (x : Attempt ε α) : Except ε α := x.run.value

variable {ε α β : Type}

@[simp] theorem outcome_pure (a : α) : outcome (pure a : Attempt ε α) = .ok a := rfl

@[simp] theorem outcome_throw (e : ε) : outcome (throw e : Attempt ε α) = .error e := rfl

@[simp] theorem outcome_record (event : Event) :
    outcome (liftM (Logged.record event) : Attempt ε Unit) = .ok () := rfl

@[simp] theorem outcome_bind (x : Attempt ε α) (f : α → Attempt ε β) :
    outcome (x >>= f) = x.outcome >>= fun a => (f a).outcome := by
  unfold outcome
  rw [ExceptT.run_bind, Logged.value_bind]
  cases x.run.value <;> rfl

/-- An attempt in two steps succeeds exactly if both do. -/
theorem outcome_bind_eq_ok {x : Attempt ε α} {f : α → Attempt ε β} {b : β} :
    outcome (x >>= f) = .ok b ↔ ∃ a, x.outcome = .ok a ∧ (f a).outcome = .ok b := by
  rw [outcome_bind]
  constructor
  · intro h
    cases first : x.outcome with
    | error e =>
      rw [first] at h
      cases h
    | ok a =>
      rw [first] at h
      exact ⟨a, rfl, h⟩
  · rintro ⟨a, first, second⟩
    rw [first]
    exact second

/-- The events on the way to the outcome. -/
def events {ε α : Type} (x : Attempt ε α) : List Event := x.run.events

theorem events_bind_of_ok {x : Attempt ε α} {a : α} (h : x.outcome = .ok a)
    (f : α → Attempt ε β) : events (x >>= f) = x.events ++ (f a).events := by
  unfold outcome at h
  rw [events, ExceptT.run_bind, Logged.events_bind, h]
  rfl

/-- What would follow a failure leaves no events. -/
theorem events_bind_of_error {x : Attempt ε α} {e : ε} (h : x.outcome = .error e)
    (f : α → Attempt ε β) : events (x >>= f) = x.events := by
  unfold outcome at h
  rw [events, ExceptT.run_bind, Logged.events_bind, h]
  exact List.append_nil _

theorem events_bind_pure (x : Attempt ε α) (f : α → β) :
    events (x >>= fun a => pure (f a)) = x.events := by
  cases h : x.outcome with
  | error e => exact events_bind_of_error h _
  | ok a => exact (events_bind_of_ok h _).trans (List.append_nil _)

end Attempt

end CaseLabel
