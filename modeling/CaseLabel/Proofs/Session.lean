import CaseLabel.Proofs.Style.Printable
import CaseLabel.Proofs.Subscript.Resolution
import CaseLabel.Session

/-!
# Sessions: what a step leaves and what a run shows

`Leaves` lists what a step may leave; what is said of steps here is read off it by cases
(`leaves_step`), and what is said of runs follows by induction on the steps. Main statements:

* a run has a result for each step, and it can be cut in two anywhere (`length_run`, `run_append`);
* a step that fails changes nothing, so the others run as if it had not been tried
  (`next_of_isFailure`, `value_run_of_isFailure`), and few steps reach the style (`style_next`);
* a session with a printable style and no raw characters stays one, however long it runs
  (`isPrintable_after`), and shows its arguments by printable text (`printable_of_mem_run`).
-/

namespace CaseLabel

namespace Style

open Text (Printable)

/-- Each text that the change gives is printable. -/
structure Change.IsPrintable (change : Change) : Prop where
  nullMark : ∀ text ∈ change.nullMark, Printable text.toList
  emptyMark : ∀ text ∈ change.emptyMark, Printable text.toList
  nonPrintableMark : ∀ text ∈ change.nonPrintableMark, Printable text.toList
  separator : ∀ text ∈ change.separator, Printable text.toList

theorem IsPrintable.apply {style : Style} {change : Change} (h : style.IsPrintable)
    (given : change.IsPrintable) : (style.apply change).IsPrintable := by
  have either {text? : Option String} {text : String} (given : ∀ text ∈ text?, Printable text.toList)
      (old : Printable text.toList) : Printable (text?.getD text).toList := by
    cases text? with
    | none => exact old
    | some new => exact given new rfl
  exact ⟨either given.nullMark h.nullMark, either given.emptyMark h.emptyMark,
    either given.nonPrintableMark h.nonPrintableMark, either given.separator h.separator⟩

end Style

namespace Session

/-- The session behind a step. -/
def next (session : Session) (step : Step) : Session := (session.step step).value.1

/-- What a step comes to. -/
def result (session : Session) (step : Step) : Result := (session.step step).value.2

/-- The session behind all steps. -/
def after (session : Session) (steps : List Step) : Session := steps.foldl next session

/-- What a step may leave: a session and a result. -/
inductive Leaves (session : Session) : Step → Session → Result → Prop
  | described {step : Step} {arguments : List Argument}
      (known : ∀ argument ∈ arguments, argument ∈ session.arguments ∨ step = .push argument ∨
        step = .wrap ∧ argument = .list session.arguments) :
      Leaves session step { session with arguments }
        (.arguments arguments.length (session.style.describeAll arguments).value)
  | popped :
      Leaves session .pop { session with arguments := session.arguments.dropLast }
        (.popped session.arguments.getLast? session.arguments.dropLast.length)
  | pushed {template text : String}
      (filled : (session.style.fill template session.arguments).outcome = .ok text) :
      Leaves session (.pushFilled template)
        { session with arguments := session.arguments ++ [Argument.text text] }
        (.pushed text (session.arguments ++ [Argument.text text]).length)
  | changed {change : Style.Change} :
      Leaves session (.change change) { session with style := session.style.apply change }
        (.style (session.style.apply change))
  | loaded {lookup : String → Option String} {style : Style}
      (read : (Style.read lookup).outcome = .ok style) :
      Leaves session (.load lookup) { session with style } (.style style)
  | asked {step : Step} {text : String} : Leaves session step session (.text text)
  | failed {step : Step} {failure : Failure} : Leaves session step session (.failure failure)
  | refused {lookup : String → Option String} {bad : BadSetting} :
      Leaves session (.load lookup) session (.badSetting bad)

variable {session : Session} {step : Step}

/-- The invariants below are read off this: whatever a step is, it leaves one of these. -/
theorem leaves_step (session : Session) (step : Step) :
    session.Leaves step (session.next step) (session.result step) := by
  unfold next result
  cases step with
  | push argument =>
    refine .described fun other member => ?_
    rcases List.mem_append.mp member with old | new
    · exact .inl old
    · exact .inr (.inl (congrArg Step.push (List.mem_singleton.mp new).symm))
  | pop => exact .popped
  | wrap => exact .described fun other member => .inr (.inr ⟨rfl, List.mem_singleton.mp member⟩)
  | pushFilled template =>
    cases filled : (session.style.fill template session.arguments).run.value with
    | ok text =>
      simp only [Session.step, Logged.value_bind, filled]
      exact .pushed filled
    | error failure =>
      simp only [Session.step, Logged.value_bind, filled]
      exact .failed
  | change change => exact .changed
  | load lookup =>
    cases read : (Style.read lookup).run.value with
    | ok style =>
      simp only [Session.step, Logged.value_bind, read]
      exact .loaded read
    | error bad =>
      simp only [Session.step, Logged.value_bind, read]
      exact .refused
  | fill template =>
    cases filled : (session.style.fill template session.arguments).run.value with
    | ok text =>
      simp only [Session.step, Logged.value_bind, filled]
      exact .asked
    | error failure =>
      simp only [Session.step, Logged.value_bind, filled]
      exact .failed
  | replace placeholder =>
    cases replaced : (session.style.replace placeholder session.arguments).run.value with
    | ok text =>
      simp only [Session.step, Logged.value_bind, replaced]
      exact .asked
    | error failure =>
      simp only [Session.step, Logged.value_bind, replaced]
      exact .failed
  | keep text =>
    cases kept : Subscript.parse text >>= (·.select session.arguments) with
    | ok selected =>
      simp only [Session.step, kept]
      cases read : Subscript.parse text with
      | error failure =>
        rw [read] at kept
        cases kept
      | ok subscript =>
        rw [read] at kept
        have subset : selected ⊆ session.arguments := Subscript.subset_of_selectAs kept
        exact .described fun argument member => .inl (subset member)
    | error failure =>
      simp only [Session.step, kept]
      exact .failed

/-! ## Runs -/

theorem run_cons (session : Session) (step : Step) (rest : List Step) :
    session.run (step :: rest) =
      ⟨session.result step :: ((session.next step).run rest).value,
        (session.step step).events ++ ((session.next step).run rest).events⟩ := by
  simp [run, Logged.ext_iff, next, result]

/-- The steps of a run go on where those in front of them have ended. -/
theorem run_append (session : Session) (steps more : List Step) :
    session.run (steps ++ more) =
      ⟨(session.run steps).value ++ ((session.after steps).run more).value,
        (session.run steps).events ++ ((session.after steps).run more).events⟩ := by
  induction steps generalizing session with
  | nil => rfl
  | cons step rest ih =>
    rw [List.cons_append, run_cons, run_cons, ih]
    simp [after]

theorem length_run (session : Session) (steps : List Step) :
    (session.run steps).value.length = steps.length := by
  induction steps generalizing session with
  | nil => rfl
  | cons step rest ih => rw [run_cons, List.length_cons, List.length_cons, ih]

/-! ## Steps that fail -/

/-- The result of a step that fails. -/
def Result.isFailure : Result → Bool
  | .failure _ => true
  | .badSetting _ => true
  | _ => false

/-- A step that fails changes nothing. -/
theorem next_of_isFailure (failed : (session.result step).isFailure = true) :
    session.next step = session := by
  have unchanged {next : Session} {result : Result} (leaves : session.Leaves step next result)
      (failed : result.isFailure = true) : next = session := by
    cases leaves with
    | failed => rfl
    | refused => rfl
    | _ => cases failed
  exact unchanged (session.leaves_step step) failed

/-- The steps behind one that fails run as if it had not been tried. -/
theorem value_run_of_isFailure (failed : (session.result step).isFailure = true)
    (rest : List Step) :
    (session.run (step :: rest)).value = session.result step :: (session.run rest).value := by
  rw [run_cons, next_of_isFailure failed]

/-- Only a change and a load reach the style. -/
theorem style_next (noChange : ∀ change, step ≠ .change change)
    (noLoad : ∀ lookup, step ≠ .load lookup) : (session.next step).style = session.style := by
  have unchanged {next : Session} {result : Result} (leaves : session.Leaves step next result) :
      next.style = session.style := by
    cases leaves with
    | changed => exact absurd rfl (noChange _)
    | loaded => exact absurd rfl (noLoad _)
    | _ => rfl
  exact unchanged (session.leaves_step step)

/-! ## Printable sessions -/

/-- The style has printable texts and no argument holds a character that is written as it is. -/
structure IsPrintable (session : Session) : Prop where
  style : session.style.IsPrintable
  arguments : ∀ argument ∈ session.arguments, ¬ argument.HoldsRawChar

/-- What the step brings in is printable. -/
def Step.IsPrintable : Step → Prop
  | .push argument => ¬ argument.HoldsRawChar
  | .change given => given.IsPrintable
  | _ => True

theorem isPrintable_start : start.IsPrintable :=
  ⟨Style.isPrintable_standard, fun _ member => absurd member (List.not_mem_nil)⟩

theorem Leaves.isPrintable {next : Session} {result : Result}
    (leaves : session.Leaves step next result) (h : session.IsPrintable)
    (brings : step.IsPrintable) : next.IsPrintable := by
  cases leaves with
  | described known =>
    refine ⟨h.style, fun argument member => ?_⟩
    rcases known argument member with old | pushed | ⟨-, whole⟩
    · exact h.arguments argument old
    · rw [pushed] at brings
      exact brings
    · rw [whole, Argument.holdsRawChar_list]
      intro holds
      obtain ⟨item, member, raw⟩ := holds
      exact h.arguments item member raw
  | popped =>
    exact ⟨h.style, fun argument member => h.arguments argument (List.dropLast_subset _ member)⟩
  | pushed =>
    refine ⟨h.style, fun argument member => ?_⟩
    rcases List.mem_append.mp member with old | new
    · exact h.arguments argument old
    · rw [List.mem_singleton.mp new]
      exact Argument.not_holdsRawChar (by simp) (by simp)
  | changed => exact ⟨h.style.apply brings, h.arguments⟩
  | loaded read => exact ⟨(Style.isPrintable_of_read read).1, h.arguments⟩
  | asked => exact h
  | failed => exact h
  | refused => exact h

/-- A printable session shows its arguments by printable text. -/
theorem Leaves.printable {next : Session} {count : Nat} {text : String}
    (leaves : session.Leaves step next (.arguments count text)) (h : session.IsPrintable)
    (brings : step.IsPrintable) : Text.Printable text.toList := by
  have printable := leaves.isPrintable h brings
  cases leaves with
  | described =>
    rw [Style.describeAll_eq, Style.printable_joined_iff h.style]
    intro holds
    obtain ⟨argument, member, raw⟩ := holds
    exact printable.arguments argument member raw

theorem isPrintable_after {steps : List Step} (h : session.IsPrintable)
    (brings : ∀ step ∈ steps, step.IsPrintable) : (session.after steps).IsPrintable := by
  induction steps generalizing session with
  | nil => exact h
  | cons step rest ih =>
    obtain ⟨first, rest⟩ := List.forall_mem_cons.mp brings
    exact ih ((session.leaves_step step).isPrintable h first) rest

/-- Arguments are shown by printable text throughout a run whose steps bring in nothing else. -/
theorem printable_of_mem_run {steps : List Step} (h : session.IsPrintable)
    (brings : ∀ step ∈ steps, step.IsPrintable) {count : Nat} {text : String}
    (shown : .arguments count text ∈ (session.run steps).value) : Text.Printable text.toList := by
  induction steps generalizing session with
  | nil => cases shown
  | cons step rest ih =>
    obtain ⟨first, others⟩ := List.forall_mem_cons.mp brings
    have leaves := session.leaves_step step
    rw [run_cons] at shown
    rcases List.mem_cons.mp shown with here | later
    · rw [← here] at leaves
      exact leaves.printable h first
    · exact ih (leaves.isPrintable h first) others later

end Session

end CaseLabel
