import CaseLabel.Style.Reading
import CaseLabel.Template

/-!
# Sessions: a list of arguments and a style that change step by step

Each step changes the arguments or the style, or makes a text from them, and has a result. A step
that fails changes nothing, and the session goes on. The steps are calls of the interface, with
`fill`, `replace`, `keep` and `load` for `process`, `replacement_for`, `select` and `from_lookup`; a
session keeps between them what its caller would.
-/

namespace CaseLabel

structure Session where
  arguments : List Argument
  style : Style

namespace Session

/-- No arguments and the standard style. -/
def start : Session := ⟨[], .standard⟩

inductive Step where
  /-- Adds an argument at the end. -/
  | push (argument : Argument)
  /-- Removes the last argument. -/
  | pop
  /-- Makes one list of all arguments. -/
  | wrap
  /-- Adds the text of a filled template as an argument. -/
  | pushFilled (template : String)
  | change (change : Style.Change)
  /-- Replaces the style by one that is read from variables. -/
  | load (lookup : String → Option String)
  | fill (template : String)
  | replace (placeholder : String)
  /-- Keeps only the arguments that a subscript selects. -/
  | keep (subscript : String)

inductive Result where
  /-- The arguments after a step: their number and their descriptions. -/
  | arguments (count : Nat) (text : String)
  | popped (argument : Option Argument) (count : Nat)
  | pushed (text : String) (count : Nat)
  | style (style : Style)
  | text (text : String)
  | failure (failure : Failure)
  | badSetting (bad : BadSetting)

/-- The session with other arguments, described anew. -/
def withArguments (session : Session) (arguments : List Argument) : Logged (Session × Result) := do
  let text ← session.style.describeAll arguments
  pure ({ session with arguments }, .arguments arguments.length text)

def step (session : Session) : Step → Logged (Session × Result)
  | .push argument => session.withArguments (session.arguments ++ [argument])
  | .pop =>
    let arguments := session.arguments.dropLast
    pure ({ session with arguments }, .popped session.arguments.getLast? arguments.length)
  | .wrap => session.withArguments [.list session.arguments]
  | .pushFilled template => do
    match ← (session.style.fill template session.arguments).run with
    | .ok text =>
      let arguments := session.arguments ++ [.text text]
      pure ({ session with arguments }, .pushed text arguments.length)
    | .error failure => pure (session, .failure failure)
  | .change change =>
    let style := session.style.apply change
    pure ({ session with style }, .style style)
  | .load lookup => do
    match ← (Style.read lookup).run with
    | .ok style => pure ({ session with style }, .style style)
    | .error bad => pure (session, .badSetting bad)
  | .fill template => do
    match ← (session.style.fill template session.arguments).run with
    | .ok text => pure (session, .text text)
    | .error failure => pure (session, .failure failure)
  | .replace placeholder => do
    match ← (session.style.replace placeholder session.arguments).run with
    | .ok text => pure (session, .text text)
    | .error failure => pure (session, .failure failure)
  | .keep text =>
    match Subscript.parse text >>= (·.select session.arguments) with
    | .ok selected => session.withArguments selected
    | .error failure => pure (session, .failure failure)

/-- The results of the steps, in order. -/
def run (session : Session) : List Step → Logged (List Result)
  | [] => pure []
  | step :: rest => do
    let (next, result) ← session.step step
    let results ← run next rest
    pure (result :: results)

end Session

end CaseLabel
