import CaseLabel.Proofs.Text.Category

/-!
# Passes: visible text by replacing one character after the other

Visible text is made in one pass. Here the same text is made in several passes over the whole of
it: one for each escape, in any order, and at last one that puts the mark in place of each control,
format, private use, surrogate and unassigned character. Main statements:

* the passes come to one pass, since what an escape writes is left alone by the others and is
  printable (`escapeInTurn_written`, `scrub_escapeInTurn`);
* hence they make the visible text, whatever the order of the escapes (`visible_eq_inPasses`).
-/

namespace CaseLabel.Text

/-- A character and what is written for it. -/
structure Escape where
  char : Char
  written : List Char
  deriving DecidableEq, Repr

/-- The escapes of a null, a carriage return and a line feed. -/
def escapes : List Escape := [⟨'\x00', ['\\', '0']⟩, ⟨'\r', ['\\', 'r']⟩, ⟨'\n', ['\\', 'n']⟩]

/-- One pass over a text: its escape is written for the character wherever it stands. -/
def Escape.replaceIn (escape : Escape) (cs : List Char) : List Char :=
  cs.flatMap fun c => if c = escape.char then escape.written else [c]

/-- A pass for each escape, each over what the one before has made. -/
def escapeInTurn (order : List Escape) (cs : List Char) : List Char :=
  order.foldl (fun cs escape => escape.replaceIn cs) cs

/-- The categories whose characters give way to the mark. -/
def scrubbed : List Category := [.control, .format, .privateUse, .surrogate, .unassigned]

/-- The pass that puts the mark in place of each character of those categories. -/
def scrub (mark cs : List Char) : List Char :=
  cs.flatMap fun c => if scrubbed.any (·.has c) then mark else [c]

/-- Visible text in passes: first the escapes in their order, then the mark. -/
def visibleInPasses (order : List Escape) (mark text : String) : String :=
  String.ofList (scrub mark.toList (escapeInTurn order text.toList))

section Escapes

theorem escape?_eq_some_iff {c : Char} {written : List Char} :
    escape? c = some written ↔ ⟨c, written⟩ ∈ escapes := by
  unfold escape? escapes
  split
  · simp [eq_comm]
  · simp [eq_comm]
  · simp [eq_comm]
  next null carriageReturn lineFeed =>
    have apart : c ≠ '\x00' ∧ c ≠ '\r' ∧ c ≠ '\n' := ⟨null, carriageReturn, lineFeed⟩
    simp [apart]

/-- No two escapes are of one character. -/
theorem escape_eq_of_char_eq : ∀ escape ∈ escapes, ∀ other ∈ escapes,
    escape.char = other.char → escape = other := by
  decide

/-- What an escape writes survives every other escape. -/
theorem char_notMem_written : ∀ escape ∈ escapes, ∀ other ∈ escapes,
    other.char ∉ escape.written := by
  decide

variable {escape : Escape} {order : List Escape} {cs ds : List Char}

theorem Escape.replaceIn_append :
    escape.replaceIn (cs ++ ds) = escape.replaceIn cs ++ escape.replaceIn ds :=
  List.flatMap_append

theorem Escape.replaceIn_char : escape.replaceIn [escape.char] = escape.written := by
  rw [replaceIn, List.flatMap_singleton, if_pos rfl]

theorem Escape.replaceIn_of_notMem (absent : escape.char ∉ cs) : escape.replaceIn cs = cs := by
  induction cs with
  | nil => rfl
  | cons c rest ih =>
    rw [List.mem_cons, not_or] at absent
    rw [← List.singleton_append, replaceIn_append, ih absent.2, replaceIn, List.flatMap_singleton,
      if_neg (Ne.symm absent.1)]

theorem escapeInTurn_cons :
    escapeInTurn (escape :: order) cs = escapeInTurn order (escape.replaceIn cs) := rfl

theorem escapeInTurn_append :
    escapeInTurn order (cs ++ ds) = escapeInTurn order cs ++ escapeInTurn order ds := by
  induction order generalizing cs ds with
  | nil => rfl
  | cons escape rest ih =>
    rw [escapeInTurn_cons, escapeInTurn_cons, escapeInTurn_cons, Escape.replaceIn_append, ih]

theorem escapeInTurn_of_notMem (absent : ∀ escape ∈ order, escape.char ∉ cs) :
    escapeInTurn order cs = cs := by
  induction order with
  | nil => rfl
  | cons escape rest ih =>
    rw [List.forall_mem_cons] at absent
    rw [escapeInTurn_cons, Escape.replaceIn_of_notMem absent.1, ih absent.2]

theorem escapeInTurn_written (known : order ⊆ escapes) (member : escape ∈ escapes) :
    escapeInTurn order escape.written = escape.written :=
  escapeInTurn_of_notMem fun _ later => char_notMem_written _ member _ (known later)

/-- The passes in front of an escape leave its character alone, those behind it what it writes. -/
theorem escapeInTurn_char (known : order ⊆ escapes) (member : escape ∈ order) :
    escapeInTurn order [escape.char] = escape.written := by
  induction order with
  | nil => simp at member
  | cons pass rest ih =>
    obtain ⟨passKnown, restKnown⟩ := List.cons_subset.mp known
    rw [escapeInTurn_cons]
    by_cases same : pass = escape
    · rw [same, Escape.replaceIn_char]
      exact escapeInTurn_written restKnown (same ▸ passKnown)
    · have later : escape ∈ rest := (List.mem_cons.mp member).resolve_left (Ne.symm same)
      have apart : pass.char ∉ [escape.char] := by
        rw [List.mem_singleton]
        exact fun chars => same (escape_eq_of_char_eq _ passKnown _ (restKnown later) chars)
      rw [Escape.replaceIn_of_notMem apart, ih restKnown later]

end Escapes

section Scrubbing

variable {mark cs ds : List Char}

theorem scrub_append : scrub mark (cs ++ ds) = scrub mark cs ++ scrub mark ds :=
  List.flatMap_append

theorem any_scrubbed_has (c : Char) : scrubbed.any (·.has c) = !isPrintable c := by
  rw [Bool.eq_iff_iff, Bool.not_eq_true', isPrintable_eq_false_iff, List.any_eq_true]
  constructor
  · intro ⟨category, _, has⟩
    exact ⟨category, has⟩
  · intro ⟨category, has⟩
    refine ⟨category, ?_, has⟩
    cases category with
    | ordinary => cases has
    | _ => simp [scrubbed]

theorem scrub_singleton (c : Char) : scrub mark [c] = if isPrintable c then [c] else mark := by
  rw [scrub, List.flatMap_singleton, any_scrubbed_has]
  cases isPrintable c <;> rfl

theorem scrub_of_printable (printable : Printable cs) : scrub mark cs = cs := by
  induction cs with
  | nil => rfl
  | cons c rest ih =>
    rw [printable_cons] at printable
    rw [← List.singleton_append, scrub_append, scrub_singleton, if_pos printable.1,
      ih printable.2]

variable {order : List Escape}

/-- In passes each character by itself comes to what stands for it in visible text. -/
theorem scrub_escapeInTurn_singleton (all : ∀ escape, escape ∈ order ↔ escape ∈ escapes)
    (c : Char) : scrub mark (escapeInTurn order [c]) = visibleChar mark c := by
  unfold visibleChar
  split
  next written found =>
    have member : ⟨c, written⟩ ∈ order := (all _).mpr (escape?_eq_some_iff.mp found)
    have known : order ⊆ escapes := fun escape => (all escape).mp
    rw [escapeInTurn_char known member, scrub_of_printable (escape?_eq_some found).2]
  next missing =>
    have absent : ∀ escape ∈ order, escape.char ∉ [c] := by
      intro escape member same
      have found := escape?_eq_some_iff.mpr ((all escape).mp member)
      rw [List.mem_singleton.mp same, missing] at found
      cases found
    rw [escapeInTurn_of_notMem absent, scrub_singleton]

theorem scrub_escapeInTurn (all : ∀ escape, escape ∈ order ↔ escape ∈ escapes) (cs : List Char) :
    scrub mark (escapeInTurn order cs) = cs.flatMap (visibleChar mark) := by
  induction cs with
  | nil => rw [escapeInTurn_of_notMem (by simp)]; rfl
  | cons c rest ih =>
    rw [← List.singleton_append, escapeInTurn_append, scrub_append, ih,
      scrub_escapeInTurn_singleton all, List.flatMap_append, List.flatMap_singleton]

end Scrubbing

theorem visible_append (mark text more : String) :
    visible mark (text ++ more) = visible mark text ++ visible mark more := by
  simp only [visible, String.toList_append, List.flatMap_append, String.ofList_append]

/-- Visible text is the text in passes, whatever the order of the escapes and whatever the mark, and
that of two texts in a row is that of the one and then that of the other. -/
theorem visible_eq_inPasses (order : List Escape) (arranged : order.Perm escapes)
    (mark text : String) :
    visible mark text = visibleInPasses order mark text ∧
    ∀ more, visible mark (text ++ more) = visible mark text ++ visible mark more := by
  refine ⟨?_, visible_append mark text⟩
  rw [visible, visibleInPasses, scrub_escapeInTurn fun _ => arranged.mem_iff]

/-- A line feed behind a backslash, with a mark that is a line feed itself: the escapes are in order
and the mark stays. -/
theorem visible_inPasses_lineFeed_first :
    [⟨'\n', ['\\', 'n']⟩, ⟨'\x00', ['\\', '0']⟩, ⟨'\r', ['\\', 'r']⟩].Perm escapes ∧
    visibleInPasses [⟨'\n', ['\\', 'n']⟩, ⟨'\x00', ['\\', '0']⟩, ⟨'\r', ['\\', 'r']⟩]
      "\n" "\\\n\x00\t" = "\\\\n\\0\n" ∧
    visible "\n" ("\\\n\x00\t" ++ "\r") = "\\\\n\\0\n" ++ visible "\n" "\r" := by
  have arranged :
      [⟨'\n', ['\\', 'n']⟩, ⟨'\x00', ['\\', '0']⟩, ⟨'\r', ['\\', 'r']⟩].Perm escapes := by
    decide
  have onePass : visible "\n" "\\\n\x00\t" = "\\\\n\\0\n" := by decide +kernel
  obtain ⟨passes, append⟩ := visible_eq_inPasses _ arranged "\n" "\\\n\x00\t"
  exact ⟨arranged, passes.symm.trans onePass, onePass ▸ append "\r"⟩

end CaseLabel.Text
