import CaseLabel.Proofs.Template.Concatenation
import CaseLabel.Proofs.Template.Recognition

/-!
# Filling in a loop over the placeholders that a search finds

`Style.fill` goes through a template character by character. `Style.fillInLoop` takes the steps of
`process`: a search finds the placeholders one after the other; the loop keeps the text written so
far, the byte offset up to which the template has been copied and the number of placeholders
replaced, and copies what lies between two placeholders as a slice between byte offsets. A slice
that does not exist would be left out. Main statements:

* there is a slice exactly where both offsets fall between characters (`cutAt?_eq_some_iff`), which
  is so at the ends of every placeholder that is found;
* what the search finds are the placeholders that are read from the left
  (`mentions_eq_map_captures`);
* one run of the loop from any place on writes the filled rest of the template behind what has been
  written (`foldlM_fillStep`), so the loop is the filling, result and log alike
  (`fillInLoop_eq_fill`).
-/

namespace CaseLabel

namespace Text

/-- The number of bytes of characters. -/
def byteSize (cs : List Char) : Nat := (String.ofList cs).utf8ByteSize

/-- The characters before and behind a byte offset; there are none if the offset lies inside of a
character or behind the last one. -/
def cutAt? : Nat → List Char → Option (List Char × List Char)
  | 0, cs => some ([], cs)
  | _ + 1, [] => none
  | n + 1, c :: cs =>
    if c.utf8Size ≤ n + 1 then
      (cutAt? (n + 1 - c.utf8Size) cs).map fun (before, after) => (c :: before, after)
    else none

/-- The characters between two byte offsets. -/
def slice? (start stop : Nat) (cs : List Char) : Option (List Char) := do
  let (_, rest) ← cutAt? start cs
  if start ≤ stop then (cutAt? (stop - start) rest).map Prod.fst else none

theorem byteSize_nil : byteSize [] = 0 := rfl

theorem byteSize_append (xs ys : List Char) : byteSize (xs ++ ys) = byteSize xs + byteSize ys := by
  rw [byteSize, String.ofList_append, String.utf8ByteSize_append]
  rfl

theorem byteSize_cons (c : Char) (cs : List Char) :
    byteSize (c :: cs) = c.utf8Size + byteSize cs := by
  rw [byteSize, String.ofList_cons, String.utf8ByteSize_append, String.utf8ByteSize_singleton]
  rfl

/-- An offset cuts a text exactly if it is the size of some front of it. -/
theorem cutAt?_eq_some_iff {n : Nat} {cs before after : List Char} :
    cutAt? n cs = some (before, after) ↔ cs = before ++ after ∧ n = byteSize before := by
  fun_induction cutAt? n cs generalizing before with
  | case1 cs =>
    cases before with
    | nil => simp [byteSize_nil, eq_comm]
    | cons c before =>
      have := c.utf8Size_pos
      rw [byteSize_cons]
      simp
      omega
  | case2 n =>
    cases before with
    | nil => simp [byteSize_nil]
    | cons c before => simp
  | case3 n c cs fits ih =>
    cases before with
    | nil => simp [byteSize_nil]
    | cons d before =>
      rw [Option.map_eq_some_iff]
      constructor
      · intro h
        obtain ⟨⟨front, rest⟩, found, same⟩ := h
        cases same
        obtain ⟨whole, size⟩ := ih.mp found
        rw [byteSize_cons]
        exact ⟨congrArg _ whole, by omega⟩
      · intro h
        obtain ⟨whole, size⟩ := h
        cases whole
        rw [byteSize_cons] at size
        exact ⟨(before, after), ih.mpr ⟨rfl, by omega⟩, rfl⟩
  | case4 n c cs wide =>
    cases before with
    | nil => simp [byteSize_nil]
    | cons d before =>
      refine iff_of_false (fun h => by cases h) ?_
      intro h
      obtain ⟨whole, size⟩ := h
      cases whole
      rw [byteSize_cons] at size
      omega

theorem cutAt?_append (before after : List Char) :
    cutAt? (byteSize before) (before ++ after) = some (before, after) :=
  cutAt?_eq_some_iff.mpr ⟨rfl, rfl⟩

theorem slice?_append (before part after : List Char) :
    slice? (byteSize before) (byteSize before + byteSize part) (before ++ part ++ after) =
      some part := by
  rw [slice?, List.append_assoc, cutAt?_append]
  simp [cutAt?_append]

/-- The offset of the second byte of a character cuts nothing. -/
example : cutAt? 1 "é!".toList = none ∧ cutAt? 2 "é!".toList = some (['é'], ['!']) ∧
    slice? 2 3 "é!".toList = some ['!'] := by decide +kernel

end Text

namespace Mention

/-- A placeholder that a search has found, with the byte offsets of its ends. -/
structure Capture where
  mention : Mention
  start : Nat
  stop : Nat
  deriving DecidableEq, Repr

/-- The placeholders that are found in the rest of a text, which stands at a byte offset. Each search
is for the leftmost one and begins where the one before has ended. -/
def captures (offset : Nat) (cs : List Char) : List Capture :=
  match _found : leftmost? cs with
  | none => []
  | some (before, mention, after) =>
    let start := offset + Text.byteSize before
    let stop := start + Text.byteSize mention.chars
    ⟨mention, start, stop⟩ :: captures stop after
termination_by cs.length
decreasing_by
  have := mention.length_chars_pos
  rw [(eq_of_leftmost? _found).2, List.length_append, List.length_append]
  omega

theorem segments_of_leftmost?_eq_none {cs : List Char} (absent : leftmost? cs = none) :
    Template.segments cs = cs.map .char := by
  induction cs with
  | nil => simp [Template.segments]
  | cons c cs ih =>
    unfold leftmost? at absent
    split at absent
    next => cases absent
    next missing =>
      rw [Template.segments_cons missing, ih (Option.map_eq_none_iff.mp absent), List.map_cons]

/-- Before the leftmost placeholder there are only characters. -/
theorem segments_of_leftmost? {cs before after : List Char} {mention : Mention}
    (found : leftmost? cs = some (before, mention, after)) :
    Template.segments cs = before.map .char ++ .mention mention :: Template.segments after := by
  induction cs generalizing before with
  | nil => cases found
  | cons c cs ih =>
    unfold leftmost? at found
    split at found
    next here =>
      cases found
      exact Template.segments_of_atHead? here
    next missing =>
      obtain ⟨⟨front, other, rest⟩, later, same⟩ := Option.map_eq_some_iff.mp found
      cases same
      rw [Template.segments_cons missing, ih later, List.map_cons, List.cons_append]

theorem mentions_of_leftmost?_eq_none {cs : List Char} (absent : leftmost? cs = none) :
    Template.mentions cs = [] := by
  rw [Template.mentions, segments_of_leftmost?_eq_none absent]
  simp [Segment.mention?]

theorem mentions_of_leftmost? {cs before after : List Char} {mention : Mention}
    (found : leftmost? cs = some (before, mention, after)) :
    Template.mentions cs = mention :: Template.mentions after := by
  rw [Template.mentions, segments_of_leftmost? found]
  simp [Segment.mention?, Template.mentions]

/-- The search finds the placeholders that are read from the left. -/
theorem mentions_eq_map_captures (offset : Nat) (cs : List Char) :
    Template.mentions cs = (captures offset cs).map Capture.mention := by
  fun_induction captures offset cs with
  | case1 offset cs absent => exact mentions_of_leftmost?_eq_none absent
  | case2 offset cs before mention after found start stop ih =>
    rw [mentions_of_leftmost? found, ih, List.map_cons]

end Mention

namespace Style

/-- How far the loop has come: the text written, the offset up to which the template has been copied
and the number of placeholders replaced. -/
structure Progress where
  out : String
  copied : Nat
  replaced : Nat

/-- One turn of the loop: what lies before the placeholder is copied, the placeholder is replaced. -/
def fillStep (style : Style) (arguments : List Argument) (template : List Char)
    (progress : Progress) (capture : Mention.Capture) : Attempt Failure Progress := do
  let literal := (Text.slice? progress.copied capture.start template).getD []
  let text ← style.replacement arguments capture.mention
  pure ⟨progress.out ++ String.ofList literal ++ text, capture.stop, progress.replaced + 1⟩

/-- The text written and, behind it, what remains of the template. -/
def Progress.finish (template : List Char) (progress : Progress) : String :=
  let rest := ((Text.cutAt? progress.copied template).map Prod.snd).getD []
  progress.out ++ String.ofList rest

/-- The text of a template with each placeholder replaced, in a loop. -/
def fillInLoop (style : Style) (template : String) (arguments : List Argument) :
    Attempt Failure String := do
  let progress ← (Mention.captures 0 template.toList).foldlM
    (style.fillStep arguments template.toList) ⟨"", 0, 0⟩
  Logged.record (.replaced progress.replaced template)
  pure (progress.finish template.toList)

variable (style : Style) (arguments : List Argument)

theorem Progress.finish_append (out : String) (copied rest : List Char) (replaced : Nat) :
    Progress.finish (copied ++ rest) ⟨out, Text.byteSize copied, replaced⟩ =
      out ++ String.ofList rest := by
  simp [Progress.finish, Text.cutAt?_append]

theorem fillStep_append (out : String) (copied before rest : List Char) (mention : Mention)
    (stop replaced : Nat) :
    style.fillStep arguments (copied ++ before ++ rest) ⟨out, Text.byteSize copied, replaced⟩
        ⟨mention, Text.byteSize copied + Text.byteSize before, stop⟩ = (do
      let text ← style.replacement arguments mention
      pure ⟨out ++ String.ofList before ++ text, stop, replaced + 1⟩) := by
  simp only [fillStep, Text.slice?_append, Option.getD_some]

/-- From any place on, the loop writes the filled rest of the template and counts its
placeholders. -/
theorem foldlM_fillStep (out : String) (copied rest : List Char) (replaced : Nat) :
    (do
      let progress ← (Mention.captures (Text.byteSize copied) rest).foldlM
        (style.fillStep arguments (copied ++ rest)) ⟨out, Text.byteSize copied, replaced⟩
      pure (progress.finish (copied ++ rest), progress.replaced)) = (do
      let text ← style.fillSegments arguments (Template.segments rest)
      pure (out ++ text, replaced + (Template.mentions rest).length)) := by
  generalize start : Text.byteSize copied = offset
  fun_induction Mention.captures offset rest generalizing out copied replaced with
  | case1 offset rest absent =>
    subst start
    rw [Mention.segments_of_leftmost?_eq_none absent, fillSegments_chars,
      Mention.mentions_of_leftmost?_eq_none absent]
    simp only [List.foldlM_nil, pure_bind, Progress.finish_append, List.length_nil, Nat.add_zero]
  | case2 offset rest before mention after found first last ih =>
    subst start
    have whole := (Mention.eq_of_leftmost? found).2
    have copiedLater : Text.byteSize (copied ++ before ++ mention.chars) = last := by
      rw [Text.byteSize_append, Text.byteSize_append]
    have turn := style.fillStep_append arguments out copied before (mention.chars ++ after) mention
      last replaced
    have later (text : String) := ih (out ++ String.ofList before ++ text)
      (copied ++ before ++ mention.chars) (replaced + 1) copiedLater
    simp only [List.append_assoc] at whole turn later
    rw [← whole] at turn later
    rw [List.foldlM_cons, turn, Mention.segments_of_leftmost? found, fillSegments_append,
      fillSegments_chars, Mention.mentions_of_leftmost? found]
    simp only [fillSegments, bind_assoc, pure_bind]
    refine bind_congr fun text => ?_
    rw [later]
    simp only [String.append_assoc, List.length_cons, Nat.add_assoc, Nat.add_comm 1]

/-- The loop is the filling: the same result and the same log. -/
theorem fillInLoop_eq_fill (template : String) :
    style.fillInLoop template arguments = style.fill template arguments := by
  have run := style.foldlM_fillStep arguments "" [] template.toList 0
  have closed := congrArg (· >>= fun (made : String × Nat) => do
    Logged.record (.replaced made.2 template)
    pure made.1) run
  simp only [bind_assoc, pure_bind, Text.byteSize_nil, List.nil_append, String.empty_append,
    Nat.zero_add] at closed
  exact closed

end Style

end CaseLabel
