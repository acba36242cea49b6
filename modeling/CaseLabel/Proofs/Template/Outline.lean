import CaseLabel.Proofs.Template.Occurrence

/-!
# Outlines: a text cut into literal text and placeholders

An outline is literal text with placeholders between; it is the outline of a text if its pieces
make up the text and its placeholders lie exactly where the text has occurrences. Main statements:

* a text has at most one outline (`IsOf.unique`): the first placeholder of each is the leftmost
  occurrence, and what follows it has one outline;
* reading the text from the left gives it (`isOf_ofSegments`), so the reader misses no occurrence.
-/

namespace CaseLabel

/-- Literal text and placeholders in turn. Literal text stands at both ends and may be empty. -/
inductive Outline where
  | literal (text : List Char)
  | placed (text placeholder : List Char) (rest : Outline)
  deriving DecidableEq, Repr

namespace Outline

def chars : Outline → List Char
  | .literal text => text
  | .placed text placeholder rest => text ++ placeholder ++ rest.chars

/-- The placeholders, from the left. -/
def placeholders : Outline → List String
  | .literal _ => []
  | .placed _ placeholder rest => String.ofList placeholder :: rest.placeholders

/-- The places of the placeholders in the text. -/
def spans : Outline → List Span
  | .literal _ => []
  | .placed text placeholder rest =>
    ⟨text.length, text.length + placeholder.length⟩ ::
      rest.spans.map (Span.shift (text ++ placeholder).length)

/-- The text with other texts in place of the placeholders. -/
def filled (texts : String → String) : Outline → String
  | .literal text => String.ofList text
  | .placed text placeholder rest =>
    String.ofList text ++ texts (String.ofList placeholder) ++ rest.filled texts

/-- The placeholders are all occurrences of the text. -/
structure IsOf (outline : Outline) (cs : List Char) : Prop where
  chars_eq : outline.chars = cs
  mem_spans_iff : ∀ span, span ∈ outline.spans ↔ Template.IsOccurrence cs span

section Unique

variable {text placeholder cs : List Char} {rest : Outline}

theorem IsOf.isOccurrence_first (h : (placed text placeholder rest).IsOf cs) :
    Template.IsOccurrence cs ⟨text.length, text.length + placeholder.length⟩ :=
  (h.mem_spans_iff _).mp (by simp [spans])

/-- The first placeholder of an outline is the leftmost occurrence. -/
theorem IsOf.length_le_start (h : (placed text placeholder rest).IsOf cs) {span : Span}
    (occurs : Template.IsOccurrence cs span) : text.length ≤ span.start := by
  have member := (h.mem_spans_iff span).mpr occurs
  rw [spans, List.mem_cons, List.mem_map] at member
  rcases member with rfl | ⟨inner, -, rfl⟩
  · exact Nat.le_refl _
  · simp only [Span.shift, List.length_append]
    omega

theorem IsOf.behind_first (h : (placed text placeholder rest).IsOf cs) : rest.IsOf rest.chars := by
  refine ⟨rfl, fun span => ?_⟩
  have nonempty := h.isOccurrence_first.start_lt_stop
  have shifted := h.mem_spans_iff (span.shift (text ++ placeholder).length)
  rw [← h.chars_eq, chars, Template.isOccurrence_shift_iff] at shifted
  rw [← shifted, spans, List.mem_cons]
  constructor
  · intro member
    exact .inr (List.mem_map_of_mem member)
  · intro member
    rcases member with first | later
    · have starts := congrArg Span.start first
      simp only [Span.shift, List.length_append] at starts
      dsimp only at nonempty
      omega
    · obtain ⟨inner, member, same⟩ := List.mem_map.mp later
      exact Span.shift_injective _ same ▸ member

/-- A text has at most one outline. -/
theorem IsOf.unique {a b : Outline} (ha : a.IsOf cs) (hb : b.IsOf cs) : a = b := by
  induction a generalizing b cs with
  | literal text =>
    cases b with
    | literal other => rw [show text = other from ha.chars_eq.trans hb.chars_eq.symm]
    | placed other placeholder rest =>
      have member := (ha.mem_spans_iff _).mpr hb.isOccurrence_first
      simp [spans] at member
  | placed text placeholder rest ih =>
    cases b with
    | literal other =>
      have member := (hb.mem_spans_iff _).mpr ha.isOccurrence_first
      simp [spans] at member
    | placed text' placeholder' rest' =>
      have starts : text.length = text'.length :=
        Nat.le_antisymm (ha.length_le_start hb.isOccurrence_first)
          (hb.length_le_start ha.isOccurrence_first)
      have first := ha.isOccurrence_first.eq_of_start_eq hb.isOccurrence_first starts
      have whole := ha.chars_eq.trans hb.chars_eq.symm
      simp only [chars, List.append_assoc] at whole
      obtain ⟨rfl, behind⟩ := List.append_inj whole starts
      simp only [Span.mk.injEq, Nat.add_left_cancel_iff, true_and] at first
      obtain ⟨rfl, remaining⟩ := List.append_inj behind first
      have other : rest'.IsOf rest.chars := remaining ▸ hb.behind_first
      rw [ih ha.behind_first other]

end Unique

/-- A character in front of an outline belongs to its first literal text. -/
def cons (c : Char) : Outline → Outline
  | .literal text => .literal (c :: text)
  | .placed text placeholder rest => .placed (c :: text) placeholder rest

/-- The outline of what was read from the left. -/
def ofSegments : List Segment → Outline
  | [] => .literal []
  | .char c :: rest => (ofSegments rest).cons c
  | .mention mention :: rest => .placed [] mention.chars (ofSegments rest)

theorem chars_cons (c : Char) (outline : Outline) : (outline.cons c).chars = c :: outline.chars := by
  cases outline <;> rfl

theorem spans_cons (c : Char) (outline : Outline) :
    (outline.cons c).spans = outline.spans.map (Span.shift 1) := by
  cases outline with
  | literal text => rfl
  | placed text placeholder rest =>
    have first : (⟨text.length, text.length + placeholder.length⟩ : Span).shift 1 =
        ⟨(c :: text).length, (c :: text).length + placeholder.length⟩ := by
      simp only [Span.shift, List.length_cons, Span.mk.injEq]
      omega
    have others : Span.shift 1 ∘ Span.shift (text ++ placeholder).length =
        Span.shift (c :: text ++ placeholder).length := by
      funext span
      simp only [Function.comp, Span.shift_shift, List.cons_append, List.length_cons, Nat.add_comm]
    rw [cons, spans, spans, List.map_cons, List.map_map, first, others]

theorem chars_ofSegments (segments : List Segment) :
    (ofSegments segments).chars = segments.flatMap Segment.chars := by
  induction segments with
  | nil => rfl
  | cons segment rest ih =>
    cases segment with
    | char c => simp [ofSegments, chars_cons, ih, Segment.chars]
    | mention mention => simp [ofSegments, chars, ih, Segment.chars]

theorem placeholders_cons (c : Char) (outline : Outline) :
    (outline.cons c).placeholders = outline.placeholders := by
  cases outline <;> rfl

/-- The placeholders of the outline are those that were read, as they are written. -/
theorem placeholders_ofSegments (segments : List Segment) :
    (ofSegments segments).placeholders =
      (segments.filterMap Segment.mention?).map fun mention => String.ofList mention.chars := by
  induction segments with
  | nil => rfl
  | cons segment rest ih =>
    cases segment with
    | char c => simp [ofSegments, placeholders_cons, ih, Segment.mention?, List.filterMap_cons]
    | mention mention => simp [ofSegments, placeholders, ih, Segment.mention?]

/-- What is read from the left is the outline of the text. -/
theorem isOf_ofSegments (cs : List Char) : (ofSegments (Template.segments cs)).IsOf cs := by
  refine ⟨by rw [chars_ofSegments, Template.chars_segments], ?_⟩
  fun_induction Template.segments cs with
  | case1 =>
    intro span
    simp [ofSegments, spans, Template.not_isOccurrence_nil]
  | case2 c cs mention rest found ih =>
    intro span
    obtain ⟨wellFormed, whole⟩ := Mention.atHead?_eq_some_iff.mp found
    rw [whole, Template.isOccurrence_append_iff wellFormed]
    simp [ofSegments, spans, ih, eq_comm]
  | case3 c cs absent ih =>
    intro span
    rw [Template.isOccurrence_cons_iff absent]
    simp [ofSegments, spans_cons, ih, eq_comm]

end Outline

end CaseLabel
