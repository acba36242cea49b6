import CaseLabel.Proofs.Template.Trace

/-!
# Relevance: the arguments that a filling depends on

A filling depends on the number of arguments and on those inside the spans of its placeholders, as
far as it comes: what stands behind the first placeholder that fails is not looked at. Lists that
agree there are taken through every layer side by side. Main statements:

* lists of one length that agree in a granted span are selected from alike, and a refusal depends
  on the length alone (`selectAs_congr`, `select_congr`);
* segments are filled alike, step by step (`fillSegments_congr`);
* so templates are, with the same result and the same log (`fill_eq_of_agree`).
-/

namespace CaseLabel

/-- The lists hold the same items at the positions of the span. -/
def Span.Agree {α : Type} (span : Span) (items others : List α) : Prop :=
  ∀ index, span.start ≤ index → index < span.stop → items[index]? = others[index]?

theorem Span.Agree.slice_eq {α : Type} {span : Span} {items others : List α}
    (agree : span.Agree items others) :
    (items.drop span.start).take (span.stop - span.start) =
      (others.drop span.start).take (span.stop - span.start) := by
  apply List.ext_getElem?
  intro index
  by_cases inside : index < span.stop - span.start
  · simp only [List.getElem?_take, if_pos inside, List.getElem?_drop]
    exact agree _ (by omega) (by omega)
  · simp only [List.getElem?_take, if_neg inside]

section Selection

variable {α : Type} {items others : List α}

/-- What is selected depends on the length of the list and on the items in the granted span. -/
theorem Subscript.selectAs_congr (label : String) {subscript : Subscript}
    (lengths : items.length = others.length)
    (agree : ∀ span, subscript.resolve items.length = .ok span → span.Agree items others) :
    subscript.selectAs label items = subscript.selectAs label others := by
  rcases subscript.granted_or_refused items.length with ⟨span, granted⟩ | refused
  · have grantedOther := granted label
    rw [lengths] at grantedOther
    rw [selectAs_eq_ok (granted label), selectAs_eq_ok grantedOther,
      (agree span (granted _)).slice_eq]
  · have refusedOther := refused label
    rw [lengths] at refusedOther
    rw [selectAs_eq_error (refused label), selectAs_eq_error refusedOther, lengths]

namespace Mention

variable {mention : Mention}

theorem select_congr (lengths : items.length = others.length)
    (agree : ∀ placeholder span, mention.placeholder = .ok placeholder →
      placeholder.subscript.resolve items.length = .ok span → span.Agree items others) :
    mention.select items = mention.select others := by
  cases read : mention.placeholder with
  | error failure => rw [select_of_placeholder_error read, select_of_placeholder_error read]
  | ok placeholder =>
    have same := Subscript.selectAs_congr mention.subscriptText lengths fun span granted =>
      agree placeholder span read granted
    rw [select_of_placeholder read, select_of_placeholder read, same]

theorem isOk_select {placeholder : Placeholder} {span : Span}
    (read : mention.placeholder = .ok placeholder)
    (granted : placeholder.subscript.resolve items.length = .ok span) :
    (mention.select items).isOk = true := by
  have selects := Subscript.selectAs_relabel (Subscript.selectAs_eq_ok granted)
    mention.subscriptText
  rw [select_of_placeholder read, selects]
  rfl

end Mention

end Selection

namespace Style

/-- The index lies in the span of a placeholder in front of the first that has no replacement. -/
def Reaches (style : Style) (arguments : List Argument) (outline : Outline) (index : Nat) : Prop :=
  ∃ text ∈ outline.placeholders.takeWhile (style.succeeds arguments),
    ∃ (placeholder : Placeholder) (span : Span),
      Placeholder.parse text = .ok placeholder ∧
      placeholder.subscript.resolve arguments.length = .ok span ∧
      span.start ≤ index ∧ index < span.stop

variable {style : Style} {arguments others : List Argument}

theorem Reaches.here {mention : Mention} {rest : List Segment} (wellFormed : mention.WellFormed)
    {placeholder : Placeholder} {span : Span} (read : mention.placeholder = .ok placeholder)
    (granted : placeholder.subscript.resolve arguments.length = .ok span) {index : Nat}
    (low : span.start ≤ index) (high : index < span.stop) :
    style.Reaches arguments (Outline.ofSegments (.mention mention :: rest)) index := by
  have good : style.succeeds arguments (String.ofList mention.chars) = true :=
    (style.succeeds_chars arguments wellFormed).trans (Mention.isOk_select read granted)
  refine ⟨String.ofList mention.chars, ?_, placeholder, span,
    (Placeholder.parse_chars wellFormed).trans read, granted, low, high⟩
  rw [Outline.ofSegments, Outline.placeholders, List.takeWhile_cons_of_pos good]
  exact List.mem_cons_self

/-- Behind a placeholder that has a replacement the filling goes on. -/
theorem Reaches.later {mention : Mention} {rest : List Segment}
    (good : style.succeeds arguments (String.ofList mention.chars) = true) {index : Nat}
    (reaches : style.Reaches arguments (Outline.ofSegments rest) index) :
    style.Reaches arguments (Outline.ofSegments (.mention mention :: rest)) index := by
  obtain ⟨text, member, selected⟩ := reaches
  refine ⟨text, ?_, selected⟩
  rw [Outline.ofSegments, Outline.placeholders, List.takeWhile_cons_of_pos good]
  exact List.mem_cons_of_mem _ member

theorem replacement_congr {mention : Mention} (lengths : arguments.length = others.length)
    (same : mention.select arguments = mention.select others) :
    style.replacement arguments mention = style.replacement others mention := by
  rw [replacement, replacement, same, lengths]

theorem replacement_bind_of_error {mention : Mention} {failure : Failure}
    (h : mention.select arguments = .error failure) (next : String → Attempt Failure String) :
    style.replacement arguments mention >>= next = throw failure := by
  rw [replacement, h]
  rfl

/-- Segments are filled alike from lists that agree in what the filling reaches. -/
theorem fillSegments_congr {segments : List Segment}
    (wellFormed : ∀ mention, .mention mention ∈ segments → mention.WellFormed)
    (lengths : arguments.length = others.length)
    (agree : ∀ index, style.Reaches arguments (Outline.ofSegments segments) index →
      arguments[index]? = others[index]?) :
    style.fillSegments arguments segments = style.fillSegments others segments := by
  induction segments with
  | nil => rfl
  | cons segment rest ih =>
    have later := ih fun mention member => wellFormed mention (by simp [member])
    cases segment with
    | char c =>
      have same := later fun index reaches => agree index (by
        rw [Reaches, Outline.ofSegments, Outline.placeholders_cons]
        exact reaches)
      rw [fillSegments, fillSegments, same]
    | mention mention =>
      have here := wellFormed mention (by simp)
      have select : mention.select arguments = mention.select others :=
        Mention.select_congr lengths fun placeholder span read granted index low high =>
          agree index (Reaches.here here read granted low high)
      rw [fillSegments, fillSegments, ← replacement_congr lengths select]
      cases chosen : mention.select arguments with
      | error failure =>
        rw [replacement_bind_of_error chosen, replacement_bind_of_error chosen]
      | ok choice =>
        have good : style.succeeds arguments (String.ofList mention.chars) = true := by
          rw [style.succeeds_chars arguments here, chosen]
          rfl
        rw [later fun index reaches => agree index (reaches.later good)]

/-- Arguments that no placeholder selects, up to the first that fails, do not matter: two lists of
one length that hold the same arguments inside the spans of these placeholders give the same result
and the same log. -/
theorem fill_eq_of_agree (style : Style) (template : String) (outline : Outline)
    (isOf : outline.IsOf template.toList) (arguments others : List Argument)
    (lengths : arguments.length = others.length)
    (agree : ∀ index, style.Reaches arguments outline index →
      arguments[index]? = others[index]?) :
    (style.fill template arguments).run.value = (style.fill template others).run.value ∧
      (style.fill template arguments).run.events = (style.fill template others).run.events := by
  rw [isOf.unique (Outline.isOf_ofSegments template.toList)] at agree
  have wellFormed : ∀ mention, .mention mention ∈ Template.segments template.toList →
      mention.WellFormed := fun _ => wellFormed_of_mem_segments
  have same : style.fill template arguments = style.fill template others := by
    rw [fill, fill, fillSegments_congr wellFormed lengths agree]
  rw [same]
  exact ⟨rfl, rfl⟩

/-- The argument that only the placeholder behind the failing one selects may be another. -/
theorem fill_eq_of_agree_behind_failure :
    (Outline.placed [] "%a[-1]".toList (.placed [' '] "%p[9]".toList
      (.placed [' '] "%p[0]".toList (.literal [])))).IsOf "%a[-1] %p[9] %p[0]".toList ∧
    ([.object none, .null] : List Argument).length = ([.text "x", .null] : List Argument).length ∧
    (∀ index, standard.Reaches [.object none, .null]
        (.placed [] "%a[-1]".toList (.placed [' '] "%p[9]".toList
          (.placed [' '] "%p[0]".toList (.literal [])))) index →
      ([.object none, .null] : List Argument)[index]? = [.text "x", .null][index]?) ∧
    (standard.fill "%a[-1] %p[9] %p[0]" [.object none, .null]).run.value =
      .error (.outOfRange ⟨"9", 9, 10, 2⟩) ∧
    (standard.fill "%a[-1] %p[9] %p[0]" [.object none, .null]).run.value =
        (standard.fill "%a[-1] %p[9] %p[0]" [.text "x", .null]).run.value ∧
      (standard.fill "%a[-1] %p[9] %p[0]" [.object none, .null]).run.events =
        (standard.fill "%a[-1] %p[9] %p[0]" [.text "x", .null]).run.events := by
  have read : Template.segments "%a[-1] %p[9] %p[0]".toList =
      [.mention ⟨.argument, ['-', '1']⟩, .char ' ', .mention ⟨.parameter, ['9']⟩, .char ' ',
        .mention ⟨.parameter, ['0']⟩] := by decide +kernel
  have isOf := Outline.isOf_ofSegments "%a[-1] %p[9] %p[0]".toList
  rw [read] at isOf
  have agree : ∀ index, standard.Reaches [.object none, .null]
      (.placed [] "%a[-1]".toList (.placed [' '] "%p[9]".toList
        (.placed [' '] "%p[0]".toList (.literal [])))) index →
      ([.object none, .null] : List Argument)[index]? = [.text "x", .null][index]? := by
    intro index reaches
    obtain ⟨text, member, placeholder, span, known, granted, low, high⟩ := reaches
    have front : text = "%a[-1]" := List.mem_singleton.mp member
    have shape : Placeholder.parse "%a[-1]" =
        .ok ⟨.argument, .single ⟨-1, by decide, by decide⟩⟩ := rfl
    rw [front, shape] at known
    cases known
    have last : (Subscript.single ⟨-1, by decide, by decide⟩).resolve 2 = .ok ⟨1, 2⟩ :=
      Subscript.resolve_eq_ok_span_iff.mpr (by decide)
    cases granted.symm.trans last
    have second : index = 1 := by
      dsimp only at low high
      omega
    rw [second]
    rfl
  exact ⟨isOf, rfl, agree, standard.outcome_fill_of_segments _ read,
    fill_eq_of_agree standard _ _ isOf _ _ rfl agree⟩

end Style

end CaseLabel
