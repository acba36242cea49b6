import CaseLabel.Proofs.Template.Occurrence

/-!
# Segments of two texts put together

Putting one text behind another can make one placeholder that neither of them has, out of the end
of the first and the start of the second; a `Bridge` is such a placeholder. It is the only way in
which reading the whole differs from reading the parts. Main statements:

* without a bridge the segments of the parts are those of the whole (`segments_append`), and this
  holds wherever the second text starts with a percent sign (`segments_append_percent`);
* with a bridge its placeholder takes the place of the characters it covers, and all other segments
  of the parts remain (`Bridge.segments_whole`, `Bridge.segments_left`, `Bridge.segments_right`).
-/

namespace CaseLabel.Template

variable {cs rest : List Char} {mention : Mention}

theorem segments_of_atHead? (found : Mention.atHead? cs = some (mention, rest)) :
    segments cs = .mention mention :: segments rest := by
  cases cs with
  | nil => cases found
  | cons c cs =>
    rw [segments]
    split
    next taken =>
      rw [found] at taken
      cases taken
      rfl
    next absent =>
      rw [found] at absent
      cases absent

theorem segments_cons {c : Char} (absent : Mention.atHead? (c :: cs) = none) :
    segments (c :: cs) = .char c :: segments cs := by
  rw [segments]
  split
  next taken =>
    rw [absent] at taken
    cases taken
  next => rfl

theorem segments_chars_append (wellFormed : mention.WellFormed) (rest : List Char) :
    segments (mention.chars ++ rest) = .mention mention :: segments rest :=
  segments_of_atHead? (Mention.atHead?_append wellFormed rest)

theorem atHead?_cons_eq_none {c : Char} (other : c ≠ '%') : Mention.atHead? (c :: cs) = none := by
  unfold Mention.atHead?
  split
  next shape =>
    cases shape
    exact absurd rfl other
  next => rfl

/-- Text without a percent sign is read as it is, whatever follows it. -/
theorem segments_append_of_not_mem {front : List Char} (h : '%' ∉ front) (rest : List Char) :
    segments (front ++ rest) = front.map .char ++ segments rest := by
  induction front with
  | nil => rfl
  | cons c front ih =>
    rw [List.mem_cons, not_or] at h
    have absent : Mention.atHead? (c :: (front ++ rest)) = none :=
      atHead?_cons_eq_none fun same => h.1 same.symm
    rw [List.cons_append, segments_cons absent, ih h.2]
    rfl

/-- A placeholder that starts in the first text and ends in the second. -/
structure Bridge (xs ys : List Char) where
  before : List Char
  front : List Char
  mention : Mention
  back : List Char
  after : List Char
  wellFormed : mention.WellFormed
  left_eq : xs = before ++ front
  right_eq : ys = back ++ after
  chars_eq : mention.chars = front ++ back
  front_ne_nil : front ≠ []
  back_ne_nil : back ≠ []

namespace Bridge

variable {xs ys : List Char}

theorem whole_eq (bridge : Bridge xs ys) :
    xs ++ ys = bridge.before ++ (bridge.mention.chars ++ bridge.after) := by
  obtain ⟨before, front, mention, back, after, -, rfl, rfl, chars, -, -⟩ := bridge
  simp only [chars, List.append_assoc]

/-- Behind further text it is a bridge as well. -/
def prepend (front : List Char) (bridge : Bridge xs ys) : Bridge (front ++ xs) ys :=
  { bridge with
    before := front ++ bridge.before
    left_eq := by
      simp only [List.append_assoc, List.append_cancel_left_eq]
      exact bridge.left_eq }

/-- Only the front of a bridge has a percent sign, and starts with it. -/
theorem percent (bridge : Bridge xs ys) :
    (∃ front, bridge.front = '%' :: front ∧ '%' ∉ front) ∧ '%' ∉ bridge.back := by
  obtain ⟨c, front, shape⟩ := List.exists_cons_of_ne_nil bridge.front_ne_nil
  have tail := Mention.percent_not_mem_tail bridge.wellFormed
  have whole := bridge.chars_eq
  rw [shape, List.cons_append] at whole
  rw [whole, List.tail_cons, List.mem_append, not_or] at tail
  have first : c = '%' := (List.cons.inj whole).1.symm
  exact ⟨⟨front, by rw [shape, first], tail.1⟩, tail.2⟩

theorem isOccurrence (bridge : Bridge xs ys) :
    IsOccurrence (xs ++ ys) ⟨bridge.before.length,
      bridge.before.length + bridge.mention.chars.length⟩ :=
  isOccurrence_iff.mpr
    ⟨bridge.mention, bridge.before, bridge.after, bridge.wellFormed,
      bridge.whole_eq.trans (List.append_assoc ..).symm, rfl⟩

end Bridge

/-- No placeholder goes on past a percent sign. -/
theorem not_bridge_percent (xs ys : List Char) : ¬ Nonempty (Bridge xs ('%' :: ys)) := by
  rintro ⟨bridge⟩
  obtain ⟨c, back, shape⟩ := List.exists_cons_of_ne_nil bridge.back_ne_nil
  have right := bridge.right_eq
  rw [shape, List.cons_append] at right
  obtain ⟨rfl, -⟩ := List.cons.inj right
  exact bridge.percent.2 (by simp [shape])

/-- Without a bridge, two texts are read as each of them is. -/
theorem segments_append {xs ys : List Char} (apart : ¬ Nonempty (Bridge xs ys)) :
    segments (xs ++ ys) = segments xs ++ segments ys := by
  fun_induction segments xs with
  | case1 => rfl
  | case2 c cs mention rest found ih =>
    obtain ⟨wellFormed, whole⟩ := Mention.atHead?_eq_some_iff.mp found
    have later : ¬ Nonempty (Bridge rest ys) := by
      rintro ⟨bridge⟩
      have longer := bridge.prepend mention.chars
      rw [← whole] at longer
      exact apart ⟨longer⟩
    rw [whole, List.append_assoc, segments_chars_append wellFormed, ih later, List.cons_append]
  | case3 c cs absent ih =>
    have later : ¬ Nonempty (Bridge cs ys) := by
      rintro ⟨bridge⟩
      exact apart ⟨bridge.prepend [c]⟩
    have absentLonger : Mention.atHead? (c :: (cs ++ ys)) = none := by
      rw [Option.eq_none_iff_forall_ne_some]
      rintro ⟨mention, rest⟩ found
      obtain ⟨wellFormed, whole⟩ := Mention.atHead?_eq_some_iff.mp found
      rw [← List.cons_append] at whole
      rcases List.append_eq_append_iff.mp whole with ⟨back, chars, right⟩ | ⟨more, left, -⟩
      · -- The placeholder ends in the second text, so it is a bridge.
        refine apart ⟨[], c :: cs, mention, back, rest, wellFormed, rfl, right, chars,
          by simp, fun empty => ?_⟩
        rw [empty, List.append_nil] at chars
        have alone := Mention.atHead?_append wellFormed []
        rw [chars, List.append_nil, absent] at alone
        cases alone
      · rw [left, Mention.atHead?_append wellFormed] at absent
        cases absent
    rw [List.cons_append, segments_cons absentLonger, ih later, List.cons_append]

/-- Neither of two texts need have the placeholder that they have together. -/
example : segments "%p".toList = [.char '%', .char 'p'] ∧
    segments "[0]".toList = [.char '[', .char '0', .char ']'] ∧
    segments ("%p" ++ "[0]").toList = [.mention ⟨.parameter, ['0']⟩] := by decide +kernel

/-- Reading starts anew at a percent sign. -/
theorem segments_append_percent (xs ys : List Char) :
    segments (xs ++ '%' :: ys) = segments xs ++ segments ('%' :: ys) :=
  segments_append (not_bridge_percent xs ys)

namespace Bridge

variable {xs ys : List Char}

/-- The front is no placeholder yet. -/
theorem segments_front (bridge : Bridge xs ys) :
    segments bridge.front = bridge.front.map .char := by
  obtain ⟨front, shape, notMem⟩ := bridge.percent.1
  have absent : Mention.atHead? ('%' :: front) = none := by
    rw [Option.eq_none_iff_forall_ne_some]
    rintro ⟨other, rest⟩ found
    obtain ⟨wellFormed, whole⟩ := Mention.atHead?_eq_some_iff.mp found
    have longer := bridge.chars_eq
    rw [shape, whole, List.append_assoc] at longer
    obtain ⟨-, nothing⟩ := mention_unique bridge.wellFormed wellFormed
      ((List.append_nil _).trans longer)
    exact bridge.back_ne_nil (List.append_eq_nil_iff.mp nothing.symm).2
  have rest := segments_append_of_not_mem notMem []
  rw [List.append_nil] at rest
  rw [shape, segments_cons absent, rest]
  simp [segments]

theorem segments_left (bridge : Bridge xs ys) :
    segments xs = segments bridge.before ++ bridge.front.map .char := by
  obtain ⟨front, shape, -⟩ := bridge.percent.1
  have cut := segments_append_percent bridge.before front
  rw [← shape, ← bridge.left_eq, bridge.segments_front] at cut
  exact cut

theorem segments_right (bridge : Bridge xs ys) :
    segments ys = bridge.back.map .char ++ segments bridge.after := by
  have cut := segments_append_of_not_mem bridge.percent.2 bridge.after
  rw [← bridge.right_eq] at cut
  exact cut

theorem segments_whole (bridge : Bridge xs ys) :
    segments (xs ++ ys) =
      segments bridge.before ++ .mention bridge.mention :: segments bridge.after := by
  have cut := segments_append_percent bridge.before (bridge.mention.chars.tail ++ bridge.after)
  have head : '%' :: (bridge.mention.chars.tail ++ bridge.after) =
      bridge.mention.chars ++ bridge.after := rfl
  rw [head, ← bridge.whole_eq, segments_chars_append bridge.wellFormed] at cut
  exact cut

end Bridge

end CaseLabel.Template
