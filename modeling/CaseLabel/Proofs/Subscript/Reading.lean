import CaseLabel.Proofs.Placeholder.Bracketed

/-!
# Reading subscripts

A text is read as a single position if it is a numeral, as a range if it is two numerals around two
dots, and is malformed otherwise or if a number is no position. Main statements:

* each of the three outcomes by the form of the text (`parse_eq_single_iff`, `parse_eq_range_iff`,
  `parse_eq_malformed_iff`);
* subscripts are told apart by their canonical texts (`text_injective`).
-/

namespace CaseLabel

namespace Subscript

variable {text : String}

theorem parse_eq_single_iff {p : Position} :
    parse text = .ok (.single p) ↔
      ∃ n : Numeral.Spelling, text.toList = n.chars ∧ n.value = p.val := by
  rw [parse_eq_ok_iff]
  constructor
  · intro h
    obtain ⟨s, spelled, denotes⟩ := h
    cases denotes with
    | single value => exact ⟨_, spelled.symm, value⟩
  · intro h
    obtain ⟨n, spelled, value⟩ := h
    exact ⟨.single n, spelled.symm, .single value⟩

theorem parse_eq_range_iff {p q : Position} :
    parse text = .ok (.range p q) ↔
      ∃ first last : Numeral.Spelling,
        text.toList = first.chars ++ '.' :: '.' :: last.chars ∧
        first.value = p.val ∧ last.value = q.val := by
  rw [parse_eq_ok_iff]
  constructor
  · intro h
    obtain ⟨s, spelled, denotes⟩ := h
    cases denotes with
    | range firstValue lastValue => exact ⟨_, _, spelled.symm, firstValue, lastValue⟩
  · intro h
    obtain ⟨first, last, spelled, firstValue, lastValue⟩ := h
    exact ⟨.range first last, spelled.symm, .range firstValue lastValue⟩

/-- What is not read is malformed, and the failure shows the text as it was written. -/
theorem parse_eq_malformed_iff :
    parse text = .error (.malformedSubscript text) ↔ ¬ ∃ subscript, parse text = .ok subscript := by
  constructor
  · intro malformed succeeds
    obtain ⟨subscript, read⟩ := succeeds
    rw [malformed] at read
    cases read
  · exact parse_eq_error

theorem exists_parse_eq_single_iff :
    (∃ p, parse text = .ok (.single p)) ↔
      ∃ n : Numeral.Spelling, text.toList = n.chars ∧ -2 ^ 63 ≤ n.value ∧ n.value < 2 ^ 63 := by
  simp only [parse_eq_single_iff]
  constructor
  · intro h
    obtain ⟨p, n, spelled, value⟩ := h
    exact ⟨n, spelled, Position.exists_val_eq_iff.mp ⟨p, value⟩⟩
  · intro h
    obtain ⟨n, spelled, bounds⟩ := h
    obtain ⟨p, value⟩ := Position.exists_val_eq_iff.mpr bounds
    exact ⟨p, n, spelled, value⟩

theorem exists_parse_eq_range_iff :
    (∃ p q, parse text = .ok (.range p q)) ↔
      ∃ first last : Numeral.Spelling,
        text.toList = first.chars ++ '.' :: '.' :: last.chars ∧
        (-2 ^ 63 ≤ first.value ∧ first.value < 2 ^ 63) ∧
        -2 ^ 63 ≤ last.value ∧ last.value < 2 ^ 63 := by
  simp only [parse_eq_range_iff]
  constructor
  · intro h
    obtain ⟨p, q, first, last, spelled, firstValue, lastValue⟩ := h
    exact ⟨first, last, spelled, Position.exists_val_eq_iff.mp ⟨p, firstValue⟩,
      Position.exists_val_eq_iff.mp ⟨q, lastValue⟩⟩
  · intro h
    obtain ⟨first, last, spelled, firstBounds, lastBounds⟩ := h
    obtain ⟨p, firstValue⟩ := Position.exists_val_eq_iff.mpr firstBounds
    obtain ⟨q, lastValue⟩ := Position.exists_val_eq_iff.mpr lastBounds
    exact ⟨p, q, first, last, spelled, firstValue, lastValue⟩

/-- Reading the canonical text gives the subscript back, so no two have the same. -/
theorem text_injective : Function.Injective Subscript.text := by
  intro x y same
  have read := parse_text x
  rw [same, parse_text y] at read
  exact (Except.ok.inj read).symm

/-- Exactly the texts of the grammar are read. A text is a single position if it is a numeral, with
any zeros in front and with or without a minus sign, of a number in the range of positions; it is a
range if it is two such numerals around two dots; every other text is malformed and named by the
failure as it was written. The canonical text of every subscript is read back as it, and texts are
read as the same subscript exactly if what they are read as has the same canonical text. -/
theorem parse_reads_grammar :
    (∀ text : String,
      (∀ p : Position, parse text = .ok (.single p) ↔
        ∃ n : Numeral.Spelling, text.toList = n.chars ∧ n.value = p.val) ∧
      (∀ p q : Position, parse text = .ok (.range p q) ↔
        ∃ first last : Numeral.Spelling,
          text.toList = first.chars ++ '.' :: '.' :: last.chars ∧
          first.value = p.val ∧ last.value = q.val) ∧
      (parse text = .error (.malformedSubscript text) ↔
        (¬ ∃ n : Numeral.Spelling,
          text.toList = n.chars ∧ -2 ^ 63 ≤ n.value ∧ n.value < 2 ^ 63) ∧
        ¬ ∃ first last : Numeral.Spelling,
          text.toList = first.chars ++ '.' :: '.' :: last.chars ∧
          (-2 ^ 63 ≤ first.value ∧ first.value < 2 ^ 63) ∧
          -2 ^ 63 ≤ last.value ∧ last.value < 2 ^ 63)) ∧
    (∀ subscript : Subscript, parse subscript.text = .ok subscript) ∧
    ∀ (text other : String) (x y : Subscript), parse text = .ok x → parse other = .ok y →
      (parse text = parse other ↔ x.text = y.text) := by
  refine ⟨fun text => ⟨fun _ => parse_eq_single_iff, fun _ _ => parse_eq_range_iff, ?_⟩,
    parse_text, ?_⟩
  · rw [parse_eq_malformed_iff, ← exists_parse_eq_single_iff, ← exists_parse_eq_range_iff,
      ← not_or]
    apply not_congr
    constructor
    · intro succeeds
      obtain ⟨subscript, read⟩ := succeeds
      cases subscript with
      | single p => exact .inl ⟨p, read⟩
      | range p q => exact .inr ⟨p, q, read⟩
    · intro succeeds
      rcases succeeds with ⟨p, read⟩ | ⟨p, q, read⟩
      · exact ⟨_, read⟩
      · exact ⟨_, read⟩
  · intro text other x y read read'
    rw [read, read', Except.ok.injEq]
    exact ⟨congrArg Subscript.text, fun same => text_injective same⟩

end Subscript

end CaseLabel
