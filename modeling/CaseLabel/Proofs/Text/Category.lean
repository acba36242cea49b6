import CaseLabel.Proofs.Text.Printable
import Mathlib.Data.List.Chain

/-!
# Categories: what the tables of code points hold

The category of a character is looked up by searching the tables in turn, each of them as far as the
first range behind the character. Main statements:

* neither the end of the search nor the order of the tables matters: the category is the only one
  with a range that holds the character (`category_eq_iff`), and the ordinary characters are those
  that no range holds (`category_eq_ordinary_iff`);
* a character is printable unless some range holds it (`isPrintable_eq_false_iff`).
-/

namespace CaseLabel.Text

namespace CodeRange

/-- Behind the first range that starts after a number there is none that holds it. -/
theorem hold_eq_true_iff {table : List CodeRange} (ascending : table.Pairwise (·.1 < ·.1))
    {n : Nat} : hold table n = true ↔ ∃ range ∈ table, range.1 ≤ n ∧ n ≤ range.2 := by
  induction table with
  | nil => simp [hold]
  | cons range rest ih =>
    obtain ⟨before, ascending⟩ := List.pairwise_cons.mp ascending
    rw [List.exists_mem_cons_iff, hold]
    split
    next early =>
      -- All later ranges start behind this one, so behind the number.
      have missed : ¬ ∃ later ∈ rest, later.1 ≤ n ∧ n ≤ later.2 := by
        intro found
        obtain ⟨later, member, low, -⟩ := found
        have := before later member
        omega
      have outside : ¬ range.1 ≤ n := by omega
      simp [missed, outside]
    next reached =>
      have low : range.1 ≤ n := by omega
      rw [Bool.or_eq_true, ih ascending, decide_eq_true_iff]
      simp [low]

/-- Whether two ascending tables have nothing in common. What ends before a range is passed over,
for it ends before all later ranges too. -/
def apart : List CodeRange → List CodeRange → Bool
  | [], _ => true
  | range :: rest, table =>
    let ahead := table.dropWhile (·.2 < range.1)
    (ahead.head?.all (range.2 < ·.1)) && apart rest ahead

theorem not_hold_of_apart {table other : List CodeRange} (ascending : table.Pairwise (·.1 < ·.1))
    (otherAscending : other.Pairwise (·.1 < ·.1)) (disjoint : apart table other = true) {n : Nat}
    {range found : CodeRange} (member : range ∈ table) (holds : range.1 ≤ n ∧ n ≤ range.2)
    (member' : found ∈ other) : ¬ (found.1 ≤ n ∧ n ≤ found.2) := by
  induction table generalizing other with
  | nil => cases member
  | cons first rest ih =>
    obtain ⟨later, ascending⟩ := List.pairwise_cons.mp ascending
    rw [apart, Bool.and_eq_true] at disjoint
    have low : first.1 ≤ range.1 := by
      rcases List.mem_cons.mp member with rfl | behind
      · exact Nat.le_refl _
      · exact Nat.le_of_lt (later range behind)
    rw [← List.takeWhile_append_dropWhile (p := fun range => range.2 < first.1) (l := other),
      List.mem_append] at member'
    rcases member' with passed | ahead
    · have ended := List.all_eq_true.mp List.all_takeWhile found passed
      rw [decide_eq_true_eq] at ended
      omega
    · have aheadAscending := otherAscending.sublist (List.dropWhile_sublist (·.2 < first.1))
      rcases List.mem_cons.mp member with rfl | behind
      · cases shape : other.dropWhile (·.2 < range.1) with
        | nil => simp [shape] at ahead
        | cons next more =>
          rw [shape] at ahead aheadAscending disjoint
          have starts : range.2 < next.1 := by simpa using disjoint.1
          have beyond : next.1 ≤ found.1 := by
            rcases List.mem_cons.mp ahead with rfl | behind
            · exact Nat.le_refl _
            · exact Nat.le_of_lt ((List.pairwise_cons.mp aheadAscending).1 found behind)
          omega
      · exact ih ascending aheadAscending disjoint.2 behind ahead

end CodeRange

namespace Category

/-- Whether a range of the category holds the character. -/
def has (category : Category) (c : Char) : Bool :=
  category.ranges.any fun range => range.1 ≤ c.toNat && c.toNat ≤ range.2

theorem has_eq_true_iff {category : Category} {c : Char} : category.has c = true ↔
    ∃ range ∈ category.ranges, range.1 ≤ c.toNat ∧ c.toNat ≤ range.2 := by
  simp [has]

theorem ranges_ascending (category : Category) : category.ranges.Pairwise (·.1 < ·.1) := by
  have chain : category.ranges.IsChain (fun range next => range.1 < next.1) := by
    cases category <;> decide +kernel
  exact List.isChain_iff_pairwise.mp chain

/-- The search of a table does not miss a character. -/
theorem covers_ranges (category : Category) (c : Char) :
    CodeRange.covers category.ranges c = category.has c := by
  rw [Bool.eq_iff_iff, CodeRange.covers, CodeRange.hold_eq_true_iff category.ranges_ascending,
    has_eq_true_iff]

theorem apart_of_ne : ∀ a ∈ tabulated, ∀ b ∈ tabulated, a ≠ b →
    CodeRange.apart a.ranges b.ranges = true := by
  decide +kernel

theorem mem_tabulated_of_has {category : Category} {c : Char} (has : category.has c = true) :
    category ∈ tabulated := by
  cases category with
  | ordinary => cases has
  | _ => simp [tabulated]

/-- No character is in two categories. -/
theorem eq_of_has {a b : Category} {c : Char} (inA : a.has c = true) (inB : b.has c = true) :
    a = b := by
  by_contra different
  have disjoint := apart_of_ne a (mem_tabulated_of_has inA) b (mem_tabulated_of_has inB) different
  obtain ⟨range, member, holds⟩ := has_eq_true_iff.mp inA
  obtain ⟨other, member', holds'⟩ := has_eq_true_iff.mp inB
  exact CodeRange.not_hold_of_apart a.ranges_ascending b.ranges_ascending disjoint member holds
    member' holds'

end Category

theorem category_eq_ordinary_iff {c : Char} :
    category c = .ordinary ↔ ∀ other : Category, other.has c = false := by
  constructor
  · intro found other
    rw [← Category.covers_ranges]
    unfold category at found
    cases search : tabulated.find? fun category => CodeRange.covers category.ranges c with
    | some category =>
      rw [search, Option.getD_some] at found
      have member := List.mem_of_find?_eq_some search
      rw [found] at member
      simp [tabulated] at member
    | none =>
      have missed := List.find?_eq_none.mp search other
      cases other with
      | ordinary => rfl
      | _ => simpa [tabulated] using missed
  · intro missed
    exact category_eq_ordinary fun category _ => (category.covers_ranges c).trans (missed category)

/-- The category of a character is the one that has it. -/
theorem category_eq_iff {c : Char} {other : Category} (tabled : other ≠ .ordinary) :
    category c = other ↔ other.has c = true := by
  have found : category c ≠ .ordinary → (category c).has c = true := by
    unfold category
    cases search : tabulated.find? fun category => CodeRange.covers category.ranges c with
    | some category =>
      intro _
      rw [Option.getD_some, ← Category.covers_ranges]
      have holds := List.find?_some search
      exact holds
    | none => exact fun ordinary => absurd rfl ordinary
  constructor
  · intro same
    rw [← same]
    exact found (same ▸ tabled)
  · intro has
    refine Category.eq_of_has (found fun ordinary => ?_) has
    rw [category_eq_ordinary_iff.mp ordinary other] at has
    cases has

example : category '\x07' = .control ∧ category '\u200B' = .format ∧ category '\uE000' = .privateUse ∧
    category '\u0378' = .unassigned ∧ category '\u2028' = .ordinary := by decide +kernel

theorem isPrintable_eq_false_iff {c : Char} :
    isPrintable c = false ↔ ∃ category : Category, category.has c = true := by
  rw [← Bool.not_eq_true, isPrintable_iff, category_eq_ordinary_iff]
  simp

end CaseLabel.Text
