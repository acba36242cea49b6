import CaseLabel.Proofs.Style.Emptiness
import CaseLabel.Proofs.Text.Escapes

/-!
# Decoding of arrays

The elements of an array are written one behind the other with a comma and a space between them,
and nothing in them is escaped. They can still be told apart where an element shows its end: two
texts are delimited if neither can start the other in front of a comma or of the end. Numerals and
booleans hold no comma; characters may be commas, but all have the same length. Main statements:

* arrays with the same text have the same texts of elements if these are delimited
  (`chars_scalars_eq_of_text_eq`);
* so the text of an array determines its numbers, whatever their kinds, its booleans or its
  characters (`text_determines_items`).
-/

namespace CaseLabel

namespace ScalarArray

/-- What can stand behind an element: nothing, or text that starts with a comma. -/
def EndsElement (rest : List Char) : Prop := ∀ c ∈ rest.head?, c = ','

/-- Texts of elements of which neither starts the other where an element may end. -/
def Delimited (element other : List Char) : Prop :=
  ∀ rest rest', EndsElement rest → EndsElement rest' → element ++ rest = other ++ rest' →
    element = other

/-- A text without a comma ends where the first comma follows. -/
theorem delimited_of_not_mem {element other : List Char} (h : ',' ∉ element) (h' : ',' ∉ other) :
    Delimited element other := by
  have within {text : List Char} (without : ',' ∉ text) : ∀ c ∈ text, (c == ',') = false :=
    fun c member => beq_eq_false_iff_ne.mpr fun comma => without (comma ▸ member)
  have stops {rest : List Char} (ends : EndsElement rest) : ∀ c ∈ rest.head?, (c == ',') = true :=
    fun c member => beq_iff_eq.mpr (ends c member)
  intro rest rest' ends ends' same
  exact (append_inj_of_stop (within h) (within h') (stops ends) (stops ends') same).1

theorem delimited_of_length_eq {element other : List Char}
    (same : element.length = other.length) : Delimited element other :=
  fun _ _ _ _ text => List.append_inj_left text same

/-- What stands behind an element in front of the given ones. -/
def following : List (List Char) → List Char
  | [] => []
  | element :: rest => ',' :: ' ' :: List.intercalate [',', ' '] (element :: rest)

theorem intercalate_cons (element : List Char) (rest : List (List Char)) :
    List.intercalate [',', ' '] (element :: rest) = element ++ following rest := by
  cases rest with
  | nil => simp [following]
  | cons next rest =>
    rw [List.intercalate_cons_cons, following, List.append_assoc]
    rfl

theorem endsElement_following (elements : List (List Char)) : EndsElement (following elements) := by
  cases elements with
  | nil => simp [EndsElement, following]
  | cons element rest => simp [EndsElement, following]

theorem intercalate_eq_of_following_eq {elements others : List (List Char)}
    (same : following elements = following others) :
    List.intercalate [',', ' '] elements = List.intercalate [',', ' '] others := by
  cases elements with
  | nil =>
    cases others with
    | nil => rfl
    | cons other others => simp [following] at same
  | cons element elements =>
    cases others with
    | nil => simp [following] at same
    | cons other others => simpa [following] using same

/-- Delimited elements are determined by what is written of them. An element without text would be
taken for no element at all. -/
theorem eq_of_intercalate_eq {elements others : List (List Char)}
    (nonempty : ∀ element ∈ elements, element ≠ [])
    (nonempty' : ∀ other ∈ others, other ≠ [])
    (delimited : ∀ element ∈ elements, ∀ other ∈ others, Delimited element other)
    (same : List.intercalate [',', ' '] elements = List.intercalate [',', ' '] others) :
    elements = others := by
  induction elements generalizing others with
  | nil =>
    cases others with
    | nil => rfl
    | cons other others =>
      rw [intercalate_cons, List.intercalate_nil, eq_comm, List.append_eq_nil_iff] at same
      exact absurd same.1 (nonempty' other (by simp))
  | cons element elements ih =>
    cases others with
    | nil =>
      rw [intercalate_cons, List.intercalate_nil, List.append_eq_nil_iff] at same
      exact absurd same.1 (nonempty element (by simp))
    | cons other others =>
      rw [intercalate_cons, intercalate_cons] at same
      have first : element = other :=
        delimited element (by simp) other (by simp) _ _ (endsElement_following elements)
          (endsElement_following others) same
      have behind : following elements = following others :=
        List.append_cancel_left (first ▸ same)
      have rest : elements = others := by
        apply ih
        · exact fun e member => nonempty e (by simp [member])
        · exact fun o member => nonempty' o (by simp [member])
        · exact fun e member o member' => delimited e (by simp [member]) o (by simp [member'])
        · exact intercalate_eq_of_following_eq behind
      rw [first, rest]

/-- The text of an array determines the texts of its elements if they are delimited. -/
theorem chars_scalars_eq_of_text_eq {array other : ScalarArray}
    (delimited : ∀ s ∈ array.scalars, ∀ t ∈ other.scalars, Delimited s.chars t.chars)
    (same : array.text = other.text) :
    array.scalars.map Scalar.chars = other.scalars.map Scalar.chars := by
  have bracketed := String.ofList_injective same
  have inner := List.append_cancel_right (List.cons.inj bracketed).2
  apply eq_of_intercalate_eq _ _ _ inner
  · simp [Scalar.chars_ne_nil]
  · simp [Scalar.chars_ne_nil]
  · simpa using delimited

/-- If the values of two kinds have delimited texts, arrays of these kinds have the same text
exactly if they have the same texts of elements. -/
theorem text_eq_iff (kind other : Kind)
    (delimited : ∀ (v : kind.Value) (w : other.Value),
      Delimited (Scalar.chars ⟨kind, v⟩) (Scalar.chars ⟨other, w⟩))
    (vs : List kind.Value) (ws : List other.Value) :
    text ⟨kind, vs⟩ = text ⟨other, ws⟩ ↔
      (vs.map fun v => Scalar.chars ⟨kind, v⟩) = ws.map fun w => Scalar.chars ⟨other, w⟩ := by
  have elements (kind : Kind) (vs : List kind.Value) :
      (scalars ⟨kind, vs⟩).map Scalar.chars = vs.map fun v => Scalar.chars ⟨kind, v⟩ := by
    rw [scalars, List.map_map]
    rfl
  rw [← elements, ← elements]
  constructor
  · apply chars_scalars_eq_of_text_eq
    simp [scalars, delimited]
  · intro same
    rw [text, text, chars, chars, same]

theorem text_wholes_eq_iff {kind other : WholeKind} (ms : List (Whole kind))
    (ns : List (Whole other)) :
    text ⟨.whole kind, ms⟩ = text ⟨.whole other, ns⟩ ↔ ms.map Whole.val = ns.map Whole.val := by
  have comma : ∀ n : Int, ',' ∉ Numeral.ofInt n := Numeral.not_mem_ofInt (by decide) (by decide)
  have delimited (m : Whole kind) (n : Whole other) :
      Delimited (Numeral.ofInt m.val) (Numeral.ofInt n.val) :=
    delimited_of_not_mem (comma m.val) (comma n.val)
  have numerals (kind : WholeKind) (ns : List (Whole kind)) :
      (ns.map fun n => Scalar.chars ⟨.whole kind, n⟩) = (ns.map Whole.val).map Numeral.ofInt := by
    rw [List.map_map]
    rfl
  rw [text_eq_iff (.whole kind) (.whole other) delimited ms ns, numerals, numerals,
    List.map_inj_right Numeral.ofInt_injective]

/-- Within one kind it suffices that no two values are written alike. -/
theorem text_eq_iff_of_injective (kind : Kind)
    (delimited : ∀ v w : kind.Value, Delimited (Scalar.chars ⟨kind, v⟩) (Scalar.chars ⟨kind, w⟩))
    (injective : ∀ v w : kind.Value, Scalar.chars ⟨kind, v⟩ = Scalar.chars ⟨kind, w⟩ → v = w)
    (vs ws : List kind.Value) : text ⟨kind, vs⟩ = text ⟨kind, ws⟩ ↔ vs = ws := by
  rw [text_eq_iff kind kind delimited]
  exact List.map_inj_right injective

theorem text_bools_eq_iff (as bs : List Bool) :
    text ⟨.bool, as⟩ = text ⟨.bool, bs⟩ ↔ as = bs := by
  apply text_eq_iff_of_injective .bool
  · have commas : ∀ b : Bool, ',' ∉ Scalar.chars ⟨.bool, b⟩ := by decide
    exact fun a b => delimited_of_not_mem (commas a) (commas b)
  · decide

/-- Characters are written as they are, also those that arrays are written with: what tells them
apart is their place. -/
theorem text_chars_eq_iff (cs ds : List Char) :
    text ⟨.char, cs⟩ = text ⟨.char, ds⟩ ↔ cs = ds := by
  apply text_eq_iff_of_injective .char
  · exact fun c d => delimited_of_length_eq rfl
  · exact fun c d same => (List.cons.inj same).1

example : text ⟨.char, [',', ' ', ']']⟩ = "[,,  , ]]" := by decide

/-- The text of an array determines what is in it: two arrays of whole numbers, whatever their
kinds, have the same text exactly if they hold the same numbers, two arrays of booleans exactly if
they hold the same booleans, and two arrays of characters, which are written as they are, be they
commas, spaces or brackets, exactly if they hold the same characters. -/
theorem text_determines_items :
    (∀ (kind other : WholeKind) (ms : List (Whole kind)) (ns : List (Whole other)),
      text ⟨.whole kind, ms⟩ = text ⟨.whole other, ns⟩ ↔ ms.map Whole.val = ns.map Whole.val) ∧
    (∀ as bs : List Bool, text ⟨.bool, as⟩ = text ⟨.bool, bs⟩ ↔ as = bs) ∧
    ∀ cs ds : List Char, text ⟨.char, cs⟩ = text ⟨.char, ds⟩ ↔ cs = ds :=
  ⟨fun _ _ => text_wholes_eq_iff, text_bools_eq_iff, text_chars_eq_iff⟩

end ScalarArray

end CaseLabel
