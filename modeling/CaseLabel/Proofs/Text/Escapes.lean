import Mathlib.Data.List.Basic

/-!
# Texts that show where they end

A text without stops ends where the first stop follows (`append_inj_of_stop`). Where any character
may occur, escapes do it: some characters are shown by a letter behind a backslash, some by a number
behind a backslash and a `u`, all others as they are, but neither a quote nor a backslash is one of
the others. Main statement: whatever the letters and numbers are, a closing quote ends the text, and
what stands in front of it determines the characters (`Escapes.eq_of_closed`).
-/

namespace CaseLabel

theorem append_inj_of_stop {stop : Char → Bool} {front front' rest rest' : List Char}
    (h : ∀ c ∈ front, stop c = false) (h' : ∀ c ∈ front', stop c = false)
    (ends : ∀ c ∈ rest.head?, stop c = true) (ends' : ∀ c ∈ rest'.head?, stop c = true)
    (same : front ++ rest = front' ++ rest') : front = front' ∧ rest = rest' := by
  have cut (front rest : List Char) (h : ∀ c ∈ front, stop c = false)
      (ends : ∀ c ∈ rest.head?, stop c = true) :
      (front ++ rest).takeWhile (fun c => !stop c) = front := by
    have kept : ∀ c ∈ front, (!stop c) = true := by
      intro c member
      rw [h c member, Bool.not_false]
    rw [List.takeWhile_append_of_pos kept]
    cases rest with
    | nil => simp
    | cons c rest =>
      have stops : stop c = true := ends c (by simp)
      simp [stops]
  have fronts : front = front' := by rw [← cut front rest h ends, same, cut front' rest' h' ends']
  exact ⟨fronts, List.append_cancel_left (fronts ▸ same)⟩

/-- Escapes for the characters of a text: a letter behind a backslash for some, a number behind a
backslash and a `u` for others. No letter stands for two characters, and none is the `u`. -/
structure Escapes where
  letters : List (Char × Char)
  number : Char → List Char
  IsNumbered : Char → Prop
  eq_of_letter_eq : ∀ pair ∈ letters, ∀ other ∈ letters, pair.2 = other.2 → pair.1 = other.1
  letter_ne : ∀ pair ∈ letters, pair.2 ≠ 'u'
  eq_of_number_append_eq : ∀ c d, IsNumbered c → IsNumbered d → ∀ rest rest',
    number c ++ rest = number d ++ rest' → c = d ∧ rest = rest'

namespace Escapes

/-- The forms in which a character may be shown. -/
inductive Shows (escapes : Escapes) (c : Char) : List Char → Prop
  | letter {letter : Char} (listed : (c, letter) ∈ escapes.letters) : Shows escapes c ['\\', letter]
  | number (numbered : escapes.IsNumbered c) : Shows escapes c ('\\' :: 'u' :: escapes.number c)
  | itself (quote : c ≠ '"') (backslash : c ≠ '\\') : Shows escapes c [c]

variable {escapes : Escapes} {c d : Char} {shown shown' rest rest' : List Char}

/-- No form is the front of another. -/
theorem Shows.eq_of_append_eq (h : escapes.Shows c shown) (h' : escapes.Shows d shown')
    (same : shown ++ rest = shown' ++ rest') : c = d ∧ rest = rest' := by
  cases h with
  | letter listed =>
    have notU := escapes.letter_ne _ listed
    cases h' with
    | letter listed' =>
      simp only [List.cons_append, List.nil_append, List.cons.injEq, true_and] at same
      exact ⟨escapes.eq_of_letter_eq _ listed _ listed' same.1, same.2⟩
    | number => simp [notU] at same
    | itself quote backslash => simp [Ne.symm backslash] at same
  | number numbered =>
    cases h' with
    | letter listed' =>
      have notU := escapes.letter_ne _ listed'
      simp [Ne.symm notU] at same
    | number numbered' =>
      simp only [List.cons_append, List.cons.injEq, true_and] at same
      exact escapes.eq_of_number_append_eq c d numbered numbered' rest rest' same
    | itself quote backslash => simp [Ne.symm backslash] at same
  | itself quote backslash =>
    cases h' with
    | letter => simp [backslash] at same
    | number => simp [backslash] at same
    | itself => exact List.cons.inj same

/-- No form starts with a quote. -/
theorem Shows.append_ne_quote (h : escapes.Shows c shown) : shown ++ rest ≠ '"' :: rest' := by
  cases h with
  | letter => simp
  | number => simp
  | itself quote => simp [quote]

/-- A closing quote is the first one that no form has in it. -/
theorem eq_of_closed {form : Char → List Char} (shows : ∀ c, escapes.Shows c (form c))
    {cs ds : List Char} (same : cs.flatMap form ++ '"' :: rest = ds.flatMap form ++ '"' :: rest') :
    cs = ds ∧ rest = rest' := by
  induction cs generalizing ds with
  | nil =>
    cases ds with
    | nil => exact ⟨rfl, List.tail_eq_of_cons_eq same⟩
    | cons d ds =>
      rw [List.flatMap_cons, List.append_assoc] at same
      exact absurd same.symm (shows d).append_ne_quote
  | cons c cs ih =>
    rw [List.flatMap_cons, List.append_assoc] at same
    cases ds with
    | nil => exact absurd same (shows c).append_ne_quote
    | cons d ds =>
      rw [List.flatMap_cons, List.append_assoc] at same
      obtain ⟨rfl, behind⟩ := (shows c).eq_of_append_eq (shows d) same
      obtain ⟨rfl, rest⟩ := ih behind
      exact ⟨rfl, rest⟩

end Escapes

/-! ## Hexadecimal digits -/

theorem eq_of_digitChar_eq {m n : Nat} (small : m < 16) (small' : n < 16)
    (same : m.digitChar = n.digitChar) : m = n := by
  have all : ∀ m < 16, ∀ n < 16, Nat.digitChar m = Nat.digitChar n → m = n := by decide
  exact all m small n small' same

theorem toDigits_hex_injective : Function.Injective (Nat.toDigits 16) := by
  intro m
  induction m using Nat.strongRecOn with
  | ind m ih =>
    intro n same
    rw [Nat.toDigits_eq_if (b := 16) (n := m) (by decide),
      Nat.toDigits_eq_if (b := 16) (n := n) (by decide)] at same
    split at same
    next small =>
      split at same
      next small' => exact eq_of_digitChar_eq small small' (List.singleton_inj.mp same)
      next =>
        have front : Nat.toDigits 16 (n / 16) ≠ [] := Nat.toDigits_ne_nil
        exact absurd (List.singleton_eq_append_iff.mp same) (by simp [front])
    next =>
      split at same
      next =>
        have front : Nat.toDigits 16 (m / 16) ≠ [] := Nat.toDigits_ne_nil
        exact absurd (List.append_eq_singleton_iff.mp same) (by simp [front])
      next =>
        obtain ⟨front, last⟩ := List.append_inj' same rfl
        have quotient : m / 16 = n / 16 := ih (m / 16) (by omega) front
        have remainder : m % 16 = n % 16 :=
          eq_of_digitChar_eq (by omega) (by omega) (List.singleton_inj.mp last)
        omega

theorem exists_digit_of_mem_toDigits {n : Nat} {c : Char} (h : c ∈ Nat.toDigits 16 n) :
    ∃ d < 16, c = Nat.digitChar d := by
  induction n using Nat.strongRecOn with
  | ind n ih =>
    rw [Nat.toDigits_eq_if (by decide)] at h
    split at h
    next small => exact ⟨n, small, List.mem_singleton.mp h⟩
    next =>
      rcases List.mem_append.mp h with front | last
      · exact ih (n / 16) (by omega) front
      · exact ⟨n % 16, Nat.mod_lt n (by decide), List.mem_singleton.mp last⟩

end CaseLabel
