import CaseLabel.Proofs.Document.Members
import CaseLabel.Proofs.Document.Values
import CaseLabel.Proofs.RelatedLists

/-!
# What the compact text of a document tells

The compact text leaves out when a member was inserted and which values it replaced, and a float
shows its digits only. It shows all else: `text_eq_iff` says that two documents with the same text
are `Alike`, which allows for no other difference. The induction is on the document with any text
behind it (`alike_of_append_eq`), for the items of a list and the members of an object are values
with others behind them.
-/

namespace CaseLabel.Document

/-- What holds of a list if it holds of its items, of an object if it holds of its values, and of
all other forms, holds of every document. -/
@[elab_as_elim]
theorem induction {motive : Document → Prop} (null : motive .null)
    (bool : ∀ value, motive (.bool value)) (whole : ∀ n, motive (.whole n))
    (float : ∀ x, motive (.float x)) (string : ∀ text, motive (.string text))
    (list : ∀ items, (∀ item ∈ items, motive item) → motive (.list items))
    (object : ∀ members, (∀ member ∈ members, motive member.2) → motive (.object members))
    (document : Document) : motive document :=
  @Document.rec motive (fun items => ∀ item ∈ items, motive item)
    (fun members => ∀ member ∈ members, motive member.2) (fun member => motive member.2)
    null bool whole float string list object
    (by simp) (fun _ _ first rest => List.forall_mem_cons.mpr ⟨first, rest⟩)
    (by simp) (fun _ _ first rest => List.forall_mem_cons.mpr ⟨first, rest⟩)
    (fun _ _ value => value) document

theorem allChars_eq_map (items : List Document) : allChars items = items.map chars := by
  induction items with
  | nil => rfl
  | cons item rest ih => rw [allChars, List.map_cons, ih]

theorem memberTexts_eq_map (members : List (String × Document)) :
    memberTexts members = members.map fun member => (member.1, member.2.chars) := by
  induction members with
  | nil => rfl
  | cons member rest ih => rw [memberTexts, List.map_cons, ih]

/-! ## Items -/

section Items

variable {α : Type} {R : α → α → Prop} {written : α → List Char} {closing : Char}

/-- What is written behind an item. -/
def behind (closing : Char) (rest : List Char) : List (List Char) → List Char
  | [] => closing :: rest
  | part :: parts => ',' :: (part ++ behind closing rest parts)

theorem intercalate_append (part : List Char) (parts : List (List Char)) (rest : List Char) :
    List.intercalate [','] (part :: parts) ++ closing :: rest =
      part ++ behind closing rest parts := by
  induction parts generalizing part with
  | nil => simp [behind]
  | cons next parts ih =>
    rw [List.intercalate_cons_cons, List.append_assoc, List.append_assoc, ih next]
    rfl

theorem ends_behind (stop : closing ∈ stops) (rest : List Char) (parts : List (List Char)) :
    Ends (behind closing rest parts) := by
  cases parts with
  | nil => exact ends_cons stop
  | cons => exact ends_cons (by decide)

/-- Items are told apart if each of them is, and the closing character ends them. -/
theorem forall₂_of_behind_eq {as bs : List α} {rest rest' : List Char} (stop : closing ∈ stops)
    (notComma : closing ≠ ',')
    (each : ∀ a ∈ as, ∀ b rest rest', Ends rest → Ends rest' →
      written a ++ rest = written b ++ rest' → R a b ∧ rest = rest')
    (same : behind closing rest (as.map written) = behind closing rest' (bs.map written)) :
    List.Forall₂ R as bs ∧ rest = rest' := by
  induction as generalizing bs with
  | nil =>
    cases bs with
    | nil => exact ⟨.nil, List.tail_eq_of_cons_eq same⟩
    | cons b bs => exact absurd (List.head_eq_of_cons_eq same) notComma
  | cons a as ih =>
    cases bs with
    | nil => exact absurd (List.head_eq_of_cons_eq same).symm notComma
    | cons b bs =>
      obtain ⟨first, others⟩ := each a (by simp) b _ _ (ends_behind stop _ _) (ends_behind stop _ _)
        (List.tail_eq_of_cons_eq same)
      obtain ⟨related, rests⟩ := ih (fun a member => each a (by simp [member])) others
      exact ⟨.cons first related, rests⟩

theorem forall₂_of_items_eq {as bs : List α} {rest rest' : List Char} (stop : closing ∈ stops)
    (notComma : closing ≠ ',') (start : ∀ a rest rest', written a ++ rest ≠ closing :: rest')
    (each : ∀ a ∈ as, ∀ b rest rest', Ends rest → Ends rest' →
      written a ++ rest = written b ++ rest' → R a b ∧ rest = rest')
    (same : List.intercalate [','] (as.map written) ++ closing :: rest =
      List.intercalate [','] (bs.map written) ++ closing :: rest') :
    List.Forall₂ R as bs ∧ rest = rest' := by
  cases as with
  | nil =>
    cases bs with
    | nil => exact ⟨.nil, List.tail_eq_of_cons_eq same⟩
    | cons b bs =>
      rw [List.map_cons, intercalate_append] at same
      exact absurd same.symm (start b _ _)
  | cons a as =>
    rw [List.map_cons, intercalate_append] at same
    cases bs with
    | nil => exact absurd same (start a _ _)
    | cons b bs =>
      rw [List.map_cons, intercalate_append] at same
      -- With a comma in front, the items are what stands behind another one.
      have others : behind closing rest ((a :: as).map written) =
          behind closing rest' ((b :: bs).map written) := congrArg (List.cons ',') same
      exact forall₂_of_behind_eq stop notComma each others

end Items

/-- Documents that differ at most in what their compact texts do not show: when members were inserted, values that later
ones replaced, and floats with the same digits. -/
inductive Alike : Document → Document → Prop
  | null : Alike .null .null
  | bool (value : Bool) : Alike (.bool value) (.bool value)
  | whole (n : Document.Whole) : Alike (.whole n) (.whole n)
  | float {x y : Document.Float} (digits : floatLayout.chars x.bits = floatLayout.chars y.bits) :
      Alike (.float x) (.float y)
  | string (text : String) : Alike (.string text) (.string text)
  | list {items items' : List Document} (each : List.Forall₂ Alike items items') :
      Alike (.list items) (.list items')
  | object {members members' : List (String × Document)}
      (keys : (sortMembers members).map Prod.fst = (sortMembers members').map Prod.fst)
      (values : List.Forall₂ Alike ((sortMembers members).map Prod.snd)
        ((sortMembers members').map Prod.snd)) :
      Alike (.object members) (.object members')

theorem chars_object (members : List (String × Document)) :
    chars (.object members) = '\x7b' :: List.intercalate [',']
      ((sortMembers members).map fun member => memberChars (member.1, member.2.chars)) ++
        ['\x7d'] := by
  rw [chars, memberTexts_eq_map, sortMembers_map, List.map_map]
  rfl

section Behind

variable {document other : Document} {rest rest' : List Char}

theorem alike_of_number (h : document.form = .number) (h' : other.form = .number)
    (ends : Ends rest) (ends' : Ends rest') (same : document.chars ++ rest = other.chars ++ rest') :
    Alike document other ∧ rest = rest' := by
  obtain ⟨digits, rests⟩ := number_eq_of_append_eq h h' ends ends' same
  refine ⟨?_, rests⟩
  cases document with
  | whole n =>
    cases other with
    | whole m =>
      obtain ⟨n, min_le, lt_max⟩ := n
      obtain rfl : n = m.val := Numeral.ofInt_injective digits
      exact .whole m
    | float x => exact absurd digits (whole_chars_ne_float_chars n x)
    | _ => cases h'
  | float x =>
    cases other with
    | whole n => exact absurd digits.symm (whole_chars_ne_float_chars n x)
    | float y => exact .float digits
    | _ => cases h'
  | _ => cases h

theorem member_eq_of_append_eq {member member' : String × Document}
    (same : memberChars (member.1, member.2.chars) ++ rest =
      memberChars (member'.1, member'.2.chars) ++ rest') :
    member.1 = member'.1 ∧ member.2.chars ++ rest = member'.2.chars ++ rest' := by
  simp only [memberChars, List.append_assoc, List.cons_append] at same
  obtain ⟨keys, values⟩ := stringChars_append_inj same
  exact ⟨keys, List.tail_eq_of_cons_eq values⟩

/-- The text of a document tells what the document shows, and where it ends. -/
theorem alike_of_append_eq (ends : Ends rest) (ends' : Ends rest')
    (same : document.chars ++ rest = other.chars ++ rest') :
    Alike document other ∧ rest = rest' := by
  have forms := form_eq_of_append_eq same
  induction document using induction generalizing other rest rest' with
  | null =>
    cases other with
    | null => exact ⟨.null, List.append_cancel_left same⟩
    | _ => cases forms
  | bool value =>
    cases other with
    | bool =>
      cases forms
      exact ⟨.bool value, List.append_cancel_left same⟩
    | _ => cases forms
  | whole n => exact alike_of_number rfl forms.symm ends ends' same
  | float x => exact alike_of_number rfl forms.symm ends ends' same
  | string text =>
    cases other with
    | string =>
      rw [chars, chars] at same
      obtain ⟨rfl, rests⟩ := stringChars_append_inj same
      exact ⟨.string text, rests⟩
    | _ => cases forms
  | list items ih =>
    cases other with
    | list items' =>
      simp only [chars, allChars_eq_map, List.cons_append, List.append_assoc, List.nil_append,
        List.cons.injEq, true_and] at same
      obtain ⟨each, rests⟩ := forall₂_of_items_eq (by decide) (by decide)
        (fun _ _ _ => append_ne_of_mem_stops (by decide))
        (fun item member _ _ _ ends ends' same =>
          ih item member ends ends' same (form_eq_of_append_eq same)) same
      exact ⟨.list each, rests⟩
    | _ => cases forms
  | object members ih =>
    cases other with
    | object members' =>
      simp only [chars_object, List.cons_append, List.append_assoc, List.nil_append,
        List.cons.injEq, true_and] at same
      have eachMember : ∀ member ∈ sortMembers members,
          ∀ (member' : String × Document) (rest rest' : List Char), Ends rest → Ends rest' →
            memberChars (member.1, member.2.chars) ++ rest =
              memberChars (member'.1, member'.2.chars) ++ rest' →
            (member.1 = member'.1 ∧ Alike member.2 member'.2) ∧ rest = rest' := by
        intro member present member' rest rest' ends ends' same
        obtain ⟨keys, values⟩ := member_eq_of_append_eq same
        obtain ⟨alike, rests⟩ := ih member (mem_of_mem_sortMembers present) ends ends' values
          (form_eq_of_append_eq values)
        exact ⟨⟨keys, alike⟩, rests⟩
      obtain ⟨each, rests⟩ := forall₂_of_items_eq (by decide) (by decide)
        (fun _ _ _ brace => absurd (List.head_eq_of_cons_eq brace) (by decide)) eachMember same
      have keys := map_eq_of_forall₂ (f := Prod.fst) (fun _ _ _ related => related.1) each
      have values := List.forall₂_map_left_iff.mpr
        (List.forall₂_map_right_iff.mpr (each.imp fun _ _ related => related.2))
      exact ⟨.object keys values, rests⟩
    | _ => cases forms

end Behind

theorem chars_eq_of_alike {document other : Document} (h : Alike document other) :
    document.chars = other.chars := by
  induction document using induction generalizing other with
  | float x =>
    cases h with
    | float digits => rw [chars, chars, digits]
  | list items ih =>
    cases h with
    | list each =>
      rw [chars, chars, allChars_eq_map, allChars_eq_map,
        map_eq_of_forall₂ (fun item member _ => ih item member) each]
  | object members ih =>
    cases h with
    | @object _ members' keys values =>
      have texts : ((sortMembers members).map Prod.snd).map chars =
          ((sortMembers members').map Prod.snd).map chars := by
        refine map_eq_of_forall₂ (fun value shown _ alike => ?_) values
        obtain ⟨member, present, rfl⟩ := List.mem_map.mp shown
        exact ih member (mem_of_mem_sortMembers present) alike
      have pairs (members : List (String × Document)) :
          ((sortMembers members).map Prod.fst).zip (((sortMembers members).map Prod.snd).map chars) =
            (sortMembers members).map fun member => (member.1, member.2.chars) := by
        rw [List.map_map, List.zip_map']
        rfl
      have same := pairs members
      rw [keys, texts, pairs members'] at same
      rw [chars, chars, memberTexts_eq_map, memberTexts_eq_map, sortMembers_map, sortMembers_map,
        same]
  | _ =>
    cases h
    rfl

/-- The compact text tells documents apart unless they are alike. -/
theorem text_eq_iff {document other : Document} :
    document.text = other.text ↔ Alike document other := by
  constructor
  · intro same
    have chars : document.chars ++ [] = other.chars ++ [] :=
      congrArg (· ++ []) (String.ofList_injective same)
    exact (alike_of_append_eq (by simp [Ends]) (by simp [Ends]) chars).1
  · intro alike
    rw [text, text, chars_eq_of_alike alike]

example : (Document.object [("b\t", .list [.null, .string "\x01"]), ("a", .bool true),
    ("a", .object [])]).text = "\x7b\"a\":\x7b\x7d,\"b\\t\":[null,\"\\u0001\"]\x7d" := by
  decide +kernel

end CaseLabel.Document
