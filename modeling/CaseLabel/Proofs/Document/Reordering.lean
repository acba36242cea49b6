import CaseLabel.Proofs.Document.Conversion
import CaseLabel.Proofs.Document.Text
import CaseLabel.Template
import Mathlib.Data.List.Nodup

/-!
# Documents whose members were inserted in another order

`Reordered` relates documents that differ in the order of insertion only, in objects at any depth;
where a key is repeated, its last value is still the same. The compact text of an object is made of
the members that count, so it does not show that order (`chars_eq_of_reordered`), and the documents
are alike (`alike_of_reordered`). Main statement: neither do arguments, descriptions and filled
templates show it (`argument_of_reordered`).
-/

namespace CaseLabel.Document

/-- The members of objects in the documents may have been inserted in another order, at any depth.
The last value of each key is the same up to such an order. -/
inductive Reordered : Document → Document → Prop
  | refl (document : Document) : Reordered document document
  | list {items items' : List Document} (each : List.Forall₂ Reordered items items') :
      Reordered (.list items) (.list items')
  /-- The values are reordered first, then the members. -/
  | object {members middle members' : List (String × Document)}
      (keys : members.map Prod.fst = middle.map Prod.fst)
      (values : List.Forall₂ Reordered (members.map Prod.snd) (middle.map Prod.snd))
      (order : middle.Perm members')
      (last : ∀ key value value', lastValue? key members = some value →
        lastValue? key members' = some value' → Reordered value value') :
      Reordered (.object members) (.object members')

section Relation

variable {document document' : Document}

/-- Members without a repeated key may be inserted in any order. -/
theorem reordered_of_perm {members members' : List (String × Document)}
    (unique : (members.map Prod.fst).Nodup) (order : members.Perm members') :
    Reordered (.object members) (.object members') := by
  refine .object rfl (List.forall₂_same.mpr fun value _ => .refl value) order ?_
  intro key value value' found found'
  have member := mem_of_lastValue? found
  have member' := order.mem_iff.mpr (mem_of_lastValue? found')
  have same := List.inj_on_of_nodup_map unique member member' rfl
  cases same
  exact .refl value

/-- The compact text shows the members that count and not when they were inserted. -/
theorem chars_eq_of_reordered (h : Reordered document document') :
    document.chars = document'.chars := by
  induction document using induction generalizing document' with
  | list items ih =>
    cases h with
    | refl => rfl
    | list each =>
      rw [chars, chars, allChars_eq_map, allChars_eq_map,
        map_eq_of_forall₂ (fun item member _ => ih item member) each]
  | object members ih =>
    cases h with
    | refl => rfl
    | @object _ _ members' keys _ order last =>
      have sameKeys (key : String) : key ∈ members.map Prod.fst ↔ key ∈ members'.map Prod.fst := by
        rw [keys]
        exact (order.map Prod.fst).mem_iff
      have texts : sortMembers (memberTexts members) = sortMembers (memberTexts members') := by
        rw [memberTexts_eq_map, memberTexts_eq_map]
        apply sortMembers_map_congr sameKeys
        intro key value value' found found'
        exact ih (key, value) (mem_of_lastValue? found) (last key value value' found found')
      rw [chars, chars, texts]
  | _ =>
    cases h
    rfl

theorem alike_of_reordered (h : Reordered document document') : Alike document document' :=
  text_eq_iff.mp (congrArg String.ofList (chars_eq_of_reordered h))

theorem argument_eq_of_reordered (h : Reordered document document') :
    document.argument = document'.argument := by
  induction document using induction generalizing document' with
  | list items ih =>
    cases h with
    | refl => rfl
    | list each =>
      rw [argument, argument, arguments_eq_map, arguments_eq_map,
        map_eq_of_forall₂ (fun item member _ => ih item member) each]
  | object members ih =>
    have same := chars_eq_of_reordered h
    cases h with
    | refl => rfl
    | object => rw [argument, argument, text, text, same]
  | _ =>
    cases h
    rfl

end Relation

/-- An object is described by the members that count, in ascending order of keys and each with the
value that was inserted last. -/
theorem argument_object (members : List (String × Document)) :
    ∃ counted : List (String × Document), Ascending counted ∧
      (∀ key, counted.lookup key = lastValue? key members) ∧
      argument (.object members) = .object (some (String.ofList ('\x7b' ::
        List.intercalate [','] (counted.map fun member => memberChars (member.1, member.2.chars)) ++
          ['\x7d']))) := by
  refine ⟨sortMembers members, ascending_sortMembers members,
    fun key => lookup_sortMembers key members, ?_⟩
  rw [argument, text, chars_object]

/-- The order in which members were inserted does not reach the argument of a document, so it does
not show in descriptions and filled templates. What does reach it are, for an object, the keys in
ascending order, each with the value that was inserted last. -/
theorem argument_of_reordered {document document' : Document} (h : Reordered document document') :
    document.argument = document'.argument ∧
    (∀ members, document = .object members → ∃ counted : List (String × Document),
      Ascending counted ∧ (∀ key, counted.lookup key = lastValue? key members) ∧
      document.argument = .object (some (String.ofList ('\x7b' ::
        List.intercalate [','] (counted.map fun member => memberChars (member.1, member.2.chars)) ++
          ['\x7d'])))) ∧
    (∀ style : Style, style.describe document.argument = style.describe document'.argument) ∧
    ∀ (style : Style) (before behind : List Argument),
      style.describeAll (before ++ document.argument :: behind) =
        style.describeAll (before ++ document'.argument :: behind) ∧
      ∀ template, style.fill template (before ++ document.argument :: behind) =
        style.fill template (before ++ document'.argument :: behind) := by
  have same := argument_eq_of_reordered h
  refine ⟨same, fun members isObject => ?_, fun style => by rw [same], fun style before behind =>
    ⟨by rw [same], fun template => by rw [same]⟩⟩
  rw [isObject]
  exact argument_object members

/-- An object in a list in an object, both in another order, and a repeated key. -/
theorem argument_of_reordered_nested :
    let inner : Document := .object [("x", .null), ("y", .bool true)]
    let inner' : Document := .object [("y", .bool true), ("x", .null)]
    let document : Document :=
      .list [.object [("k", .null), ("l", .list [inner]), ("k", .string "last")]]
    let document' : Document :=
      .list [.object [("k", .null), ("k", .string "last"), ("l", .list [inner'])]]
    Reordered document document' ∧ document.argument = document'.argument ∧
      (Style.standard.describe document'.argument).value =
        "[\x7b\"k\":\"last\",\"l\":[\x7b\"x\":null,\"y\":true\x7d]\x7d]" := by
  intro inner inner' document document'
  have innerReordered : Reordered inner inner' := reordered_of_perm (by decide) (.swap _ _ _)
  have lists : Reordered (.list [inner]) (.list [inner']) := .list (.cons innerReordered .nil)
  have object : Reordered
      (.object [("k", .null), ("l", .list [inner]), ("k", .string "last")])
      (.object [("k", .null), ("k", .string "last"), ("l", .list [inner'])]) := by
    apply @Reordered.object _ [("k", .null), ("l", .list [inner']), ("k", .string "last")]
    · rfl
    · exact .cons (.refl _) (.cons lists (.cons (.refl _) .nil))
    · exact .cons _ (.swap _ _ _)
    · intro key value value' found found'
      by_cases isK : key = "k"
      · subst isK
        cases found
        cases found'
        exact .refl _
      · by_cases isL : key = "l"
        · subst isL
          cases found
          cases found'
          exact lists
        · rw [lastValue?_eq_none_iff.mpr (by simp [isK, isL])] at found
          cases found
  have reordered : Reordered document document' := .list (.cons object .nil)
  exact ⟨reordered, (argument_of_reordered reordered).1, by decide +kernel⟩

end CaseLabel.Document
