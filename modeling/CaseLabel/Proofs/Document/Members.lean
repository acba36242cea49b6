import CaseLabel.Document.Basic
import Mathlib.Data.List.Induction

/-!
# The members that count

The members of an object count in ascending order of their keys (`ascending_sortMembers`), each key
with the value of the last member that has it (`lookup_sortMembers`). Main statement: which members
count depends on these values only (`sortMembers_congr`, `sortMembers_map_congr`).
-/

namespace CaseLabel

section Members

variable {α : Type} {members others : List (String × α)} {key : String} {value : α}

/-- The value of the last member that has the key. -/
def lastValue? (key : String) (members : List (String × α)) : Option α :=
  members.reverse.lookup key

theorem lookup_cons_eq_ite (member : String × α) :
    (member :: members).lookup key =
      if key = member.1 then some member.2 else members.lookup key := by
  rw [List.lookup_cons]
  by_cases same : key = member.1
  · simp [same]
  · simp [same, beq_false_of_ne same]

theorem mem_of_lastValue? (h : lastValue? key members = some value) : (key, value) ∈ members := by
  obtain ⟨before, behind, found, -⟩ := List.lookup_eq_some_iff.mp h
  rw [← List.mem_reverse, found]
  simp

theorem lastValue?_eq_none_iff : lastValue? key members = none ↔ key ∉ members.map Prod.fst := by
  rw [lastValue?, List.lookup_eq_none_iff]
  constructor
  · intro absent present
    obtain ⟨member, found, rfl⟩ := List.mem_map.mp present
    simpa using absent member (List.mem_reverse.mpr found)
  · intro absent member found
    rw [bne_iff_ne]
    rintro rfl
    exact absent (List.mem_map_of_mem (List.mem_reverse.mp found))

theorem lastValue?_concat (member : String × α) :
    lastValue? key (members ++ [member]) =
      if key = member.1 then some member.2 else lastValue? key members := by
  rw [lastValue?, List.reverse_concat, lookup_cons_eq_ite, lastValue?]

theorem lookup_map {β : Type} (f : α → β) (members : List (String × α)) :
    (members.map fun member => (member.1, f member.2)).lookup key = (members.lookup key).map f := by
  induction members with
  | nil => rfl
  | cons member rest ih =>
    rw [List.map_cons, lookup_cons_eq_ite, lookup_cons_eq_ite, ih]
    split <;> rfl

theorem lastValue?_map {β : Type} (f : α → β) :
    lastValue? key (members.map fun member => (member.1, f member.2)) =
      (lastValue? key members).map f := by
  rw [lastValue?, ← List.map_reverse, lookup_map, lastValue?]

/-- The keys ascend, so no two members have the same key. -/
def Ascending (members : List (String × α)) : Prop := members.Pairwise fun m m' => m.1 < m'.1

theorem mem_insertMember {member : String × α} (h : member ∈ insertMember key value members) :
    member = (key, value) ∨ member ∈ members := by
  induction members with
  | nil => exact .inl (List.mem_singleton.mp h)
  | cons first rest ih =>
    rw [insertMember] at h
    split at h
    · exact List.mem_cons.mp h
    · split at h
      · exact (List.mem_cons.mp h).imp_right (List.mem_cons_of_mem _)
      · rcases List.mem_cons.mp h with same | later
        · exact .inr (same ▸ List.mem_cons_self)
        · exact (ih later).imp_right (List.mem_cons_of_mem _)

theorem ascending_insertMember (h : Ascending members) :
    Ascending (insertMember key value members) := by
  induction members with
  | nil => exact List.pairwise_singleton _ _
  | cons first rest ih =>
    obtain ⟨behind, ordered⟩ := List.pairwise_cons.mp h
    rw [insertMember]
    split
    next before =>
      refine List.Pairwise.cons ?_ h
      intro member present
      rcases List.mem_cons.mp present with rfl | later
      · exact before
      · exact String.lt_trans before (behind member later)
    next notBefore =>
      split
      next same => exact List.Pairwise.cons (same ▸ behind) ordered
      next different =>
        refine List.Pairwise.cons ?_ (ih ordered)
        intro member present
        rcases mem_insertMember present with rfl | later
        · apply String.not_le.mp
          intro le
          exact different (String.le_antisymm le (String.not_lt.mp notBefore))
        · exact behind member later

theorem lookup_insertMember (other : String) :
    (insertMember key value members).lookup other =
      if other = key then some value else members.lookup other := by
  induction members with
  | nil => rw [insertMember, lookup_cons_eq_ite]
  | cons first rest ih =>
    rw [insertMember]
    split
    · rw [lookup_cons_eq_ite]
    · split
      next same =>
        rw [lookup_cons_eq_ite, lookup_cons_eq_ite, same]
        split <;> rfl
      next different =>
        rw [lookup_cons_eq_ite, lookup_cons_eq_ite, ih]
        by_cases isKey : other = key
        · simp [isKey, different]
        · simp [isKey]

/-- A member is found by its key. -/
theorem mem_iff_lookup (h : Ascending members) :
    (key, value) ∈ members ↔ members.lookup key = some value := by
  induction members with
  | nil => simp
  | cons first rest ih =>
    obtain ⟨key', value'⟩ := first
    obtain ⟨behind, ordered⟩ := List.pairwise_cons.mp h
    rw [List.mem_cons, lookup_cons_eq_ite, ih ordered, Prod.mk.injEq]
    by_cases same : key = key'
    · subst same
      have absent : ¬ rest.lookup key = some value := fun found =>
        String.lt_irrefl key (behind _ ((ih ordered).mpr found))
      simp [absent, eq_comm]
    · simp [same]

theorem eq_of_lookup_eq (h : Ascending members) (h' : Ascending others)
    (same : ∀ key, members.lookup key = others.lookup key) : members = others := by
  have nodup {members : List (String × α)} (h : Ascending members) : members.Nodup := by
    apply List.Pairwise.imp _ h
    rintro m m' before rfl
    exact String.lt_irrefl _ before
  have permuted : members.Perm others := by
    rw [List.perm_ext_iff_of_nodup (nodup h) (nodup h')]
    rintro ⟨key, value⟩
    rw [mem_iff_lookup h, mem_iff_lookup h', same]
  exact permuted.eq_of_pairwise (fun _ _ _ _ before after => absurd after (String.lt_asymm before))
    h h'

end Members

section Sorting

variable {α : Type} {members others : List (String × α)}

theorem sortMembers_concat (member : String × α) :
    sortMembers (members ++ [member]) = insertMember member.1 member.2 (sortMembers members) := by
  rw [sortMembers, List.foldl_append, sortMembers]
  rfl

theorem ascending_sortMembers (members : List (String × α)) : Ascending (sortMembers members) := by
  induction members using List.reverseRecOn with
  | nil => exact .nil
  | append_singleton members member ih =>
    rw [sortMembers_concat]
    exact ascending_insertMember ih

/-- A key counts with its last value. -/
theorem lookup_sortMembers (key : String) (members : List (String × α)) :
    (sortMembers members).lookup key = lastValue? key members := by
  induction members using List.reverseRecOn with
  | nil => rfl
  | append_singleton members member ih =>
    rw [sortMembers_concat, lookup_insertMember, lastValue?_concat, ih]

/-- The order of insertion does not matter as long as each key ends up with the same value. -/
theorem mem_of_mem_sortMembers {member : String × α} (h : member ∈ sortMembers members) :
    member ∈ members := by
  have found := (mem_iff_lookup (ascending_sortMembers members)).mp h
  rw [lookup_sortMembers] at found
  exact mem_of_lastValue? found

theorem sortMembers_congr (same : ∀ key, lastValue? key members = lastValue? key others) :
    sortMembers members = sortMembers others := by
  apply eq_of_lookup_eq (ascending_sortMembers members) (ascending_sortMembers others)
  intro key
  rw [lookup_sortMembers, lookup_sortMembers, same]

theorem sortMembers_map {β : Type} (f : α → β) (members : List (String × α)) :
    sortMembers (members.map fun member => (member.1, f member.2)) =
      (sortMembers members).map fun member => (member.1, f member.2) := by
  have ascending : Ascending ((sortMembers members).map fun member => (member.1, f member.2)) :=
    List.pairwise_map.mpr (ascending_sortMembers members)
  apply eq_of_lookup_eq (ascending_sortMembers _) ascending
  intro key
  rw [lookup_sortMembers, lastValue?_map, lookup_map, lookup_sortMembers]

/-- Of the values only what `f` shows of the last ones matters. -/
theorem sortMembers_map_congr {β : Type} {f : α → β}
    (keys : ∀ key, key ∈ members.map Prod.fst ↔ key ∈ others.map Prod.fst)
    (last : ∀ key value value', lastValue? key members = some value →
      lastValue? key others = some value' → f value = f value') :
    sortMembers (members.map fun member => (member.1, f member.2)) =
      sortMembers (others.map fun member => (member.1, f member.2)) := by
  apply sortMembers_congr
  intro key
  rw [lastValue?_map, lastValue?_map]
  cases found : lastValue? key members with
  | none =>
    have absent := lastValue?_eq_none_iff.mp found
    rw [lastValue?_eq_none_iff.mpr (mt (keys key).mpr absent)]
  | some value =>
    cases found' : lastValue? key others with
    | none =>
      have absent := mt (keys key).mp (lastValue?_eq_none_iff.mp found')
      rw [lastValue?_eq_none_iff.mpr absent] at found
      cases found
    | some value' => exact congrArg some (last key value value' found found')

end Sorting

end CaseLabel
