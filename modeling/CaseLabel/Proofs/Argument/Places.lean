import CaseLabel.Proofs.Argument.Printable

/-!
# Nodes and places in an argument

An argument is walked from the left and downwards: first itself, then its items one after the other.
The number of objects without a description is the number of such nodes (`undescribed_eq_countP`),
so the events of a description are one for each of them in the order of the walk.

A path leads down through lists: each number of it says which item of a list comes next. What
occurs in an argument is what some path leads to (`occurs_iff_exists_itemAt`), and what its nodes
are (`mem_nodes_iff_occurs`). A path to a scalar may end in an array, with the place there as its
last number.
-/

namespace CaseLabel.Argument

mutual

/-- The argument and, if it is a list, then the nodes of its items. -/
def nodes : Argument → List Argument
  | .list items => .list items :: nodesAll items
  | argument => [argument]

/-- The nodes of arguments, one after the other. -/
def nodesAll : List Argument → List Argument
  | [] => []
  | item :: rest => nodes item ++ nodesAll rest

end

/-- An object that has no description. -/
def isUndescribed : Argument → Bool
  | .object none => true
  | _ => false

mutual

/-- The objects without a description are the nodes that are one. -/
theorem undescribed_eq_countP :
    (argument : Argument) → argument.undescribed = argument.nodes.countP isUndescribed
  | .null => rfl
  | .text _ => rfl
  | .scalar _ => rfl
  | .scalars _ => rfl
  | .object none => rfl
  | .object (some _) => rfl
  | .list items => by
    rw [undescribed, nodes, undescribedAll_eq_countP items, List.countP_cons_of_neg]
    simp [isUndescribed]

theorem undescribedAll_eq_countP :
    (arguments : List Argument) →
      undescribedAll arguments = (nodesAll arguments).countP isUndescribed
  | [] => rfl
  | item :: rest => by
    rw [undescribedAll, nodesAll, List.countP_append, undescribed_eq_countP item,
      undescribedAll_eq_countP rest]

end

/-- What holds of a list if it holds of its items, and of all other forms, holds of every
argument. -/
@[elab_as_elim]
theorem induction {motive : Argument → Prop} (null : motive .null) (text : ∀ t, motive (.text t))
    (scalar : ∀ s, motive (.scalar s)) (scalars : ∀ array, motive (.scalars array))
    (list : ∀ items, (∀ item ∈ items, motive item) → motive (.list items))
    (object : ∀ description, motive (.object description)) (argument : Argument) :
    motive argument :=
  @Argument.rec motive (fun items => ∀ item ∈ items, motive item) null text scalar scalars list
    object (by simp) (fun _ _ first rest => List.forall_mem_cons.mpr ⟨first, rest⟩) argument

/-- The argument that a path leads to. -/
def itemAt : Argument → List Nat → Option Argument
  | argument, [] => some argument
  | .list items, i :: path => items[i]?.bind fun item => itemAt item path
  | _, _ :: _ => none

/-- The scalar that a path leads to, alone or in an array. -/
def scalarAt : Argument → List Nat → Option Scalar
  | .scalar s, [] => some s
  | .scalars array, [i] => array.scalars[i]?
  | .list items, i :: path => items[i]?.bind fun item => scalarAt item path
  | _, _ => none

theorem occurs_iff_exists_itemAt {inner argument : Argument} :
    Occurs inner argument ↔ ∃ path, argument.itemAt path = some inner := by
  constructor
  · intro occurs
    induction occurs with
    | self => exact ⟨[], by rw [itemAt]⟩
    | inList member _ ih =>
      obtain ⟨i, found⟩ := List.mem_iff_getElem?.mp member
      obtain ⟨path, leads⟩ := ih
      exact ⟨i :: path, by rw [itemAt, found, Option.bind_some, leads]⟩
  · rintro ⟨path, leads⟩
    induction path generalizing argument with
    | nil =>
      rw [itemAt, Option.some.injEq] at leads
      exact leads ▸ .self _
    | cons i path ih =>
      cases argument with
      | list items =>
        rw [itemAt] at leads
        obtain ⟨item, found, leads⟩ := Option.bind_eq_some_iff.mp leads
        exact .inList (List.mem_of_getElem? found) (ih leads)
      | _ => simp [itemAt] at leads

theorem nodesAll_eq_flatMap (arguments : List Argument) :
    nodesAll arguments = arguments.flatMap nodes := by
  induction arguments with
  | nil => rfl
  | cons item rest ih => rw [nodesAll, List.flatMap_cons, ih]

theorem mem_nodes_iff_occurs {inner argument : Argument} :
    inner ∈ argument.nodes ↔ Occurs inner argument := by
  have leaf {argument : Argument} (notList : ∀ items, argument ≠ .list items) :
      inner ∈ [argument] ↔ Occurs inner argument := by
    rw [List.mem_singleton]
    exact ⟨fun same => same ▸ .self _, fun occurs => occurs.eq_of_not_list notList⟩
  induction argument using induction with
  | null => exact leaf (by simp)
  | text t => exact leaf (by simp)
  | scalar s => exact leaf (by simp)
  | scalars array => exact leaf (by simp)
  | object description => exact leaf (by simp)
  | list items ih =>
    rw [nodes, List.mem_cons, nodesAll_eq_flatMap, List.mem_flatMap]
    constructor
    · rintro (rfl | ⟨item, member, deeper⟩)
      · exact .self _
      · exact .inList member ((ih item member).mp deeper)
    · intro occurs
      cases occurs with
      | self => exact .inl rfl
      | inList member deeper => exact .inr ⟨_, member, (ih _ member).mpr deeper⟩

/-- Nothing is described by a mark for want of a description exactly if no such object occurs. -/
theorem undescribed_eq_zero_iff {argument : Argument} :
    argument.undescribed = 0 ↔ ¬ Occurs (.object none) argument := by
  rw [undescribed_eq_countP, List.countP_eq_zero, ← mem_nodes_iff_occurs]
  constructor
  · intro none member
    exact none _ member rfl
  · intro absent node member isUndescribed
    cases node with
    | object description =>
      cases description with
      | none => exact absent member
      | some => cases isUndescribed
    | _ => cases isUndescribed

end CaseLabel.Argument
