import Mathlib.Data.Bool.Basic
import Mathlib.Data.List.Basic

/-!
# And/or trees with unknown leaves

A tree of conjunctions and disjunctions whose nodes may each be negated. `holds` is its truth under
an assignment to the leaves, `plain` what is left of that when negation is overlooked. Where
only some leaves are known, a completion extends them to all: a tree is `Possible` when some
completion makes it hold, and `Certain` when every one does. With negation overlooked the
assignment that takes every unknown leaf for true tells whether a tree is possible.
-/

namespace IsePortal.Library

universe u

/-- A leaf, or a conjunction or disjunction of subtrees; each with a mark for negation. -/
inductive AndOrTree (α : Type u) where
  | leaf (value : α) (isNegate : Bool)
  | block (isAnd : Bool) (children : List (AndOrTree α)) (isNegate : Bool)

namespace AndOrTree

variable {α : Type u}

/-- Induction with the hypothesis for every child of a block. -/
@[elab_as_elim] theorem induction {P : AndOrTree α → Prop}
    (leaf : ∀ value isNegate, P (.leaf value isNegate))
    (block : ∀ isAnd children isNegate, (∀ child ∈ children, P child) →
      P (.block isAnd children isNegate)) : ∀ tree, P tree
  | .leaf value isNegate => leaf value isNegate
  | .block isAnd children isNegate =>
      block isAnd children isNegate fun child _ => induction leaf block child
termination_by tree => sizeOf tree
decreasing_by
  rename_i hchild
  have hsmaller := List.sizeOf_lt_of_mem hchild
  rw [AndOrTree.block.sizeOf_spec]
  omega

mutual

/-- The leaves from left to right. -/
def leaves : AndOrTree α → List α
  | .leaf value _ => [value]
  | .block _ children _ => leavesOf children

def leavesOf : List (AndOrTree α) → List α
  | [] => []
  | child :: children => leaves child ++ leavesOf children

end

mutual

/-- The truth of a tree, negation overlooked. -/
def plain (truth : α → Bool) : AndOrTree α → Bool
  | .leaf value _ => truth value
  | .block isAnd children _ => if isAnd then plainAll truth children else plainAny truth children

def plainAll (truth : α → Bool) : List (AndOrTree α) → Bool
  | [] => true
  | child :: children => plain truth child && plainAll truth children

def plainAny (truth : α → Bool) : List (AndOrTree α) → Bool
  | [] => false
  | child :: children => plain truth child || plainAny truth children

end

mutual

/-- The truth of a tree, with negation applied at every node. -/
def holds (truth : α → Bool) : AndOrTree α → Bool
  | .leaf value isNegate => xor isNegate (truth value)
  | .block isAnd children isNegate =>
      xor isNegate (if isAnd then holdsAll truth children else holdsAny truth children)

def holdsAll (truth : α → Bool) : List (AndOrTree α) → Bool
  | [] => true
  | child :: children => holds truth child && holdsAll truth children

def holdsAny (truth : α → Bool) : List (AndOrTree α) → Bool
  | [] => false
  | child :: children => holds truth child || holdsAny truth children

end

mutual

/-- No node is marked for negation. -/
def negationFree : AndOrTree α → Bool
  | .leaf _ isNegate => !isNegate
  | .block _ children isNegate => !isNegate && negationFreeAll children

def negationFreeAll : List (AndOrTree α) → Bool
  | [] => true
  | child :: children => negationFree child && negationFreeAll children

end

theorem leavesOf_eq (children : List (AndOrTree α)) :
    leavesOf children = children.flatMap leaves := by
  induction children with
  | nil => rfl
  | cons child children ih => rw [leavesOf, ih, List.flatMap_cons]

theorem plainAll_eq (truth : α → Bool) (children : List (AndOrTree α)) :
    plainAll truth children = children.all (plain truth) := by
  induction children with
  | nil => rfl
  | cons child children ih => rw [plainAll, ih, List.all_cons]

theorem plainAny_eq (truth : α → Bool) (children : List (AndOrTree α)) :
    plainAny truth children = children.any (plain truth) := by
  induction children with
  | nil => rfl
  | cons child children ih => rw [plainAny, ih, List.any_cons]

theorem holdsAll_eq (truth : α → Bool) (children : List (AndOrTree α)) :
    holdsAll truth children = children.all (holds truth) := by
  induction children with
  | nil => rfl
  | cons child children ih => rw [holdsAll, ih, List.all_cons]

theorem holdsAny_eq (truth : α → Bool) (children : List (AndOrTree α)) :
    holdsAny truth children = children.any (holds truth) := by
  induction children with
  | nil => rfl
  | cons child children ih => rw [holdsAny, ih, List.any_cons]

theorem negationFreeAll_eq (children : List (AndOrTree α)) :
    negationFreeAll children = children.all negationFree := by
  induction children with
  | nil => rfl
  | cons child children ih => rw [negationFreeAll, ih, List.all_cons]

/-- Without negation nothing is overlooked. -/
theorem holds_eq_plain {tree : AndOrTree α} (h : tree.negationFree = true) (truth : α → Bool) :
    tree.holds truth = tree.plain truth := by
  induction tree using AndOrTree.induction with
  | leaf value isNegate =>
      rw [negationFree, Bool.not_eq_true'] at h
      rw [holds, plain, h, Bool.false_xor]
  | block isAnd children isNegate ih =>
      rw [negationFree, negationFreeAll_eq, Bool.and_eq_true, Bool.not_eq_true'] at h
      have hchildren : ∀ child ∈ children, child.holds truth = child.plain truth :=
        fun child hchild => ih child hchild (List.all_eq_true.mp h.2 child hchild)
      rw [holds, plain, h.1, Bool.false_xor, holdsAll_eq, holdsAny_eq, plainAll_eq, plainAny_eq]
      rw [Bool.eq_iff_iff]
      cases isAnd with
      | true =>
          simp only [if_true, List.all_eq_true]
          exact forall₂_congr fun child hchild => by rw [hchildren child hchild]
      | false =>
          simp only [Bool.false_eq_true, if_false, List.any_eq_true]
          refine exists_congr fun child => and_congr_right fun hchild => ?_
          rw [hchildren child hchild]

/-- Negation overlooked, a tree that holds still holds when more leaves do. -/
theorem plain_mono {truth other : α → Bool}
    (hle : ∀ value, truth value = true → other value = true) {tree : AndOrTree α}
    (h : tree.plain truth = true) : tree.plain other = true := by
  induction tree using AndOrTree.induction with
  | leaf value isNegate => exact hle value h
  | block isAnd children isNegate ih =>
      cases isAnd with
      | true =>
          simp only [plain, if_true, plainAll_eq, List.all_eq_true] at h ⊢
          exact fun child hchild => ih child hchild (h child hchild)
      | false =>
          simp only [plain, Bool.false_eq_true, if_false, plainAny_eq, List.any_eq_true] at h ⊢
          obtain ⟨child, hchild, hholds⟩ := h
          exact ⟨child, hchild, ih child hchild hholds⟩

/-! ## One node of a tree -/

/-- The same tree with the mark of its root the other way. -/
def flip : AndOrTree α → AndOrTree α
  | .leaf value isNegate => .leaf value (!isNegate)
  | .block isAnd children isNegate => .block isAnd children (!isNegate)

/-- The subtree at a path of child positions. -/
def subtree? : List Nat → AndOrTree α → Option (AndOrTree α)
  | [], tree => some tree
  | _ :: _, .leaf _ _ => none
  | position :: path, .block _ children _ => children[position]?.bind (subtree? path)

/-- Change the subtree at a path. -/
def modifyAt (change : AndOrTree α → AndOrTree α) : List Nat → AndOrTree α → AndOrTree α
  | [], tree => change tree
  | _ :: _, .leaf value isNegate => .leaf value isNegate
  | position :: path, .block isAnd children isNegate =>
      .block isAnd (children.modify position (modifyAt change path)) isNegate

theorem subtree?_modifyAt (change : AndOrTree α → AndOrTree α) (path : List Nat)
    (tree : AndOrTree α) :
    (tree.modifyAt change path).subtree? path = (tree.subtree? path).map change := by
  induction path generalizing tree with
  | nil => rfl
  | cons position path ih =>
      cases tree with
      | leaf value isNegate => rfl
      | block isAnd children isNegate =>
          show (children.modify position (modifyAt change path))[position]?.bind _ = _
          rw [List.getElem?_modify_eq, subtree?]
          cases children[position]? with
          | none => rfl
          | some child => exact ih child

/-! ## Unknown leaves -/

/-- An assignment that keeps what is known. -/
def Completes (known : α → Option Bool) (truth : α → Bool) : Prop :=
  ∀ value result, known value = some result → truth value = result

/-- Some completion makes the tree hold. -/
def Possible (known : α → Option Bool) (tree : AndOrTree α) : Prop :=
  ∃ truth, Completes known truth ∧ tree.holds truth = true

/-- Every completion makes the tree hold. -/
def Certain (known : α → Option Bool) (tree : AndOrTree α) : Prop :=
  ∀ truth, Completes known truth → tree.holds truth = true

/-- Take every unknown leaf for the given value. -/
def assume (known : α → Option Bool) (guess : Bool) (value : α) : Bool := (known value).getD guess

theorem completes_assume (known : α → Option Bool) (guess : Bool) :
    Completes known (assume known guess) := by
  intro value result hknown
  rw [assume, hknown, Option.getD_some]

theorem Certain.possible {known : α → Option Bool} {tree : AndOrTree α}
    (h : tree.Certain known) : tree.Possible known :=
  ⟨assume known true, completes_assume known true, h _ (completes_assume known true)⟩

/-- Some completion makes the tree hold, negation overlooked. -/
def PlainPossible (known : α → Option Bool) (tree : AndOrTree α) : Prop :=
  ∃ truth, Completes known truth ∧ tree.plain truth = true

/-- The completion to try is the one that takes every unknown leaf for true. -/
theorem plainPossible_iff {known : α → Option Bool} {tree : AndOrTree α} :
    tree.PlainPossible known ↔ tree.plain (assume known true) = true := by
  constructor
  · intro hpossible
    obtain ⟨truth, hcompletes, hholds⟩ := hpossible
    refine plain_mono (fun value hvalue => ?_) hholds
    cases hknown : known value with
    | none => rw [assume, hknown, Option.getD_none]
    | some result => rw [assume, hknown, Option.getD_some, ← hcompletes value result hknown, hvalue]
  · intro hplain
    exact ⟨assume known true, completes_assume known true, hplain⟩

theorem possible_iff_plainPossible {known : α → Option Bool} {tree : AndOrTree α}
    (h : tree.negationFree = true) : tree.Possible known ↔ tree.PlainPossible known := by
  simp only [Possible, PlainPossible, holds_eq_plain h]

end AndOrTree

end IsePortal.Library
