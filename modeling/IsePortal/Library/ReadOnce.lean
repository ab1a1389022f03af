import IsePortal.Library.AndOrTree
import Mathlib.Data.List.Nodup
import Mathlib.Data.List.Pairwise
import Mathlib.Data.List.Perm.Subperm
import Mathlib.Data.Set.Function
import Mathlib.Dynamics.FixedPoints.Basic

/-!
# Read-once trees under a substitution

A tree is read-once when no leaf value stands in it twice and no block of it is empty. Every leaf of
such a tree matters: under some assignment to the others it decides the truth of the tree. So a
substitution of the leaves after which the tree, with negation overlooked, still has the
truth of the original permutes the leaves; when repeating the substitution settles everywhere, it
keeps each of them. Negation can then be overlooked exactly where its marks cancel (`evenMarks`).
-/

namespace IsePortal.Library

universe u

/-! ## Settling substitutions -/

section Settles

variable {α : Type u} {f : α → α}

/-- Repeating `f` from a value on reaches a value that `f` keeps. -/
def Settles (f : α → α) (value : α) : Prop := ∃ n, Function.IsFixedPt f (f^[n] value)

theorem settles_of_eq {value : α} (h : f value = value) : Settles f value := ⟨0, h⟩

theorem Settles.of_next {value : α} (h : Settles f (f value)) : Settles f value := by
  obtain ⟨n, hfixed⟩ := h
  exact ⟨n + 1, hfixed⟩

/-- What settles does so after an embedding under which the two functions agree. -/
theorem Settles.map {β : Type u} {g : β → β} {embed : α → β} {value : α} (h : Settles f value)
    (hembed : Function.Semiconj embed f g) : Settles g (embed value) := by
  obtain ⟨n, hfixed⟩ := h
  refine ⟨n, ?_⟩
  rw [← hembed.iterate_right n value]
  exact hfixed.map hembed

/-- A substitution that settles and whose values cover a finite collection keeps the
collection: it permutes it, and a cycle never settles. -/
theorem eq_of_settles {values : List α} (hnodup : values.Nodup) (hcover : values ⊆ values.map f)
    (hsettles : ∀ value ∈ values, Settles f value) : ∀ value ∈ values, f value = value := by
  have hperm : values.Perm (values.map f) :=
    (List.Nodup.subperm hnodup hcover).perm_of_length_le (List.length_map f).le
  have hinj : Set.InjOn f {value | value ∈ values} := fun value hvalue other hother heq =>
    List.inj_on_of_nodup_map (hperm.nodup_iff.mp hnodup) hvalue hother heq
  have hmaps : Set.MapsTo f {value | value ∈ values} {value | value ∈ values} :=
    fun value hvalue => hperm.mem_iff.mpr (List.mem_map_of_mem hvalue)
  intro value hvalue
  obtain ⟨n, hfixed⟩ := hsettles value hvalue
  have hiterate : f^[n] (f value) = f^[n] value := by
    rw [← Function.iterate_succ_apply, Function.iterate_succ_apply']
    exact hfixed
  exact hinj.iterate hmaps n (hmaps hvalue) hvalue hiterate

end Settles

namespace AndOrTree

variable {α : Type u}

/-! ## The truth of a block -/

/-- A conjunction, or a disjunction, of the truth of the children. -/
def combine {β : Type u} (isAnd : Bool) (truth : β → Bool) (children : List β) : Bool :=
  if isAnd then children.all truth else children.any truth

theorem holds_block (truth : α → Bool) (isAnd : Bool) (children : List (AndOrTree α))
    (isNegate : Bool) :
    holds truth (.block isAnd children isNegate) =
      xor isNegate (combine isAnd (holds truth) children) := by
  rw [holds, holdsAll_eq, holdsAny_eq, combine]

theorem plain_block (truth : α → Bool) (isAnd : Bool) (children : List (AndOrTree α))
    (isNegate : Bool) :
    plain truth (.block isAnd children isNegate) = combine isAnd (plain truth) children := by
  rw [plain, plainAll_eq, plainAny_eq, combine]

theorem mem_leaves_block {value : α} {isAnd : Bool} {children : List (AndOrTree α)}
    {isNegate : Bool} :
    value ∈ leaves (.block isAnd children isNegate) ↔ ∃ child ∈ children, value ∈ child.leaves := by
  rw [leaves, leavesOf_eq, List.mem_flatMap]

section Combine

theorem eq_of_eq_iff_eq {left right neutral : Bool} (h : left = neutral ↔ right = neutral) :
    left = right := by
  cases left <;> cases right <;> cases neutral <;> simp_all

variable {β : Type u} {isAnd : Bool} {truth other : β → Bool} {children : List β}

/-- A conjunction is true, and a disjunction false, when all of its children are. -/
theorem combine_eq_neutral_iff :
    combine isAnd truth children = isAnd ↔ ∀ child ∈ children, truth child = isAnd := by
  cases isAnd with
  | true => exact List.all_eq_true
  | false => exact List.any_eq_false.trans (forall₂_congr fun child _ => by rw [Bool.not_eq_true])

theorem combine_congr (h : ∀ child ∈ children, truth child = other child) :
    combine isAnd truth children = combine isAnd other children := by
  have hneutral : combine isAnd truth children = isAnd ↔ combine isAnd other children = isAnd := by
    rw [combine_eq_neutral_iff, combine_eq_neutral_iff]
    exact forall₂_congr fun child hchild => by rw [h child hchild]
  exact eq_of_eq_iff_eq hneutral

theorem combine_map {γ : Type u} (f : γ → β) (sources : List γ) :
    combine isAnd truth (sources.map f) = combine isAnd (truth ∘ f) sources := by
  rw [combine, combine, List.all_map, List.any_map]

theorem combine_eq_of_forall (hne : children ≠ []) {result : Bool}
    (h : ∀ child ∈ children, truth child = result) : combine isAnd truth children = result := by
  obtain ⟨first, hfirst⟩ := List.exists_mem_of_ne_nil children hne
  have hiff : combine isAnd truth children = isAnd ↔ result = isAnd := by
    rw [combine_eq_neutral_iff]
    constructor
    · exact fun hall => (h first hfirst).symm.trans (hall first hfirst)
    · exact fun hresult child hchild => (h child hchild).trans hresult
  exact eq_of_eq_iff_eq hiff

/-- Where all other children are neutral, one child decides. -/
theorem combine_eq_of_neutral {child : β} (hchild : child ∈ children)
    (hneutral : ∀ sibling ∈ children, sibling ≠ child → truth sibling = isAnd) :
    combine isAnd truth children = truth child := by
  have hiff : combine isAnd truth children = isAnd ↔ truth child = isAnd := by
    rw [combine_eq_neutral_iff]
    constructor
    · exact fun hall => hall child hchild
    · intro htruth sibling hsibling
      by_cases hsame : sibling = child
      · rw [hsame, htruth]
      · exact hneutral sibling hsibling hsame
  exact eq_of_eq_iff_eq hiff

end Combine

/-! ## What a tree depends on -/

theorem holds_congr {truth other : α → Bool} {tree : AndOrTree α}
    (h : ∀ value ∈ tree.leaves, truth value = other value) :
    tree.holds truth = tree.holds other := by
  induction tree using AndOrTree.induction with
  | leaf value isNegate => rw [holds, holds, h value List.mem_cons_self]
  | block isAnd children isNegate ih =>
      rw [holds_block, holds_block]
      exact congrArg (xor isNegate) (combine_congr fun child hchild =>
        ih child hchild fun value hvalue => h value (mem_leaves_block.mpr ⟨child, hchild, hvalue⟩))

theorem plain_congr {truth other : α → Bool} {tree : AndOrTree α}
    (h : ∀ value ∈ tree.leaves, truth value = other value) :
    tree.plain truth = tree.plain other := by
  induction tree using AndOrTree.induction with
  | leaf value isNegate => exact h value List.mem_cons_self
  | block isAnd children isNegate ih =>
      rw [plain_block, plain_block]
      exact combine_congr fun child hchild =>
        ih child hchild fun value hvalue => h value (mem_leaves_block.mpr ⟨child, hchild, hvalue⟩)

/-! ## Read-once trees -/

mutual

/-- No block is without children. -/
def noEmptyBlock : AndOrTree α → Bool
  | .leaf _ _ => true
  | .block _ children _ => !children.isEmpty && noEmptyBlockAll children

def noEmptyBlockAll : List (AndOrTree α) → Bool
  | [] => true
  | child :: children => noEmptyBlock child && noEmptyBlockAll children

end

theorem noEmptyBlockAll_eq (children : List (AndOrTree α)) :
    noEmptyBlockAll children = children.all noEmptyBlock := by
  induction children with
  | nil => rfl
  | cons child children ih => rw [noEmptyBlockAll, ih, List.all_cons]

theorem noEmptyBlock_block {isAnd : Bool} {children : List (AndOrTree α)} {isNegate : Bool} :
    noEmptyBlock (.block isAnd children isNegate) = true ↔
      children ≠ [] ∧ ∀ child ∈ children, child.noEmptyBlock = true := by
  rw [noEmptyBlock, noEmptyBlockAll_eq, Bool.and_eq_true, List.all_eq_true, Bool.not_eq_true',
    List.isEmpty_eq_false_iff]

/-- No leaf value stands in the tree twice, and no block of it is empty. -/
structure ReadOnce (tree : AndOrTree α) : Prop where
  nodup : tree.leaves.Nodup
  noEmptyBlock : tree.noEmptyBlock = true

theorem exists_mem_leaves {tree : AndOrTree α} (h : tree.noEmptyBlock = true) :
    ∃ value, value ∈ tree.leaves := by
  induction tree using AndOrTree.induction with
  | leaf value isNegate => exact ⟨value, List.mem_cons_self⟩
  | block isAnd children isNegate ih =>
      obtain ⟨hne, hchildren⟩ := noEmptyBlock_block.mp h
      obtain ⟨child, hchild⟩ := List.exists_mem_of_ne_nil children hne
      obtain ⟨value, hvalue⟩ := ih child hchild (hchildren child hchild)
      exact ⟨value, mem_leaves_block.mpr ⟨child, hchild, hvalue⟩⟩

section ReadOnce

variable {isAnd : Bool} {children : List (AndOrTree α)} {isNegate : Bool}

theorem ReadOnce.child (h : ReadOnce (.block isAnd children isNegate)) {child : AndOrTree α}
    (hchild : child ∈ children) : ReadOnce child := by
  have hnodup := h.nodup
  rw [leaves, leavesOf_eq, List.nodup_flatMap] at hnodup
  exact ⟨hnodup.1 child hchild, (noEmptyBlock_block.mp h.noEmptyBlock).2 child hchild⟩

/-- A leaf value tells to which child of the block it belongs. -/
theorem ReadOnce.child_unique (h : ReadOnce (.block isAnd children isNegate))
    {child sibling : AndOrTree α} (hchild : child ∈ children) (hsibling : sibling ∈ children)
    {value : α} (hvalue : value ∈ child.leaves) (hother : value ∈ sibling.leaves) :
    child = sibling := by
  have hnodup := h.nodup
  rw [leaves, leavesOf_eq, List.nodup_flatMap] at hnodup
  by_contra hne
  have hsymm : Std.Symm (Function.onFun List.Disjoint (leaves (α := α))) :=
    ⟨fun _ _ hdisjoint _ hleft hright => hdisjoint hright hleft⟩
  exact hnodup.2.forall hchild hsibling hne hvalue hother

/-- The children of a block can be assigned to independently. -/
theorem ReadOnce.exists_assignment (h : ReadOnce (.block isAnd children isNegate))
    (assigned : AndOrTree α → α → Bool) :
    ∃ truth : α → Bool, ∀ child ∈ children, ∀ value ∈ child.leaves,
      truth value = assigned child value := by
  classical
  refine ⟨fun value => if hfound : ∃ child ∈ children, value ∈ child.leaves
    then assigned hfound.choose value else false, fun child hchild value hvalue => ?_⟩
  have hfound : ∃ child ∈ children, value ∈ child.leaves := ⟨child, hchild, hvalue⟩
  have hsame : hfound.choose = child :=
    h.child_unique hfound.choose_spec.1 hchild hfound.choose_spec.2 hvalue
  exact (dif_pos hfound).trans (by rw [hsame])

/-- One child of a block is assigned to as wanted, and its siblings each in their own way. -/
theorem ReadOnce.exists_around (h : ReadOnce (.block isAnd children isNegate))
    {child : AndOrTree α} (hchild : child ∈ children) (truth : α → Bool)
    (around : AndOrTree α → α → Bool) :
    ∃ joined : α → Bool, (∀ value ∈ child.leaves, joined value = truth value) ∧
      ∀ sibling ∈ children, sibling ≠ child →
        ∀ value ∈ sibling.leaves, joined value = around sibling value := by
  classical
  obtain ⟨joined, hjoined⟩ := h.exists_assignment (Function.update around child truth)
  refine ⟨joined, fun value hvalue => ?_, fun sibling hsibling hne value hvalue => ?_⟩
  · rw [hjoined child hchild value hvalue, Function.update_self]
  · rw [hjoined sibling hsibling value hvalue, Function.update_of_ne hne]

/-- Both truth values are attained. -/
theorem ReadOnce.attains {tree : AndOrTree α} (h : ReadOnce tree) (result : Bool) :
    ∃ truth, tree.holds truth = result := by
  induction tree using AndOrTree.induction generalizing result with
  | leaf value isNegate =>
      refine ⟨fun _ => xor isNegate result, ?_⟩
      rw [holds, ← Bool.xor_assoc, Bool.xor_self, Bool.false_xor]
  | block isAnd children isNegate ih =>
      obtain ⟨hne, -⟩ := noEmptyBlock_block.mp h.noEmptyBlock
      choose! assigned hassigned using fun child hchild =>
        ih child hchild (h.child hchild) (xor isNegate result)
      obtain ⟨truth, htruth⟩ := h.exists_assignment assigned
      have hchildren : ∀ child ∈ children, child.holds truth = xor isNegate result :=
        fun child hchild => (holds_congr (htruth child hchild)).trans (hassigned child hchild)
      refine ⟨truth, ?_⟩
      rw [holds_block, combine_eq_of_forall hne hchildren, ← Bool.xor_assoc, Bool.xor_self,
        Bool.false_xor]

/-- Every leaf decides under some assignment to the others. -/
theorem ReadOnce.essential [DecidableEq α] {tree : AndOrTree α} (h : ReadOnce tree) {value : α}
    (hvalue : value ∈ tree.leaves) :
    ∃ truth : α → Bool, tree.holds (Function.update truth value true) ≠
      tree.holds (Function.update truth value false) := by
  induction tree using AndOrTree.induction with
  | leaf leafValue isNegate =>
      obtain rfl : value = leafValue := List.mem_singleton.mp hvalue
      refine ⟨fun _ => false, fun heq => ?_⟩
      rw [holds, holds, Function.update_self, Function.update_self, Bool.xor_right_inj] at heq
      exact Bool.noConfusion heq
  | block isAnd children isNegate ih =>
      obtain ⟨child, hchild, hleaf⟩ := mem_leaves_block.mp hvalue
      obtain ⟨truth, htruth⟩ := ih child hchild (h.child hchild) hleaf
      choose! around haround using fun sibling (hsibling : sibling ∈ children) =>
        (h.child hsibling).attains isAnd
      obtain ⟨joined, hchildTruth, hsiblings⟩ := h.exists_around hchild truth around
      -- the siblings are neutral whatever the leaf is, so the block says what the child says
      have hblock : ∀ result, combine isAnd (holds (Function.update joined value result)) children =
          child.holds (Function.update truth value result) := by
        intro result
        have hneutral : ∀ sibling ∈ children, sibling ≠ child →
            sibling.holds (Function.update joined value result) = isAnd := by
          intro sibling hsibling hne
          refine (holds_congr fun other hother => ?_).trans (haround sibling hsibling)
          have hdiffers : other ≠ value := by
            rintro rfl
            exact hne (h.child_unique hsibling hchild hother hleaf)
          rw [Function.update_of_ne hdiffers, hsiblings sibling hsibling hne other hother]
        rw [combine_eq_of_neutral hchild hneutral]
        refine holds_congr fun other hother => ?_
        by_cases hsame : other = value
        · rw [hsame, Function.update_self, Function.update_self]
        · rw [Function.update_of_ne hsame, Function.update_of_ne hsame, hchildTruth other hother]
      refine ⟨joined, fun heq => htruth ?_⟩
      rw [holds_block, holds_block, hblock, hblock, Bool.xor_right_inj] at heq
      exact heq

end ReadOnce

/-! ## Marks that cancel -/

mutual

/-- The number of marks down to every leaf, and down to every block that does not have exactly one
child, is even; `odd` tells whether it is odd above the tree. -/
def evenMarks (odd : Bool) : AndOrTree α → Bool
  | .leaf _ isNegate => !xor odd isNegate
  | .block _ children isNegate =>
      (children.length == 1 || !xor odd isNegate) && evenMarksAll (xor odd isNegate) children

def evenMarksAll (odd : Bool) : List (AndOrTree α) → Bool
  | [] => true
  | child :: children => evenMarks odd child && evenMarksAll odd children

end

theorem evenMarksAll_eq (odd : Bool) (children : List (AndOrTree α)) :
    evenMarksAll odd children = children.all (evenMarks odd) := by
  induction children with
  | nil => rfl
  | cons child children ih => rw [evenMarksAll, ih, List.all_cons]

section EvenMarks

variable {odd isAnd : Bool} {children : List (AndOrTree α)} {isNegate : Bool}

theorem evenMarks_block :
    evenMarks odd (.block isAnd children isNegate) = true ↔
      (children.length = 1 ∨ xor odd isNegate = false) ∧
        ∀ child ∈ children, evenMarks (xor odd isNegate) child = true := by
  rw [evenMarks, evenMarksAll_eq, Bool.and_eq_true, List.all_eq_true, Bool.or_eq_true, beq_iff_eq,
    Bool.not_eq_true']

theorem combine_singleton {β : Type u} (truth : β → Bool) (only : β) :
    combine isAnd truth [only] = truth only :=
  combine_eq_of_forall (List.cons_ne_nil _ _) fun child hchild => by
    rw [List.mem_singleton.mp hchild]

/-- Where the marks cancel, they can be overlooked. -/
theorem holds_eq_plain_of_evenMarks {tree : AndOrTree α} (h : evenMarks odd tree = true)
    (truth : α → Bool) : xor odd (tree.holds truth) = tree.plain truth := by
  induction tree using AndOrTree.induction generalizing odd with
  | leaf value isNegate =>
      rw [evenMarks, Bool.not_eq_true'] at h
      rw [holds, plain, ← Bool.xor_assoc, h, Bool.false_xor]
  | block isAnd children isNegate ih =>
      obtain ⟨hchoice, hchildren⟩ := evenMarks_block.mp h
      rw [holds_block, plain_block, ← Bool.xor_assoc]
      rcases hchoice with hlength | heven
      · obtain ⟨only, rfl⟩ := List.length_eq_one_iff.mp hlength
        rw [combine_singleton, combine_singleton]
        exact ih only List.mem_cons_self (hchildren only List.mem_cons_self)
      · rw [heven, Bool.false_xor]
        refine combine_congr fun child hchild => ?_
        have heq := ih child hchild (hchildren child hchild)
        rwa [heven, Bool.false_xor] at heq

/-- With one truth for all leaves, a tree without negation has that truth. -/
theorem plain_const {tree : AndOrTree α} (h : tree.noEmptyBlock = true) (result : Bool) :
    tree.plain (fun _ => result) = result := by
  induction tree using AndOrTree.induction with
  | leaf value isNegate => rfl
  | block isAnd children isNegate ih =>
      obtain ⟨hne, hchildren⟩ := noEmptyBlock_block.mp h
      rw [plain_block]
      exact combine_eq_of_forall hne fun child hchild => ih child hchild (hchildren child hchild)

/-- Two children of a read-once tree differ. -/
theorem ReadOnce.nodup_children (h : ReadOnce (.block isAnd children isNegate)) :
    children.Nodup := by
  have hnodup := h.nodup
  rw [leaves, leavesOf_eq, List.nodup_flatMap] at hnodup
  refine hnodup.2.imp_of_mem fun {child sibling} hchild _ hdisjoint hsame => ?_
  obtain ⟨value, hvalue⟩ := exists_mem_leaves (h.child hchild).noEmptyBlock
  exact hdisjoint hvalue (hsame ▸ hvalue)

theorem ReadOnce.exists_sibling (h : ReadOnce (.block isAnd children isNegate))
    (hlength : children.length ≠ 1) {child : AndOrTree α} (hchild : child ∈ children) :
    ∃ sibling ∈ children, sibling ≠ child := by
  by_contra hnone
  push Not at hnone
  have hconst : children = List.replicate children.length child :=
    List.eq_replicate_iff.mpr ⟨rfl, hnone⟩
  have hshort : children.length ≤ 1 :=
    List.nodup_replicate.mp (hconst ▸ h.nodup_children)
  have hlong : 0 < children.length := List.length_pos_of_mem hchild
  omega

/-- Over a choice, the marks of a read-once tree cannot be odd in number. -/
theorem ReadOnce.even_of_eq_plain (h : ReadOnce (.block isAnd children isNegate))
    (hlength : children.length ≠ 1)
    (heq : ∀ truth, xor odd (combine isAnd (holds truth) children) =
      combine isAnd (plain truth) children) : odd = false := by
  by_contra hodd
  rw [Bool.not_eq_false] at hodd
  have hopposite : ∀ truth, combine isAnd (plain truth) children = !isAnd →
      ∀ child ∈ children, child.holds truth = isAnd := by
    intro truth hplain
    have hholds := heq truth
    rw [hodd, hplain, Bool.true_xor] at hholds
    exact combine_eq_neutral_iff.mp (Bool.not_inj hholds)
  have hneutral : ∀ child ∈ children, child.holds (fun _ => isAnd) = isAnd := by
    intro child hchild
    obtain ⟨sibling, hsibling, hne⟩ := h.exists_sibling hlength hchild
    obtain ⟨joined, hdecider, hrest⟩ :=
      h.exists_around hsibling (fun _ => !isAnd) fun _ _ => isAnd
    have hplain : combine isAnd (plain joined) children = !isAnd := by
      have hothers : ∀ other ∈ children, other ≠ sibling → other.plain joined = isAnd :=
        fun other hother hdiffers => (plain_congr (hrest other hother hdiffers)).trans
          (plain_const (h.child hother).noEmptyBlock isAnd)
      rw [combine_eq_of_neutral hsibling hothers, plain_congr hdecider]
      exact plain_const (h.child hsibling).noEmptyBlock (!isAnd)
    have hholds := hopposite joined hplain child hchild
    rwa [holds_congr (hrest child hchild hne.symm)] at hholds
  have hplain : combine isAnd (plain fun _ => isAnd) children = isAnd :=
    combine_eq_neutral_iff.mpr fun child hchild =>
      plain_const (h.child hchild).noEmptyBlock isAnd
  have hboth := heq fun _ => isAnd
  rw [hodd, hplain, combine_eq_neutral_iff.mpr hneutral, Bool.true_xor] at hboth
  exact Bool.not_ne_self isAnd hboth

/-- In a read-once tree the marks can be overlooked only where they cancel. -/
theorem ReadOnce.evenMarks_of_eq_plain {tree : AndOrTree α} (h : ReadOnce tree)
    (heq : ∀ truth, xor odd (tree.holds truth) = tree.plain truth) :
    tree.evenMarks odd = true := by
  induction tree using AndOrTree.induction generalizing odd with
  | leaf value isNegate =>
      have hvalue := heq fun _ => false
      rw [holds, plain, Bool.xor_false] at hvalue
      rw [evenMarks, hvalue, Bool.not_false]
  | block isAnd children isNegate ih =>
      have hcombine : ∀ truth, xor (xor odd isNegate) (combine isAnd (holds truth) children) =
          combine isAnd (plain truth) children := by
        intro truth
        have hblock := heq truth
        rwa [holds_block, plain_block, ← Bool.xor_assoc] at hblock
      refine evenMarks_block.mpr ?_
      by_cases hlength : children.length = 1
      · refine ⟨.inl hlength, ?_⟩
        obtain ⟨only, rfl⟩ := List.length_eq_one_iff.mp hlength
        intro child hchild
        refine ih child hchild (h.child hchild) fun truth => ?_
        have honly := hcombine truth
        rw [combine_singleton, combine_singleton] at honly
        rwa [List.mem_singleton.mp hchild]
      · have heven := h.even_of_eq_plain hlength hcombine
        rw [heven] at hcombine ⊢
        refine ⟨.inr rfl, fun child hchild => ih child hchild (h.child hchild) fun truth => ?_⟩
        -- the siblings are neutral under one truth for all, on either side of the equation
        have hneutral : ∀ sibling ∈ children, sibling.plain (fun _ => isAnd) = isAnd :=
          fun sibling hsibling => plain_const (h.child hsibling).noEmptyBlock isAnd
        have hholds : ∀ sibling ∈ children, sibling.holds (fun _ => isAnd) = isAnd := by
          have hboth := hcombine fun _ => isAnd
          rw [Bool.false_xor, combine_eq_neutral_iff.mpr hneutral] at hboth
          exact combine_eq_neutral_iff.mp hboth
        obtain ⟨joined, hchildTruth, hrest⟩ := h.exists_around hchild truth fun _ _ => isAnd
        have hleft : combine isAnd (holds joined) children = child.holds truth := by
          rw [combine_eq_of_neutral hchild fun sibling hsibling hne =>
            (holds_congr (hrest sibling hsibling hne)).trans (hholds sibling hsibling)]
          exact holds_congr hchildTruth
        have hright : combine isAnd (plain joined) children = child.plain truth := by
          rw [combine_eq_of_neutral hchild fun sibling hsibling hne =>
            (plain_congr (hrest sibling hsibling hne)).trans (hneutral sibling hsibling)]
          exact plain_congr hchildTruth
        have hboth := hcombine joined
        rwa [hleft, hright] at hboth

end EvenMarks

/-! ## Substituted leaves -/

/-- A substitution that keeps the leaves, and marks that cancel, leave the truth of a tree. -/
theorem holds_eq_plain_comp {substitute : α → α} {tree : AndOrTree α}
    (hkept : ∀ value ∈ tree.leaves, substitute value = value) (heven : tree.evenMarks false = true)
    (truth : α → Bool) : tree.holds truth = tree.plain (truth ∘ substitute) := by
  have hsame : tree.plain (truth ∘ substitute) = tree.plain truth :=
    plain_congr fun value hvalue => congrArg truth (hkept value hvalue)
  rw [hsame, ← holds_eq_plain_of_evenMarks heven truth, Bool.false_xor]

/-- In a read-once tree, a substitution that settles leaves the truth only when it keeps the leaves
and the marks cancel. -/
theorem ReadOnce.holds_eq_plain_comp_iff {substitute : α → α} {tree : AndOrTree α}
    (h : ReadOnce tree) (hsettles : ∀ value ∈ tree.leaves, Settles substitute value) :
    (∀ truth : α → Bool, tree.holds truth = tree.plain (truth ∘ substitute)) ↔
      (∀ value ∈ tree.leaves, substitute value = value) ∧ tree.evenMarks false = true := by
  classical
  constructor
  · intro heq
    have hcover : tree.leaves ⊆ tree.leaves.map substitute := by
      intro value hvalue
      obtain ⟨truth, hdecides⟩ := h.essential hvalue
      by_contra hmissed
      refine hdecides ?_
      rw [heq, heq]
      refine plain_congr fun leaf hleaf => ?_
      have hdiffers : substitute leaf ≠ value :=
        fun hsame => hmissed (List.mem_map.mpr ⟨leaf, hleaf, hsame⟩)
      rw [Function.comp_apply, Function.comp_apply, Function.update_of_ne hdiffers,
        Function.update_of_ne hdiffers]
    have hkept := eq_of_settles h.nodup hcover hsettles
    refine ⟨hkept, h.evenMarks_of_eq_plain fun truth => ?_⟩
    rw [Bool.false_xor, heq]
    exact plain_congr fun value hvalue => congrArg truth (hkept value hvalue)
  · rintro ⟨hkept, heven⟩
    exact holds_eq_plain_comp hkept heven

end AndOrTree

end IsePortal.Library
