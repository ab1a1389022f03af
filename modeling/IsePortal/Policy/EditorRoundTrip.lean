import IsePortal.Policy.EditorRows

/-!
# Opening and saving a rule

What the editor saves for an unedited rule is the tree of the rule with every leaf replaced by the
test that its row shows, and with no mark of negation left. So the rule keeps its meaning where
every row keeps its test and the marks of negation cancel; where no test stands twice in the
rule, it keeps its meaning only there.
-/

namespace IsePortal

open Library

/-- The condition that is saved for a rule opened and not edited. -/
def savedUnedited (caValues : KnownValues) (cond : Condition) : Option Condition :=
  readGroupCondition (groupEditorHtml caValues (some cond))

/-- A condition is saved, and it has the truth of the original whatever the leaves are. -/
def MeansTheSame (caValues : KnownValues) (cond : Condition) : Prop :=
  ∃ saved, savedUnedited caValues cond = some saved ∧
    ∀ truth : ConditionLeaf → Bool, saved.holds truth = cond.holds truth

/-- No block is empty, every row keeps its test, and the marks of negation cancel. -/
structure EditorKeeps (caValues : KnownValues) (cond : Condition) : Prop where
  noEmptyBlock : cond.noEmptyBlock = true
  rowKeeps : ∀ leaf ∈ cond.leaves, RowKeeps caValues leaf
  evenMarks : cond.evenMarks false = true

section Reading

variable {caValues : KnownValues}

theorem selectValue_groupTypeOptions (isAnd : Bool) :
    orDefault (selectValue (groupTypeOptions isAnd)) "AND" = if isAnd then "AND" else "OR" := by
  cases isAnd <;> decide

/-- A lone leaf has the truth of the group it stands for. -/
theorem assembleGroup_holds {children : List Condition} (hne : children ≠ []) (isAnd : Bool) :
    ∃ saved, assembleGroup (if isAnd then "AND" else "OR") children = some saved ∧
      ∀ truth, saved.holds truth = AndOrTree.combine isAnd (AndOrTree.holds truth) children := by
  have hblock : ∀ truth,
      AndOrTree.holds truth (.block ((if isAnd then "AND" else "OR") ≠ "OR") children false) =
        AndOrTree.combine isAnd (AndOrTree.holds truth) children := by
    intro truth
    rw [AndOrTree.holds_block, Bool.false_xor]
    cases isAnd <;> rfl
  match children, hne with
  | [.leaf leaf isNegate], _ =>
      exact ⟨_, rfl, fun truth => (AndOrTree.combine_singleton _ _).symm⟩
  | [.block _ _ _], _ => exact ⟨_, rfl, hblock⟩
  | first :: _ :: _, _ =>
      refine ⟨_, ?_, hblock⟩
      cases first <;> rfl

theorem readNodes_nodesHtml {children : List Condition} {saved : Condition → Condition}
    (h : ∀ child ∈ children, readNode (nodeHtml caValues child) = some (saved child)) :
    readNodes (nodesHtml caValues children) = children.map saved := by
  induction children with
  | nil => rfl
  | cons child children ih =>
      rw [nodesHtml, readNodes, h child List.mem_cons_self,
        ih fun other hother => h other (List.mem_cons_of_mem child hother)]
      rfl

/-- What is read from the page of a tree is the tree with its leaves as shown and without a mark. -/
theorem readNode_nodeHtml {cond : Condition} (h : cond.noEmptyBlock = true) :
    ∃ saved, readNode (nodeHtml caValues cond) = some saved ∧
      ∀ truth, saved.holds truth = cond.plain (truth ∘ shown caValues) := by
  induction cond using AndOrTree.induction with
  | leaf leaf isNegate => exact ⟨_, rfl, fun truth => Bool.false_xor _⟩
  | block isAnd children isNegate ih =>
      obtain ⟨hne, hchildren⟩ := AndOrTree.noEmptyBlock_block.mp h
      choose! saved hsaved htruth using fun child hchild => ih child hchild (hchildren child hchild)
      have hnodes : orDefaultRow caValues (nodesHtml caValues children) =
          nodesHtml caValues children := by
        cases children with
        | nil => exact absurd rfl hne
        | cons child children => rfl
      have hmapped : children.map saved ≠ [] := fun hnil => hne (List.map_eq_nil_iff.mp hnil)
      obtain ⟨group, hgroup, hholds⟩ := assembleGroup_holds hmapped isAnd
      refine ⟨group, ?_, fun truth => ?_⟩
      · rw [nodeHtml, hnodes, readNode, selectValue_groupTypeOptions, readNodes_nodesHtml hsaved]
        exact hgroup
      · rw [hholds, AndOrTree.plain_block, AndOrTree.combine_map]
        exact AndOrTree.combine_congr fun child hchild => htruth child hchild truth

/-- The same at the root, where a leaf is put into a group and taken out again. -/
theorem savedUnedited_holds (caValues : KnownValues) {cond : Condition}
    (h : cond.noEmptyBlock = true) :
    ∃ saved, savedUnedited caValues cond = some saved ∧
      ∀ truth, saved.holds truth = cond.plain (truth ∘ shown caValues) := by
  have hdefault : ∀ (truth : ConditionLeaf → Bool) (leaf : ConditionLeaf),
      rowHtml caValues leaf = condRowOf caValues "" "" "" "" →
      AndOrTree.holds truth (readRow (rowHtml caValues defaultCond)) =
        truth (shown caValues leaf) := by
    intro truth leaf hempty
    have hshown : shown caValues leaf = defaultCond := by
      rw [shown, hempty]
      exact shown_empty
    rw [readRow, AndOrTree.holds, Bool.false_xor, hshown]
    exact congrArg truth shown_defaultCond
  cases cond with
  | block isAnd children isNegate => exact readNode_nodeHtml h
  | leaf leaf isNegate =>
      cases leaf with
      | attributes dn an op av => exact ⟨_, rfl, fun truth => Bool.false_xor _⟩
      | reference name => exact ⟨_, rfl, fun truth => hdefault truth (.reference name) rfl⟩
      | unknownType conditionType =>
          exact ⟨_, rfl, fun truth => hdefault truth (.unknownType conditionType) rfl⟩

theorem meansTheSame_iff {cond : Condition} (h : cond.noEmptyBlock = true) :
    MeansTheSame caValues cond ↔
      ∀ truth : ConditionLeaf → Bool, cond.holds truth = cond.plain (truth ∘ shown caValues) := by
  obtain ⟨saved, hsaved, hholds⟩ := savedUnedited_holds caValues h
  rw [MeansTheSame, hsaved]
  constructor
  · rintro ⟨_, heq, hsame⟩ truth
    obtain rfl := Option.some.inj heq
    rw [← hsame, hholds]
  · exact fun hsame => ⟨saved, rfl, fun truth => (hholds truth).trans (hsame truth).symm⟩

end Reading

/-- A rule that is opened and saved unedited keeps its meaning where the editor keeps its leaves and
its marks of negation cancel; where no test stands in it twice and no block is empty, only there. -/
theorem unedited_rule_means_the_same (caValues : KnownValues) (cond : Condition) :
    (EditorKeeps caValues cond → MeansTheSame caValues cond) ∧
      (cond.ReadOnce → (MeansTheSame caValues cond ↔ EditorKeeps caValues cond)) := by
  have hkeeps : EditorKeeps caValues cond → MeansTheSame caValues cond := by
    intro h
    refine (meansTheSame_iff h.noEmptyBlock).mpr ?_
    exact AndOrTree.holds_eq_plain_comp
      (fun leaf hleaf => shown_eq_iff.mpr (h.rowKeeps leaf hleaf)) h.evenMarks
  refine ⟨hkeeps, fun honce => ⟨fun hsame => ?_, hkeeps⟩⟩
  obtain ⟨hkept, heven⟩ :=
    (honce.holds_eq_plain_comp_iff fun leaf _ => settles_shown caValues leaf).mp
      ((meansTheSame_iff honce.noEmptyBlock).mp hsame)
  exact ⟨honce.noEmptyBlock, fun leaf hleaf => shown_eq_iff.mp (hkept leaf hleaf), heven⟩

/-- Marks on a block of one and on the test in it cancel, and a known group is an option. -/
theorem nested_rule_means_the_same :
    MeansTheSame
      (Dict.empty.set "__IdentityGroup_Name__" ["Endpoint Identity Groups:IT"])
      (.block false
        [.leaf (.attributes "IdentityGroup" "Name" "equals" "Endpoint Identity Groups:IT") false,
          .block true [.leaf (.attributes "EndPoints" "Owner" "contains" "<it> & co") true] true]
        false) :=
  (unedited_rule_means_the_same _ _).1 ⟨by decide, by decide, by decide⟩

/-- A test with an exception is saved with the exception as a second test. -/
theorem negated_test_is_saved_plain :
    ¬ MeansTheSame Dict.empty
      (.block true
        [.leaf (.attributes "EndPoints" "Owner" "equals" "it") false,
          .leaf (.attributes "Radius" "NAS-Identifier" "equals" "guest-wlc") true] false) := by
  rintro ⟨saved, hsaved, hsame⟩
  have hread : savedUnedited Dict.empty
      (.block true
        [.leaf (.attributes "EndPoints" "Owner" "equals" "it") false,
          .leaf (.attributes "Radius" "NAS-Identifier" "equals" "guest-wlc") true] false) =
      some (.block true
        [.leaf (.attributes "EndPoints" "Owner" "equals" "it") false,
          .leaf (.attributes "Radius" "NAS-Identifier" "equals" "guest-wlc") false] false) := by
    rfl
  obtain rfl := Option.some.inj (hread.symm.trans hsaved)
  exact absurd (hsame fun _ => true) (by decide)

end IsePortal
