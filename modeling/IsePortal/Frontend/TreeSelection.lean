import IsePortal.Frontend.HiddenBranches
import IsePortal.Frontend.MergeRuns
import IsePortal.Library.Runs

/-!
# The selection of the tree

What the handlers of `wire` do to the selection of the tree and to the endpoints that are dragged. A
branch selects the endpoints of all its rows, those of hidden branches below it too; hiding a branch
deselects its endpoints at that moment only. A run that selects and drags branches with nothing
hidden below them, and arranges the tree without hiding what is selected, has only endpoints that
are shown in the selection.
-/

namespace IsePortal.Tree

open Library

/-! ## The page -/

/-- The state of the page, with the items of the last rendering. `_treeRows` are the rows. -/
structure TreeView where
  layout : Layout
  expanded : List String
  rows : List Row
  items : List Item
  /-- `treeSelectedIds` -/
  selected : List String
  /-- `_dragIds`; `null` is no ids. -/
  dragIds : List String
  dragBranchPath : Option String

/-- `_treeBranchIds` -/
def branchIds (items : List Item) : Dict String (List String) :=
  items.foldl (fun ids item =>
    match item with
    | .branch trail rows => ids.set (pathOf trail) (rows.map Row.id)
    | .leaf _ => ids) .empty

/-- The ids of the rows of the tables. -/
def leafIds (items : List Item) : List String :=
  items.filterMap fun item =>
    match item with
    | .branch _ _ => none
    | .leaf row => some row.id

/-- `state._treeBranchIds[path] || []` -/
def TreeView.idsAt (view : TreeView) (path : String) : List String :=
  ((branchIds view.items).get? path).getD []

/-- The dimension chosen for the children of a branch. -/
def setDim (layout : Layout) (path choice : String) : Layout :=
  { layout with
    branchDim :=
      if choice = "__default__" then layout.branchDim.erase path
      else if choice = "__leaves__" then layout.branchDim.set path ""
      else layout.branchDim.set path choice }

/-- `tree-reset-view` -/
def resetView (layout : Layout) : Layout := ⟨layout.groupBy, .empty, .empty, .empty⟩

/-- `siblingMergeTarget` -/
def isSibling (dragPath path : String) : Prop :=
  path ≠ dragPath ∧ parentOf path = parentOf dragPath

instance (dragPath path : String) : Decidable (isSibling dragPath path) :=
  inferInstanceAs (Decidable (_ ∧ _))

/-- What the user does, and a rendering with other rows. -/
inductive Action where
  | toggle (path : String)
  | expandAll
  | collapseAll
  | addDim (dim : String)
  | delDim (dim : String)
  | setDim (path choice : String)
  | resetView
  | hide (path : String)
  | checkBranch (path : String) (checked : Bool)
  | checkLeaf (id : String) (checked : Bool)
  | dragBranch (path : String)
  | dragLeaf (id : String)
  | drop (path : String)
  | dragEnd
  | reload (rows : List Row)

section

variable [Collation]

/-- `renderTree`: what is selected and no longer among the rows is deselected. -/
def rerender (view : TreeView) : Option TreeView :=
  (renderTree view.layout view.expanded view.rows).map fun items =>
    { view with
      items := items
      selected := view.selected.filter fun id => id ∈ view.rows.map Row.id }

/-- The first rendering. -/
def firstRender (layout : Layout) (rows : List Row) : Option TreeView :=
  rerender ⟨layout, [], rows, [], [], [], none⟩

/-- The handlers, on branches and rows that are shown. A rendering that throws ends the run. -/
def step (view : TreeView) : Action → Option TreeView
  | .toggle path =>
      if path ∈ branchPaths view.items then
        rerender { view with
          expanded :=
            if path ∈ view.expanded then view.expanded.filter (· ≠ path)
            else view.expanded ++ [path] }
      else none
  | .expandAll =>
      (collectPaths view.layout view.rows []).bind fun paths =>
        rerender { view with expanded := addAll view.expanded paths }
  | .collapseAll => rerender { view with expanded := [] }
  | .addDim dim =>
      rerender { view with layout.groupBy := addAll view.layout.groupBy [dim] }
  | .delDim dim =>
      rerender { view with layout.groupBy := view.layout.groupBy.filter (· ≠ dim) }
  | .setDim path choice => rerender { view with layout := setDim view.layout path choice }
  | .resetView => rerender { view with layout := resetView view.layout }
  | .hide path =>
      if path ∈ branchPaths view.items then
        rerender { view with
          layout := hideBranch view.layout path
          selected := view.selected.filter (· ∉ view.idsAt path) }
      else none
  | .checkBranch path checked =>
      if path ∈ branchPaths view.items then
        rerender { view with
          selected :=
            if checked then addAll view.selected (view.idsAt path)
            else view.selected.filter (· ∉ view.idsAt path) }
      else none
  | .checkLeaf id checked =>
      if id ∈ leafIds view.items then
        rerender { view with
          selected :=
            if checked then addAll view.selected [id] else view.selected.filter (· ≠ id) }
      else none
  | .dragBranch path =>
      if path ∈ branchPaths view.items then
        some { view with dragIds := view.idsAt path, dragBranchPath := some path }
      else none
  | .dragLeaf id =>
      if id ∈ leafIds view.items then some { view with dragIds := [id], dragBranchPath := none }
      else none
  | .drop path =>
      if path ∉ branchPaths view.items then none
      else if view.dragIds = [] then some view
      else
        match view.dragBranchPath.filter fun dragPath => isSibling dragPath path with
        | some dragPath =>
            rerender { view with
              layout := dropOnSibling view.layout dragPath path
              dragIds := []
              dragBranchPath := none }
        -- the endpoints are moved to the group of the branch, if it is one
        | none => some { view with dragIds := [], dragBranchPath := none }
  | .dragEnd => some { view with dragIds := [], dragBranchPath := none }
  | .reload rows => rerender { view with rows := rows }

/-! ## What is selected is shown -/

/-- No endpoint that is selected or dragged lies in a hidden branch of the layout. -/
def Keeps (view : TreeView) (layout : Layout) (rows : List Row) : Prop :=
  ∀ row ∈ rows, row.id ∈ view.selected ∨ row.id ∈ view.dragIds → ¬ Concealed layout rows row

/-- Neither in the tree that is shown. -/
def ShownOnly (view : TreeView) : Prop := Keeps view view.layout view.rows

/-- The path is of one branch on the page, and no hidden branch lies below that one. -/
def Whole (view : TreeView) (path : String) : Prop :=
  ∃ branch, (∀ other inside, Item.branch other inside ∈ view.items → pathOf other = path →
    other = branch) ∧ HidesNothingBelow view.layout view.rows branch

/-- The steps after which the selection is still shown: a branch is hidden whose path tells it and
of which nothing is dragged, a branch is taken with nothing hidden below it, and where the tree is
arranged anew, or the rows are others, what is taken already gets into no hidden branch. -/
def Proper (view : TreeView) : Action → Prop
  | .hide path => (∃ key above, Tells view.layout view.rows path key above) ∧
      ∀ id ∈ view.dragIds, id ∉ view.idsAt path
  | .checkBranch path true => Whole view path
  | .dragBranch path => Whole view path
  | .addDim dim =>
      Keeps view { view.layout with groupBy := addAll view.layout.groupBy [dim] } view.rows
  | .delDim dim =>
      Keeps view { view.layout with groupBy := view.layout.groupBy.filter (· ≠ dim) } view.rows
  | .setDim path choice => Keeps view (setDim view.layout path choice) view.rows
  | .drop path => ∀ dragPath, view.dragBranchPath = some dragPath → isSibling dragPath path →
      Keeps { view with dragIds := [] } (dropOnSibling view.layout dragPath path) view.rows
  | .reload rows => (rows.map Row.id).Nodup ∧ Keeps view view.layout rows
  | _ => True

/-- A branch that is selected or dragged gives the endpoints that are shown under it. -/
def GathersShown (view : TreeView) : Action → Prop
  | .checkBranch path true | .dragBranch path => ∀ branch inside,
      Item.branch branch inside ∈ view.items → pathOf branch = path →
        ∀ id, id ∈ view.idsAt path ↔
          ∃ row ∈ inside, row.id = id ∧ ¬ Concealed view.layout view.rows row
  | _ => True

/-- The page shows the tree of its rows, which have ids of their own, and the selection is shown. -/
structure InStep (view : TreeView) : Prop where
  rendered : renderTree view.layout view.expanded view.rows = some view.items
  ids : (view.rows.map Row.id).Nodup
  shown : ShownOnly view

/-! ## The ids of a branch -/

variable {layout : Layout} {expanded : List String} {rows : List Row} {view next : TreeView}

omit [Collation] in
theorem get?_branchIds {items : List Item} {path : String} {ids : List String}
    (h : (branchIds items).get? path = some ids) :
    ∃ branch inside, Item.branch branch inside ∈ items ∧ pathOf branch = path ∧
      ids = inside.map Row.id := by
  induction items using List.reverseRecOn with
  | nil => cases h
  | append_singleton earlier item ih =>
      have hsub : ∀ {other}, other ∈ earlier → other ∈ earlier ++ [item] :=
        List.mem_append_left [item]
      rw [branchIds, List.foldl_append, ← branchIds, List.foldl_cons, List.foldl_nil] at h
      cases item with
      | leaf row =>
          obtain ⟨branch, inside, hmem, hbranch⟩ := ih h
          exact ⟨branch, inside, hsub hmem, hbranch⟩
      | branch trail inside =>
          rw [Dict.get?_set] at h
          split at h
          · case isTrue hpath =>
              exact ⟨trail, inside, by simp, hpath.symm, (Option.some.inj h).symm⟩
          · obtain ⟨branch, inside, hmem, hbranch⟩ := ih h
            exact ⟨branch, inside, hsub hmem, hbranch⟩

omit [Collation] in
theorem branchIds_isSome {items : List Item} {branch : List String} {inside : List Row}
    (h : Item.branch branch inside ∈ items) :
    ((branchIds items).get? (pathOf branch)).isSome := by
  induction items using List.reverseRecOn with
  | nil => cases h
  | append_singleton earlier item ih =>
      rw [branchIds, List.foldl_append, ← branchIds, List.foldl_cons, List.foldl_nil]
      rcases List.mem_append.mp h with hearlier | hlast
      · cases item with
        | leaf row => exact ih hearlier
        | branch trail other =>
            rw [Dict.get?_set]
            split
            · rfl
            · exact ih hearlier
      · cases List.mem_singleton.mp hlast
        rw [Dict.get?_set_self]
        rfl

omit [Collation] in
theorem mem_branchPaths {items : List Item} {path : String} :
    path ∈ branchPaths items ↔ ∃ branch inside, Item.branch branch inside ∈ items ∧
      pathOf branch = path := by
  rw [branchPaths, List.mem_filterMap]
  constructor
  · rintro ⟨item, hitem, hpath⟩
    cases item with
    | leaf row => cases hpath
    | branch branch inside => exact ⟨branch, inside, hitem, Option.some.inj hpath⟩
  · rintro ⟨branch, inside, hmem, rfl⟩
    exact ⟨_, hmem, rfl⟩

omit [Collation] in
/-- The ids at a path that is shown are those of a branch with this path. -/
theorem idsAt_eq {path : String} (h : path ∈ branchPaths view.items) :
    ∃ branch inside, Item.branch branch inside ∈ view.items ∧ pathOf branch = path ∧
      view.idsAt path = inside.map Row.id := by
  obtain ⟨branch, inside, hmem, rfl⟩ := mem_branchPaths.mp h
  obtain ⟨ids, hids⟩ := Option.isSome_iff_exists.mp (branchIds_isSome hmem)
  rw [TreeView.idsAt, hids, Option.getD_some]
  exact get?_branchIds hids

omit [Collation] in
theorem mem_leafIds {items : List Item} {id : String} :
    id ∈ leafIds items ↔ ∃ row, Item.leaf row ∈ items ∧ row.id = id := by
  rw [leafIds, List.mem_filterMap]
  constructor
  · rintro ⟨item, hitem, hid⟩
    cases item with
    | leaf row => exact ⟨row, hitem, Option.some.inj hid⟩
    | branch branch inside => cases hid
  · rintro ⟨row, hmem, rfl⟩
    exact ⟨_, hmem, rfl⟩

/-! ## The steps -/

theorem Shows.reached {branch : List String} {inside : List Row}
    (h : Shows layout expanded rows branch inside) : Reached layout rows inside branch := by
  cases h with
  | branch hlevel hdim hbuckets hbucket => exact .child hlevel.reached hdim hbuckets hbucket

theorem InStep.nodup (h : InStep view) : view.rows.Nodup := List.Nodup.of_map _ h.ids

theorem InStep.reached (h : InStep view) {branch : List String} {inside : List Row}
    (hmem : Item.branch branch inside ∈ view.items) : Reached view.layout view.rows inside branch :=
  ((branch_mem_renderTree h.rendered branch inside).mp hmem).reached

/-- A row of the page is known by its id. -/
theorem InStep.row_eq (h : InStep view) {row other : Row} (hrow : row ∈ view.rows)
    (hother : other ∈ view.rows) (hid : row.id = other.id) : row = other :=
  List.inj_on_of_nodup_map h.ids hrow hother hid

theorem InStep.mem_inside (h : InStep view) {branch : List String} {inside : List Row}
    (hmem : Item.branch branch inside ∈ view.items) {row : Row} (hrow : row ∈ view.rows) :
    row.id ∈ inside.map Row.id ↔ row ∈ inside := by
  constructor
  · intro hid
    obtain ⟨other, hother, heq⟩ := List.mem_map.mp hid
    rwa [h.row_eq hrow ((h.reached hmem).subset other hother) heq.symm]
  · exact List.mem_map_of_mem

/-- Of a branch with nothing hidden below it the ids are those of rows that are shown. -/
theorem InStep.whole (h : InStep view) {path : String} (hwhole : Whole view path) {row : Row}
    (hrow : row ∈ view.rows) (hpath : path ∈ branchPaths view.items)
    (hid : row.id ∈ view.idsAt path) : ¬ Concealed view.layout view.rows row := by
  obtain ⟨branch, halone, hbelow⟩ := hwhole
  obtain ⟨other, inside, hmem, hother, hids⟩ := idsAt_eq hpath
  cases halone other inside hmem hother
  rw [hids, h.mem_inside hmem hrow] at hid
  exact hbelow.not_concealed h.nodup (h.reached hmem) hid

/-- A row of a table is shown. -/
theorem InStep.leaf (h : InStep view) {row : Row} (hrow : row ∈ view.rows)
    (hid : row.id ∈ leafIds view.items) : ¬ Concealed view.layout view.rows row := by
  obtain ⟨other, hmem, heq⟩ := mem_leafIds.mp hid
  obtain ⟨table, above, htable, hdim, hin⟩ := leaf_mem_renderTree h.rendered hmem
  cases h.row_eq (htable.reached.subset other hin) hrow heq
  exact not_concealed_of_leaf h.nodup htable.reached hdim hin

/-- The rendering after a handler. -/
theorem inStep_rerender (h : rerender view = some next) (hids : (view.rows.map Row.id).Nodup)
    (hkeeps : Keeps view view.layout view.rows) : InStep next := by
  obtain ⟨items, hitems, rfl⟩ := Option.map_eq_some_iff.mp h
  refine ⟨hitems, hids, fun row hrow htaken => hkeeps row hrow ?_⟩
  exact htaken.imp_left fun hselected => (List.mem_filter.mp hselected).1

theorem not_concealed_of_reset {row : Row} : ¬ Concealed (resetView layout) rows row := by
  rintro ⟨_, _, ⟨_, _, _, _, hhidden⟩, _⟩
  cases hhidden

/-- A branch that is hidden while its path tells it takes its endpoints out of the selection. -/
theorem keeps_hide (h : InStep view) {path : String} (hpath : path ∈ branchPaths view.items)
    (hproper : Proper view (.hide path)) :
    Keeps { view with selected := view.selected.filter (· ∉ view.idsAt path) }
      (hideBranch view.layout path) view.rows := by
  obtain ⟨⟨key, above, htells⟩, hdrag⟩ := hproper
  obtain ⟨branch, inside, hmem, hbranch, hids⟩ := idsAt_eq hpath
  have hreached := h.reached hmem
  cases htells.branch inside branch hreached hbranch
  intro row hrow htaken hconcealed
  have hout : row.id ∉ view.idsAt path := by
    rcases htaken with hselected | hdragged
    · exact of_decide_eq_true (List.mem_filter.mp hselected).2
    · exact hdrag row.id hdragged
  rcases htells.concealed hreached hconcealed with hold | hinside
  · exact h.shown row hrow (htaken.imp_left fun hselected => (List.mem_filter.mp hselected).1) hold
  · exact hout (hids ▸ List.mem_map_of_mem hinside)

/-- A proper step keeps the selection shown. -/
theorem inStep_step {action : Action} (hstep : step view action = some next)
    (hproper : Proper view action) (h : InStep view) : InStep next := by
  cases action with
  | toggle path =>
      simp only [step, Option.ite_none_right_eq_some] at hstep
      exact inStep_rerender hstep.2 h.ids h.shown
  | expandAll =>
      obtain ⟨paths, -, hstep⟩ := Option.bind_eq_some_iff.mp hstep
      exact inStep_rerender hstep h.ids h.shown
  | collapseAll => exact inStep_rerender hstep h.ids h.shown
  | addDim dim => exact inStep_rerender hstep h.ids hproper
  | delDim dim => exact inStep_rerender hstep h.ids hproper
  | setDim path choice => exact inStep_rerender hstep h.ids hproper
  | resetView =>
      exact inStep_rerender hstep h.ids fun _ _ _ => not_concealed_of_reset
  | hide path =>
      simp only [step, Option.ite_none_right_eq_some] at hstep
      exact inStep_rerender hstep.2 h.ids (keeps_hide h hstep.1 hproper)
  | checkBranch path checked =>
      simp only [step, Option.ite_none_right_eq_some] at hstep
      refine inStep_rerender hstep.2 h.ids fun row hrow htaken => ?_
      cases checked with
      | false =>
          exact h.shown row hrow (htaken.imp_left fun hselected => (List.mem_filter.mp hselected).1)
      | true =>
          rcases htaken with hselected | hdragged
          · rcases mem_addAll.mp hselected with hold | hnew
            · exact h.shown row hrow (.inl hold)
            · exact h.whole hproper hrow hstep.1 hnew
          · exact h.shown row hrow (.inr hdragged)
  | checkLeaf id checked =>
      simp only [step, Option.ite_none_right_eq_some] at hstep
      refine inStep_rerender hstep.2 h.ids fun row hrow htaken => ?_
      cases checked with
      | false =>
          exact h.shown row hrow (htaken.imp_left fun hselected => (List.mem_filter.mp hselected).1)
      | true =>
          rcases htaken with hselected | hdragged
          · rcases mem_addAll.mp hselected with hold | hnew
            · exact h.shown row hrow (.inl hold)
            · cases List.mem_singleton.mp hnew
              exact h.leaf hrow hstep.1
          · exact h.shown row hrow (.inr hdragged)
  | dragBranch path =>
      simp only [step, Option.ite_none_right_eq_some, Option.some.injEq] at hstep
      obtain ⟨hpath, rfl⟩ := hstep
      refine ⟨h.rendered, h.ids, fun row hrow htaken => ?_⟩
      rcases htaken with hselected | hdragged
      · exact h.shown row hrow (.inl hselected)
      · exact h.whole hproper hrow hpath hdragged
  | dragLeaf id =>
      simp only [step, Option.ite_none_right_eq_some, Option.some.injEq] at hstep
      obtain ⟨hid, rfl⟩ := hstep
      refine ⟨h.rendered, h.ids, fun row hrow htaken => ?_⟩
      rcases htaken with hselected | hdragged
      · exact h.shown row hrow (.inl hselected)
      · cases List.mem_singleton.mp hdragged
        exact h.leaf hrow hid
  | drop path =>
      simp only [step] at hstep
      have hcleared : InStep { view with dragIds := [], dragBranchPath := none } :=
        ⟨h.rendered, h.ids, fun row hrow htaken =>
          h.shown row hrow (htaken.imp_right fun hdragged => absurd hdragged List.not_mem_nil)⟩
      split at hstep
      · cases hstep
      · split at hstep
        · cases hstep
          exact h
        · split at hstep
          · case h_1 dragPath hdrag =>
              obtain ⟨hdragged, hsibling⟩ := Option.filter_eq_some_iff.mp hdrag
              exact inStep_rerender hstep h.ids
                (hproper dragPath hdragged (of_decide_eq_true hsibling))
          · cases hstep
            exact hcleared
  | dragEnd =>
      cases hstep
      exact ⟨h.rendered, h.ids, fun row hrow htaken =>
        h.shown row hrow (htaken.imp_right fun hdragged => absurd hdragged List.not_mem_nil)⟩
  | reload rows => exact inStep_rerender hstep hproper.1 hproper.2

/-- A proper step gathers from a branch what is shown under it. -/
theorem gathersShown_of_proper {action : Action} (hstep : step view action = some next)
    (hproper : Proper view action) (h : InStep view) : GathersShown view action := by
  have hbranch : ∀ {path}, path ∈ branchPaths view.items → Whole view path → ∀ branch inside,
      Item.branch branch inside ∈ view.items → pathOf branch = path →
        ∀ id, id ∈ view.idsAt path ↔
          ∃ row ∈ inside, row.id = id ∧ ¬ Concealed view.layout view.rows row := by
    rintro path hpath ⟨whole, halone, hbelow⟩ branch inside hmem hname id
    obtain ⟨other, rows, hother, hrest, hids⟩ := idsAt_eq hpath
    cases halone branch inside hmem hname
    cases halone other rows hother hrest
    cases (h.reached hmem).unique (h.reached hother)
    rw [hids, List.mem_map]
    constructor
    · rintro ⟨row, hrow, hid⟩
      exact ⟨row, hrow, hid, hbelow.not_concealed h.nodup (h.reached hmem) hrow⟩
    · rintro ⟨row, hrow, hid, -⟩
      exact ⟨row, hrow, hid⟩
  cases action with
  | checkBranch path checked =>
      cases checked with
      | false => trivial
      | true =>
          simp only [step, Option.ite_none_right_eq_some] at hstep
          exact hbranch hstep.1 hproper
  | dragBranch path =>
      simp only [step, Option.ite_none_right_eq_some] at hstep
      exact hbranch hstep.1 hproper
  | _ => trivial

/-- In a run of proper steps nothing that is selected or dragged is hidden, and a branch gives the
endpoints that are shown under it. -/
theorem selection_runs (layout : Layout) (rows : List Row) (view : TreeView)
    (actions : List Action) (hids : (rows.map Row.id).Nodup)
    (hstart : firstRender layout rows = some view) (hproper : Guarded step Proper view actions) :
    Always step ShownOnly view actions ∧ Guarded step GathersShown view actions := by
  have hin : InStep view := inStep_rerender hstart hids fun row _ htaken =>
    htaken.elim (fun h => absurd h List.not_mem_nil) fun h => absurd h List.not_mem_nil
  have hkept : Always step InStep view actions :=
    always_of_guarded (fun _ _ _ hstep hgood h => inStep_step hstep hgood h) hproper hin
  exact ⟨hkept.mono fun _ h => h.shown,
    guarded_of_guarded (fun _ _ _ hstep h hgood =>
      ⟨inStep_step hstep hgood h, gathersShown_of_proper hstep hgood h⟩) hproper hin⟩

end

/-! ## A hidden branch below a selected one -/

/-- One branch, closed. -/
def oneBranch (layout : Layout) (key : String) (rows : List Row) (selected : List String) :
    TreeView := ⟨layout, [], rows, [.branch [key] rows], selected, [], none⟩

section

variable [Collation] {layout : Layout} {key : String} {rows : List Row}

theorem firstRender_oneBranch (h : renderTree layout [] rows = some [.branch [key] rows]) :
    firstRender layout rows = some (oneBranch layout key rows []) :=
  congrArg (Option.map _) h

/-- The box of the branch selects the endpoints of its rows. -/
theorem check_oneBranch (h : renderTree layout [] rows = some [.branch [key] rows]) :
    step (oneBranch layout key rows []) (.checkBranch (pathOf [key]) true) =
      some (oneBranch layout key rows
        ((addAll [] (rows.map Row.id)).filter fun id => id ∈ rows.map Row.id)) := by
  have hpath : pathOf [key] ∈ branchPaths (oneBranch layout key rows []).items :=
    List.mem_singleton.mpr rfl
  have hids : (oneBranch layout key rows []).idsAt (pathOf [key]) = rows.map Row.id := by
    have hset := Dict.get?_set_self Dict.empty (pathOf [key]) (rows.map Row.id)
    exact congrArg (fun ids => Option.getD ids []) hset
  rw [step, if_pos hpath, hids]
  exact congrArg (Option.map _) h

end

theorem selection_runs_sample : ∃ view,
    @firstRender codeOrder ⟨["group_name"], .empty, .empty, .empty⟩ [groupRow "A"] = some view ∧
      Always (@step codeOrder) (@ShownOnly codeOrder) view
        [.checkBranch (pathOf ["A"]) true, .hide (pathOf ["A"])] ∧
      Guarded (@step codeOrder) (@GathersShown codeOrder) view
        [.checkBranch (pathOf ["A"]) true, .hide (pathOf ["A"])] := by
  let _ := codeOrder
  have hitems : renderTree ⟨["group_name"], .empty, .empty, .empty⟩ [] [groupRow "A"] =
      some [.branch ["A"] [groupRow "A"]] :=
    renderTree_single (List.cons_ne_nil _ _) rfl rfl List.not_mem_nil
  have hreached : Reached ⟨["group_name"], .empty, .empty, .empty⟩ [groupRow "A"] [groupRow "A"]
      ["A"] := .child .root rfl rfl List.mem_cons_self
  refine ⟨_, firstRender_oneBranch hitems, selection_runs _ [groupRow "A"] _ _
    (List.nodup_singleton "A") (firstRender_oneBranch hitems) ?_⟩
  rw [Guarded, check_oneBranch hitems]
  refine ⟨⟨["A"], ?_, ?_⟩, ?_⟩
  · intro other inside hmem _
    cases List.mem_singleton.mp hmem
    rfl
  · rintro _ _ ⟨_, _, _, _, hhidden⟩
    cases hhidden
  · simp only [Guarded]
    split
    · trivial
    · refine ⟨⟨⟨"A", [], tells_of_clean (fun level trail hlevel => hlevel.clean
        (@plain_groupRows ["A"] (by decide)) (@slashless_groupRows ["A"] (by decide)))
        hreached⟩, fun id hid => ?_⟩, trivial⟩
      cases hid

/-- The types `x` hidden below the group `A`. -/
def hiddenBelowA : Layout :=
  ⟨["group_name", "endpoint_type"], .empty, .empty, Dict.empty.set (pathOf ["A"]) ["x"]⟩

/-- Two endpoints of the group `A`, one of each type. -/
def rowsOfA : List Row := [typedRow ("A", "x"), typedRow ("A", "y")]

/-- The box of the group `A` selects an endpoint of the type that is hidden below it. -/
theorem selection_runs_fails : (rowsOfA.map Row.id).Nodup ∧ ∀ _ : Collation, ∃ view next,
    firstRender hiddenBelowA rowsOfA = some view ∧
      run step view [.checkBranch (pathOf ["A"]) true] = some next ∧ ¬ ShownOnly next := by
  refine ⟨by decide, fun _ => ?_⟩
  have hitems : renderTree hiddenBelowA [] rowsOfA = some [.branch ["A"] rowsOfA] :=
    renderTree_single (List.cons_ne_nil _ _) rfl rfl List.not_mem_nil
  have hrun : run step (oneBranch hiddenBelowA "A" rowsOfA []) [.checkBranch (pathOf ["A"]) true] =
      some (oneBranch hiddenBelowA "A" rowsOfA ["Ax", "Ay"]) := by
    rw [run, check_oneBranch hitems]
    rfl
  refine ⟨_, _, firstRender_oneBranch hitems, hrun, fun h => ?_⟩
  have hhides : Hides hiddenBelowA rowsOfA ["x", "A"] [typedRow ("A", "x")] :=
    .branch (.child .root rfl rfl List.mem_cons_self) rfl rfl List.mem_cons_self List.mem_cons_self
  exact h (typedRow ("A", "x")) List.mem_cons_self (.inl List.mem_cons_self)
    ⟨_, _, hhides, List.mem_cons_self⟩

end IsePortal.Tree
