import IsePortal.Platform.Json
import IsePortal.Policy.RuleEditor
import Mathlib.Data.List.DropRight

/-!
# The group tree of the browser

`js/views/browse-tree.js`. The rows are grouped level by level. A branch is found by the trail of the
keys above it, innermost first, and the page knows it by a path that spells the trail out
(`pathOf`). Where a level has merged values, several buckets are joined into one; where it has
hidden ones, their buckets are dropped.
-/

namespace IsePortal.Tree

open Library

/-! ## Rows and values -/

/-- A field of a row, as far as the tree reads it. -/
inductive Cell where
  | absent
  | text (value : String)
  | list (values : List String)

/-- A row of the table: its id and its fields. -/
structure Row where
  id : String
  cell : String → Cell

/-- `NONE` -/
def noneKey : String := "\uE000none"

/-- `valueOf` -/
def valueOf (row : Row) (key : String) : String :=
  match row.cell key with
  | .absent => ""
  | .text value => jsTrim value
  | .list values => ", ".intercalate values

/-- `valueOf(r, dim) || NONE` -/
def bucketValue (row : Row) (dim : String) : String :=
  if valueOf row dim = "" then noneKey else valueOf row dim

/-- `MERGE_SEP` -/
def mergeSep : Char := '\u0001'

/-- `join(MERGE_SEP)` -/
def joinMembers (members : List String) : String :=
  String.ofList ([mergeSep].intercalate (members.map String.toList))

/-- `mergeMembers` -/
def mergeMembers (key : String) : List String :=
  (key.toList.splitOn mergeSep).map String.ofList

/-! ## Paths -/

/-- The path of a trail: `${path}//${depth}:${k}` below the path of the level. -/
def pathOf : List String → String
  | [] => ""
  | key :: above => pathOf above ++ "//" ++ toString above.length ++ ":" ++ key

/-- The text before the last `//`, and the text after it. -/
def splitLast : List Char → Option (List Char × List Char)
  | [] => none
  | char :: rest =>
      match splitLast rest with
      | some (before, after) => some (char :: before, after)
      | none => if char = '/' ∧ rest.head? = some '/' then some ([], rest.tail) else none

/-- `parentOf` -/
def parentOf (path : String) : String :=
  match splitLast path.toList with
  | none => ""
  | some (before, _) => String.ofList before

/-- The segment after the last `//`; the index of no `//` is `-1`, so then all but the first
character. -/
def lastSegment (path : String) : List Char :=
  match splitLast path.toList with
  | none => path.toList.drop 1
  | some (_, after) => after

/-- `valueOfPath` -/
def valueOfPath (path : String) : String :=
  match (lastSegment path).dropWhile (· ≠ ':') with
  | [] => String.ofList (lastSegment path)
  | _ :: rest => String.ofList rest

/-! ## The layout -/

/-- The layout of a user: the dimensions of the levels, and by path the dimension of a branch, the
values merged below it and the values hidden below it. -/
structure Layout where
  groupBy : List String
  branchDim : Dict String String
  merges : Dict String (List (List String))
  hidden : Dict String (List String)

/-- The groups of values that are merged at a level. -/
def Layout.mergesAt (layout : Layout) (path : String) : List (List String) :=
  (layout.merges.get? path).getD []

/-- The values that are hidden at a level. -/
def Layout.hiddenAt (layout : Layout) (path : String) : List String :=
  (layout.hidden.get? path).getD []

/-- `effectiveDim`: the dimension of the branch, or else that of the level. -/
def effectiveDim (layout : Layout) (trail : List String) : Option String :=
  match layout.branchDim.get? (pathOf trail) with
  | some override => if override = "" then none else some override
  | none => layout.groupBy[trail.length]?.bind fun dim => if dim = "" then none else some dim

/-! ## Stored layouts -/

/-- What `_safe_tree_layout` keeps: the parts the raw layout has. -/
structure StoredLayout where
  groupBy : Option (List String)
  branchDim : Option (Dict String String)
  merges : Option (Dict String (List (List String)))
  hidden : Option (Dict String (List String))

/-- A text of at most this many characters. -/
def shortText (limit : Nat) : Json → Option String
  | .str text => if text.length ≤ limit then some text else none
  | _ => none

/-- A dimension of `groupBy`: the empty text is none. -/
def stackText : Json → Option String
  | .str text => if 1 ≤ text.length ∧ text.length ≤ 32 then some text else none
  | _ => none

/-- The texts of a list up to a length, the first ones of them. -/
def shortTexts (count : Nat) : Json → Option (List String)
  | .arr items => some ((items.filterMap (shortText 256)).take count)
  | _ => none

/-- The groups of at least two values among the first lists. -/
def shortGroups : Json → Option (List (List String))
  | .arr items =>
      some (((items.take 100).filterMap (shortTexts 100)).filter fun group => 2 ≤ group.length)
  | _ => none

/-- The first entries whose path is not too long and whose value can be read. -/
def safeEntries {α : Type} (read : Json → Option α) (fields : JsonObject) : Dict String α :=
  (fields.take 300).foldl (fun out field =>
    if field.1.length ≤ 1024 then out.setIfSome field.1 (read field.2) else out) .empty

/-- `isinstance(raw.get(key), dict)`, with the entries that are read from it. -/
def safePart {α : Type} (raw : JsonObject) (key : String) (read : Json → Option α) :
    Option (Dict String α) :=
  match raw.getD key .null with
  | .obj fields => some (safeEntries read fields)
  | _ => none

/-- `_safe_tree_layout` -/
def safeTreeLayout : Json → Option StoredLayout
  | .obj raw =>
      let groupBy :=
        match JsonObject.getD raw "groupBy" .null with
        | .arr items => some ((items.filterMap stackText).take 20)
        | _ => none
      let branchDim := safePart raw "branchDim" (shortText 256)
      let merges := safePart raw "merges" shortGroups
      let hidden := safePart raw "hidden" (shortTexts 200)
      -- `out or None`
      if groupBy.isNone ∧ branchDim.isNone ∧ merges.isNone ∧ hidden.isNone then none
      else some { groupBy, branchDim, merges, hidden }
  | _ => none

/-- The keys of `DIMS`. -/
def dims : List String :=
  ["group_name", "profiler_name", "platform_type", "endpoint_type", "vendor", "owner", "lokation",
    "authz_vlan", "authz_acl", "status", "active_status", "guest_registration", "registret_by",
    "hypervision"]

/-- The members every object has: a lookup in `DIM_BY_KEY` finds them too. -/
def objectMembers : List String :=
  ["constructor", "toString", "toLocaleString", "valueOf", "hasOwnProperty", "isPrototypeOf",
    "propertyIsEnumerable", "__proto__", "__defineGetter__", "__defineSetter__",
    "__lookupGetter__", "__lookupSetter__"]

/-- `DEFAULT_GROUPBY` -/
def defaultGroupBy : List String := ["group_name", "profiler_name"]

/-- `initTreeState`: the seed is the layout the backend sends. -/
def initTreeState (seed : Option StoredLayout) : Layout where
  groupBy :=
    match seed.bind StoredLayout.groupBy with
    | some groupBy => groupBy.filter fun key => key ∈ dims ∨ key ∈ objectMembers
    | none => defaultGroupBy
  branchDim := (seed.bind StoredLayout.branchDim).getD .empty
  merges := ((seed.bind StoredLayout.merges).getD .empty).mapValues fun groups =>
    groups.filter fun group => 2 ≤ group.length
  hidden := (seed.bind StoredLayout.hidden).getD .empty

/-! ## The buckets of a level -/

/-- The rows of a level by their values, in the order of the values' first rows. -/
abbrev Buckets := Dict String (List Row)

/-- A row goes to the bucket of its value. -/
def addRow (dim : String) (buckets : Buckets) (row : Row) : Buckets :=
  buckets.set (bucketValue row dim) ((buckets.get? (bucketValue row dim)).getD [] ++ [row])

/-- `bucketize` -/
def bucketize (rows : List Row) (dim : String) : Buckets :=
  rows.foldl (addRow dim) .empty

/-- The texts as `localeCompare` orders them. -/
class Collation where
  le : String → String → Bool
  /-- With `numeric: true`. -/
  leNumeric : String → String → Bool

/-- The loop over the present members: `none` where the bucket of a member is gone, and the spread
of `undefined` throws. -/
def takeMembers : List String → Buckets → List Row → Option (List Row × Buckets)
  | [], buckets, combined => some (combined, buckets)
  | member :: rest, buckets, combined =>
      match buckets.get? member with
      | none => none
      | some rows => takeMembers rest (buckets.erase member) (combined ++ rows)

/-- The members of a group that have a bucket. -/
def presentMembers (buckets : Buckets) (members : List String) : List String :=
  members.filter fun member => (buckets.get? member).isSome

section

variable [Collation]

/-- The key of a merged bucket. -/
def mergedKey (present : List String) : String :=
  joinMembers (present.mergeSort Collation.le)

/-- One group of `applyMergesHidden`. -/
def mergeGroup (buckets : Buckets) (members : List String) : Option Buckets :=
  let present := presentMembers buckets members
  if present.length < 2 then some buckets
  else (takeMembers present buckets []).map fun taken =>
    taken.2.set (mergedKey present) taken.1

/-- The groups of a level, one after the other. -/
def applyMerges (buckets : Buckets) (groups : List (List String)) : Option Buckets :=
  groups.foldlM mergeGroup buckets

/-- The buckets without those of the hidden values. -/
def applyHidden (buckets : Buckets) (hidden : List String) : Buckets :=
  hidden.foldl Dict.erase buckets

/-- `applyMergesHidden` -/
def applyMergesHidden (layout : Layout) (buckets : Buckets) (path : String) : Option Buckets :=
  (applyMerges buckets (layout.mergesAt path)).map fun merged =>
    applyHidden merged (layout.hiddenAt path)

/-- The order of `sortedKeys`. -/
def keyLe (first second : String) : Bool :=
  if first = noneKey then false
  else if second = noneKey then true
  else Collation.leNumeric first second

/-! ## The tree -/

/-- What the page shows: a branch, or a row of a table below one. -/
inductive Item where
  | branch (trail : List String) (rows : List Row)
  | leaf (row : Row)

/-- `LEAF_CAP` -/
def leafCap : Nat := 200

/-- The lists a function gives for the elements, one after the other; `none` where one throws. -/
def collect {α β : Type} (f : α → Option (List β)) : List α → Option (List β)
  | [] => some []
  | a :: rest =>
      match f a, collect f rest with
      | some first, some others => some (first ++ others)
      | _, _ => none

/-- The length of the longest of the texts. -/
def longest (texts : List String) : Nat := (texts.map fun text => text.toList.length).foldr max 0

omit [Collation] in
theorem length_le_longest {texts : List String} {text : String} (h : text ∈ texts) :
    text.toList.length ≤ longest texts := by
  induction texts with
  | nil => cases h
  | cons first rest ih =>
      rw [longest, List.map_cons, List.foldr_cons]
      rcases List.mem_cons.mp h with rfl | h
      · exact Nat.le_max_left _ _
      · exact Nat.le_trans (ih h) (Nat.le_max_right _ _)

omit [Collation] in
theorem length_pathOf_lt (key : String) (above : List String) :
    (pathOf above).toList.length < (pathOf (key :: above)).toList.length := by
  rw [pathOf]
  simp only [String.toList_append, List.length_append]
  have hslashes : "//".toList.length = 2 := rfl
  omega

/-- `renderNodes`: a branch that is not expanded shows no children. -/
def renderNodes (layout : Layout) (expanded : List String) (rows : List Row)
    (trail : List String) : Option (List Item) :=
  match effectiveDim layout trail with
  | none => some ((rows.take leafCap).map .leaf)
  | some dim =>
      match applyMergesHidden layout (bucketize rows dim) (pathOf trail) with
      | none => none
      | some buckets =>
          collect (fun entry =>
            if _hopen : pathOf (entry.1 :: trail) ∈ expanded then
              (renderNodes layout expanded entry.2 (entry.1 :: trail)).map fun children =>
                .branch (entry.1 :: trail) entry.2 :: children
            else some [.branch (entry.1 :: trail) entry.2])
            (buckets.entries.mergeSort fun first second => keyLe first.1 second.1)
termination_by longest expanded + 1 - (pathOf trail).toList.length
decreasing_by
  have hlonger := length_pathOf_lt entry.1 trail
  have hle := length_le_longest _hopen
  omega

variable {layout : Layout} {trail : List String} {dim : String} {buckets : Buckets}

theorem renderNodes_leaves (expanded : List String) (rows : List Row)
    (hdim : effectiveDim layout trail = none) :
    renderNodes layout expanded rows trail = some ((rows.take leafCap).map .leaf) := by
  rw [renderNodes, hdim]

theorem renderNodes_stuck {rows : List Row} (expanded : List String)
    (hdim : effectiveDim layout trail = some dim)
    (hbuckets : applyMergesHidden layout (bucketize rows dim) (pathOf trail) = none) :
    renderNodes layout expanded rows trail = none := by
  rw [renderNodes, hdim]
  simp only [hbuckets]

theorem renderNodes_branches {rows : List Row} (expanded : List String)
    (hdim : effectiveDim layout trail = some dim)
    (hbuckets : applyMergesHidden layout (bucketize rows dim) (pathOf trail) = some buckets) :
    renderNodes layout expanded rows trail = collect (fun entry =>
      if pathOf (entry.1 :: trail) ∈ expanded then
        (renderNodes layout expanded entry.2 (entry.1 :: trail)).map fun children =>
          .branch (entry.1 :: trail) entry.2 :: children
      else some [.branch (entry.1 :: trail) entry.2])
      (buckets.entries.mergeSort fun first second => keyLe first.1 second.1) := by
  rw [renderNodes, hdim]
  simp only [hbuckets, dite_eq_ite]

/-- `collectPaths`: the recursion goes on below a level that has a dimension of its own, and those
are finitely many, or of the stack, which is finite too. -/
def collectPaths (layout : Layout) (rows : List Row) (trail : List String) :
    Option (List String) :=
  match _hdim : effectiveDim layout trail with
  | none => some []
  | some dim =>
      match applyMergesHidden layout (bucketize rows dim) (pathOf trail) with
      | none => none
      | some buckets =>
          collect (fun entry =>
            (collectPaths layout entry.2 (entry.1 :: trail)).map fun below =>
              pathOf (entry.1 :: trail) :: below) buckets.entries
termination_by (layout.groupBy.length - trail.length) +
  (longest layout.branchDim.keys + 1 - (pathOf trail).toList.length)
decreasing_by
  have hlonger := length_pathOf_lt entry.1 trail
  rw [effectiveDim] at _hdim
  rw [List.length_cons]
  cases hdim : layout.branchDim.get? (pathOf trail) with
  | some override =>
      have hle := length_le_longest (Dict.mem_keys_iff.mpr ⟨override, hdim⟩)
      omega
  | none =>
      rw [hdim] at _hdim
      obtain ⟨dim, hstack, -⟩ := Option.bind_eq_some_iff.mp _hdim
      have hlt := (List.getElem?_eq_some_iff.mp hstack).1
      omega

theorem collectPaths_leaves (rows : List Row) (hdim : effectiveDim layout trail = none) :
    collectPaths layout rows trail = some [] := by
  rw [collectPaths, hdim]

theorem collectPaths_stuck {rows : List Row} (hdim : effectiveDim layout trail = some dim)
    (hbuckets : applyMergesHidden layout (bucketize rows dim) (pathOf trail) = none) :
    collectPaths layout rows trail = none := by
  rw [collectPaths, hdim]
  simp only [hbuckets]

theorem collectPaths_branches {rows : List Row} (hdim : effectiveDim layout trail = some dim)
    (hbuckets : applyMergesHidden layout (bucketize rows dim) (pathOf trail) = some buckets) :
    collectPaths layout rows trail = collect (fun entry =>
      (collectPaths layout entry.2 (entry.1 :: trail)).map fun below =>
        pathOf (entry.1 :: trail) :: below) buckets.entries := by
  rw [collectPaths, hdim]
  simp only [hbuckets]

/-- The tree of `renderTree`: without a dimension or without rows there is a hint instead. -/
def renderTree (layout : Layout) (expanded : List String) (rows : List Row) :
    Option (List Item) :=
  if rows = [] then some []
  else
    match effectiveDim layout [] with
    | none => some []
    | some _ => renderNodes layout expanded rows []

end

end IsePortal.Tree
