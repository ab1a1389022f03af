import IsePortal.Frontend.TreePartition

/-!
# The branches of the tree

What `renderNodes` shows, said of each branch: a level is opened when the branches above it are
expanded, and a branch is shown when its level is opened and it has a bucket there. The path of a
branch is taken apart again by `parentOf` and `valueOfPath` where no key of it contains `//`.
-/

namespace IsePortal.Tree

open Library

/-! ## Taking a path apart -/

/-- The text contains `//`. -/
def Slashed (chars : List Char) : Prop := ['/', '/'] <:+: chars

instance : DecidablePred Slashed := fun chars =>
  inferInstanceAs (Decidable (['/', '/'] <:+: chars))

theorem slashed_cons {char : Char} {rest : List Char} :
    Slashed (char :: rest) ↔ (char = '/' ∧ rest.head? = some '/') ∨ Slashed rest := by
  rw [Slashed, Slashed, List.infix_cons_iff, List.cons_prefix_cons, eq_comm (a := '/')]
  refine or_congr_left (and_congr_right fun _ => ?_)
  cases rest with
  | nil => simp
  | cons second rest => simp [List.cons_prefix_cons, eq_comm]

theorem not_slashed_nil : ¬ Slashed [] := fun h => by
  rw [Slashed, List.infix_nil] at h
  cases h

theorem slashed_cons_of_ne {char : Char} {rest : List Char} (h : char ≠ '/') :
    Slashed (char :: rest) ↔ Slashed rest := by
  rw [slashed_cons]
  exact or_iff_right fun hslash => h hslash.1

/-- A character other than a slash divides the text. -/
theorem slashed_append_cons {char : Char} {before rest : List Char} (h : char ≠ '/') :
    Slashed (before ++ char :: rest) ↔ Slashed before ∨ Slashed rest := by
  induction before with
  | nil =>
      rw [List.nil_append, slashed_cons_of_ne h]
      exact (or_iff_right not_slashed_nil).symm
  | cons first before ih =>
      rw [List.cons_append, slashed_cons, slashed_cons, ih, or_assoc]
      refine or_congr_left (and_congr_right fun _ => ?_)
      cases before with
      | nil => simp [h]
      | cons second before => simp

theorem not_slashed_of_not_mem {chars : List Char} (h : '/' ∉ chars) : ¬ Slashed chars :=
  fun hslashed => h (hslashed.subset List.mem_cons_self)

theorem splitLast_eq_none_iff {chars : List Char} : splitLast chars = none ↔ ¬ Slashed chars := by
  induction chars with
  | nil => exact ⟨fun _ => not_slashed_nil, fun _ => rfl⟩
  | cons char rest ih =>
      rw [splitLast, slashed_cons, not_or, ← ih]
      cases hrest : splitLast rest with
      | some parts => simp
      | none => by_cases hslash : char = '/' ∧ rest.head? = some '/' <;> simp [hslash]

/-- A text is split at its last `//`. -/
theorem splitLast_of_append {before after : List Char} (h : ¬ Slashed ('/' :: after)) :
    splitLast (before ++ '/' :: '/' :: after) = some (before, after) := by
  induction before with
  | nil =>
      rw [List.nil_append, splitLast, splitLast_eq_none_iff.mpr h]
      rfl
  | cons char before ih => rw [List.cons_append, splitLast, ih]

theorem append_of_splitLast {chars before after : List Char}
    (h : splitLast chars = some (before, after)) :
    chars = before ++ '/' :: '/' :: after ∧ ¬ Slashed ('/' :: after) := by
  induction chars generalizing before with
  | nil => cases h
  | cons char rest ih =>
      rw [splitLast] at h
      cases hrest : splitLast rest with
      | some parts =>
          rw [hrest] at h
          obtain ⟨rfl, rfl⟩ : char :: parts.1 = before ∧ parts.2 = after := by simpa using h
          obtain ⟨hchars, hlast⟩ := ih hrest
          exact ⟨by rw [hchars, List.cons_append], hlast⟩
      | none =>
          rw [hrest] at h
          obtain ⟨⟨rfl, hhead⟩, hparts⟩ := Option.ite_none_right_eq_some.mp h
          obtain ⟨after', rfl⟩ := List.head?_eq_some_iff.mp hhead
          cases hparts
          exact ⟨rfl, splitLast_eq_none_iff.mp hrest⟩

theorem slash_not_mem_toString (depth : Nat) : '/' ∉ (toString depth).toList := by
  rw [Nat.toString_eq_ofList_toDigits, String.toList_ofList]
  exact fun hmem => absurd (Nat.isDigit_of_mem_toDigits (by decide) (by decide) hmem) (by decide)

theorem colon_not_mem_toString (depth : Nat) : ':' ∉ (toString depth).toList := by
  rw [Nat.toString_eq_ofList_toDigits, String.toList_ofList]
  exact fun hmem => absurd (Nat.isDigit_of_mem_toDigits (by decide) (by decide) hmem) (by decide)

theorem toList_pathOf (key : String) (above : List String) :
    (pathOf (key :: above)).toList = (pathOf above).toList ++
      '/' :: '/' :: ((toString above.length).toList ++ ':' :: key.toList) := by
  simp [pathOf]

/-- The key can be told from the path above it. -/
def Clean (key : String) : Prop := ¬ Slashed key.toList

instance : DecidablePred Clean := fun key => inferInstanceAs (Decidable ¬ Slashed key.toList)

theorem not_slashed_segment {key : String} (depth : Nat) (h : Clean key) :
    ¬ Slashed ('/' :: ((toString depth).toList ++ ':' :: key.toList)) := by
  rw [slashed_cons, not_or, slashed_append_cons (by decide), not_or]
  refine ⟨fun hhead => ?_, not_slashed_of_not_mem (slash_not_mem_toString depth), h⟩
  cases hdigits : (toString depth).toList with
  | nil =>
      rw [hdigits, List.nil_append, List.head?_cons] at hhead
      exact absurd hhead.2 (by decide)
  | cons digit rest =>
      refine slash_not_mem_toString depth ?_
      rw [hdigits, List.cons_append, List.head?_cons, Option.some.injEq] at hhead
      rw [hdigits, hhead.2]
      exact List.mem_cons_self

theorem splitLast_pathOf {key : String} (above : List String) (h : Clean key) :
    splitLast (pathOf (key :: above)).toList =
      some ((pathOf above).toList, (toString above.length).toList ++ ':' :: key.toList) := by
  rw [toList_pathOf, splitLast_of_append (not_slashed_segment above.length h)]

theorem parentOf_pathOf {key : String} (above : List String) (h : Clean key) :
    parentOf (pathOf (key :: above)) = pathOf above := by
  rw [parentOf, splitLast_pathOf above h]
  exact String.ofList_toList

theorem dropWhile_segment (depth : Nat) (rest : List Char) :
    ((toString depth).toList ++ ':' :: rest).dropWhile (· ≠ ':') = ':' :: rest := by
  rw [List.dropWhile_append_of_pos, List.dropWhile_cons_of_neg (by simp)]
  intro char hchar
  exact decide_eq_true fun heq => colon_not_mem_toString depth (heq ▸ hchar)

theorem valueOfPath_pathOf {key : String} (above : List String) (h : Clean key) :
    valueOfPath (pathOf (key :: above)) = key := by
  rw [valueOfPath, lastSegment, splitLast_pathOf above h, dropWhile_segment]
  exact String.ofList_toList

theorem length_valueOfPath_le {path : String} {before after : List Char}
    (h : splitLast path.toList = some (before, after)) :
    (valueOfPath path).toList.length ≤ after.length := by
  have hdrop := (List.dropWhile_sublist (l := after) fun char => decide (char ≠ ':')).length_le
  rw [valueOfPath, lastSegment, h]
  cases hrest : after.dropWhile fun char => decide (char ≠ ':') with
  | nil => rw [String.toList_ofList]
  | cons colon rest =>
      rw [hrest, List.length_cons] at hdrop
      rw [String.toList_ofList]
      omega

/-- Of a key that has `//` in it the rest after the last one is taken for the value. -/
theorem valueOfPath_ne {key : String} (above : List String) (h : ¬ Clean key) :
    valueOfPath (pathOf (key :: above)) ≠ key := by
  intro hvalue
  cases hkey : splitLast key.toList with
  | none => exact h (splitLast_eq_none_iff.mp hkey)
  | some parts =>
      obtain ⟨hchars, hlast⟩ := append_of_splitLast hkey
      have hpath := @splitLast_of_append ((pathOf above).toList ++
        '/' :: '/' :: ((toString above.length).toList ++ ':' :: parts.1)) _ hlast
      have hlength := @length_valueOfPath_le (pathOf (key :: above)) _ _ (by
        rw [← hpath, toList_pathOf, hchars]
        simp)
      rw [hvalue, hchars, List.length_append, List.length_cons, List.length_cons] at hlength
      omega

/-- Below keys without `//` a path tells the trail. -/
theorem pathOf_injective {first second : List String} (hfirst : ∀ key ∈ first, Clean key)
    (hsecond : ∀ key ∈ second, Clean key) (h : pathOf first = pathOf second) : first = second := by
  induction first generalizing second with
  | nil =>
      cases second with
      | nil => rfl
      | cons key above =>
          have hlonger := length_pathOf_lt key above
          rw [← h] at hlonger
          exact absurd hlonger (Nat.not_lt_zero _)
  | cons key above ih =>
      cases second with
      | nil =>
          have hlonger := length_pathOf_lt key above
          rw [h] at hlonger
          exact absurd hlonger (Nat.not_lt_zero _)
      | cons other below =>
          rw [List.forall_mem_cons] at hfirst hsecond
          have hkey : key = other := by
            rw [← valueOfPath_pathOf above hfirst.1, h, valueOfPath_pathOf below hsecond.1]
          have habove : pathOf above = pathOf below := by
            rw [← parentOf_pathOf above hfirst.1, h, parentOf_pathOf below hsecond.1]
          rw [hkey, ih hfirst.2 hsecond.2 habove]

/-! ## Keys of several members -/

theorem slashed_intercalate {parts : List (List Char)} {tail : List Char} (hne : parts ≠ [])
    (h : Slashed ([mergeSep].intercalate parts ++ tail)) :
    ∃ part ∈ parts, Slashed (part ++ tail) := by
  induction parts with
  | nil => exact absurd rfl hne
  | cons first rest ih =>
      cases rest with
      | nil => exact ⟨first, List.mem_cons_self, by simpa [List.intercalate_singleton] using h⟩
      | cons second rest =>
          have hjoin : [mergeSep].intercalate (first :: second :: rest) ++ tail =
              first ++ mergeSep :: ([mergeSep].intercalate (second :: rest) ++ tail) := by
            simp [List.intercalate_cons_cons]
          rw [hjoin, slashed_append_cons (by decide)] at h
          rcases h with h | h
          · exact ⟨first, List.mem_cons_self, h.trans (List.infix_append' [] first tail)⟩
          · obtain ⟨part, hpart, hslashed⟩ := ih (List.cons_ne_nil _ _) h
            exact ⟨part, List.mem_cons_of_mem _ hpart, hslashed⟩

/-- Slashes in a key, or at its end before another text, are in one of its members. -/
theorem slashed_members {key : String} {tail : List Char} (h : Slashed (key.toList ++ tail)) :
    ∃ member ∈ mergeMembers key, Slashed (member.toList ++ tail) := by
  rw [← @List.intercalate_splitOn _ key.toList _ _ mergeSep] at h
  obtain ⟨part, hpart, hslashed⟩ := slashed_intercalate (List.splitOn_ne_nil _ _) h
  refine ⟨String.ofList part, mem_mergeMembers.mpr ?_, ?_⟩ <;> rwa [String.toList_ofList]

/-! ## The branches shown -/

section

variable [Collation] {layout : Layout} {expanded : List String} {rows : List Row}

/-- The levels that are opened: the branches above them are shown and expanded. -/
inductive Opened (layout : Layout) (expanded : List String) (rows : List Row) :
    List Row → List String → Prop
  | root : Opened layout expanded rows rows []
  | child {level trail dim buckets key inside} (hlevel : Opened layout expanded rows level trail)
      (hdim : effectiveDim layout trail = some dim)
      (hbuckets : applyMergesHidden layout (bucketize level dim) (pathOf trail) = some buckets)
      (hbucket : (key, inside) ∈ buckets.entries) (hopen : pathOf (key :: trail) ∈ expanded) :
      Opened layout expanded rows inside (key :: trail)

/-- The branches that are shown, with their rows: the buckets of opened levels. -/
inductive Shows (layout : Layout) (expanded : List String) (rows : List Row) :
    List String → List Row → Prop
  | branch {level trail dim buckets key inside} (hlevel : Opened layout expanded rows level trail)
      (hdim : effectiveDim layout trail = some dim)
      (hbuckets : applyMergesHidden layout (bucketize level dim) (pathOf trail) = some buckets)
      (hbucket : (key, inside) ∈ buckets.entries) :
      Shows layout expanded rows (key :: trail) inside

/-- The rendering throws at no level that is opened. -/
def Renders (layout : Layout) (expanded : List String) (rows : List Row) : Prop :=
  ∀ level trail dim, Opened layout expanded rows level trail →
    effectiveDim layout trail = some dim →
      ∃ buckets, applyMergesHidden layout (bucketize level dim) (pathOf trail) = some buckets

/-- What the rendering of a level gives, branch by branch. -/
theorem mem_renderNodes {level : List Row} {trail : List String} {dim : String} {buckets : Buckets}
    {items : List Item} (hdim : effectiveDim layout trail = some dim)
    (hbuckets : applyMergesHidden layout (bucketize level dim) (pathOf trail) = some buckets)
    (h : renderNodes layout expanded level trail = some items) (item : Item) :
    item ∈ items ↔ ∃ entry ∈ buckets.entries, item = .branch (entry.1 :: trail) entry.2 ∨
      pathOf (entry.1 :: trail) ∈ expanded ∧ ∃ children,
        renderNodes layout expanded entry.2 (entry.1 :: trail) = some children ∧
          item ∈ children := by
  rw [renderNodes_branches expanded hdim hbuckets] at h
  obtain ⟨hall, rfl⟩ := collect_some h
  have hsorted := List.mergeSort_perm buckets.entries fun first second => keyLe first.1 second.1
  rw [List.mem_flatMap]
  refine exists_congr fun entry => ?_
  rw [hsorted.mem_iff]
  refine and_congr_right fun hentry => ?_
  have hentryAll := hall entry (hsorted.mem_iff.mpr hentry)
  by_cases hopen : pathOf (entry.1 :: trail) ∈ expanded
  · cases hchildren : renderNodes layout expanded entry.2 (entry.1 :: trail) with
    | none => simp [hopen, hchildren] at hentryAll
    | some children => simp [hopen]
  · simp [hopen]

theorem renderNodes_of_renders (h : Renders layout expanded rows) {level : List Row}
    {trail : List String} (hlevel : Opened layout expanded rows level trail) :
    ∃ items, renderNodes layout expanded level trail = some items :=
  renderNodes_isSome_of h .child hlevel

/-- The items of an opened level are among those of the tree. -/
theorem Opened.items {level : List Row} {trail : List String} {items : List Item}
    (hlevel : Opened layout expanded rows level trail)
    (h : renderNodes layout expanded rows [] = some items) :
    ∃ inner, renderNodes layout expanded level trail = some inner ∧
      ∀ item ∈ inner, item ∈ items := by
  induction hlevel with
  | root => exact ⟨items, h, fun _ hitem => hitem⟩
  | @child level trail dim buckets key inside hlevel hdim hbuckets hbucket hopen ih =>
      obtain ⟨outer, houter, hsub⟩ := ih
      have hall := houter
      rw [renderNodes_branches expanded hdim hbuckets] at hall
      have hsorted := List.mergeSort_perm buckets.entries fun first second =>
        keyLe first.1 second.1
      have hentry := (collect_some hall).1 _ (hsorted.mem_iff.mpr hbucket)
      rw [if_pos hopen] at hentry
      obtain ⟨inner, hinner, -⟩ := Option.map_eq_some_iff.mp hentry
      exact ⟨inner, hinner, fun item hitem => hsub item
        ((mem_renderNodes hdim hbuckets houter item).mpr
          ⟨_, hbucket, .inr ⟨hopen, inner, hinner, hitem⟩⟩)⟩

theorem renders_of_renderNodes {items : List Item}
    (h : renderNodes layout expanded rows [] = some items) : Renders layout expanded rows := by
  intro level trail dim hlevel hdim
  obtain ⟨inner, hinner, -⟩ := hlevel.items h
  cases hbuckets : applyMergesHidden layout (bucketize level dim) (pathOf trail) with
  | none =>
      rw [renderNodes_stuck expanded hdim hbuckets] at hinner
      cases hinner
  | some buckets => exact ⟨buckets, rfl⟩

/-- A branch among the items of a level is shown. -/
theorem opened_of_item {level : List Row} {trail : List String} {items : List Item}
    (hlevel : Opened layout expanded rows level trail)
    (h : renderNodes layout expanded level trail = some items) {item : Item}
    (hmem : item ∈ items) :
    (∃ branch inside, item = .branch branch inside ∧ Shows layout expanded rows branch inside) ∨
      ∃ row table above, item = .leaf row ∧ Opened layout expanded rows table above ∧
        effectiveDim layout above = none ∧ row ∈ table := by
  induction level, trail using renderNodes.induct layout expanded generalizing items with
  | case1 level trail hdim =>
      rw [renderNodes_leaves expanded level hdim, Option.some.injEq] at h
      subst h
      obtain ⟨row, hrow, rfl⟩ := List.mem_map.mp hmem
      exact Or.inr ⟨row, level, trail, rfl, hlevel, hdim, List.mem_of_mem_take hrow⟩
  | case2 level trail dim hdim hbuckets =>
      rw [renderNodes_stuck expanded hdim hbuckets] at h
      cases h
  | case3 level trail dim hdim buckets hbuckets ih =>
      obtain ⟨entry, hentry, hbranch | ⟨hopen, children, hchildren, hin⟩⟩ :=
        (mem_renderNodes hdim hbuckets h _).mp hmem
      · exact Or.inl ⟨_, _, hbranch, .branch hlevel hdim hbuckets hentry⟩
      · exact ih entry hopen (.child hlevel hdim hbuckets hentry hopen) hchildren hin

theorem shows_of_mem {level : List Row} {trail : List String} {items : List Item}
    (hlevel : Opened layout expanded rows level trail)
    (h : renderNodes layout expanded level trail = some items) {branch : List String}
    {inside : List Row} (hmem : Item.branch branch inside ∈ items) :
    Shows layout expanded rows branch inside := by
  obtain ⟨_, _, heq, hshows⟩ | ⟨_, _, _, heq, -⟩ := opened_of_item hlevel h hmem
  · cases heq
    exact hshows
  · cases heq

/-- A row among the items of a level is in the table of an opened level. -/
theorem opened_of_leaf {level : List Row} {trail : List String} {items : List Item}
    (hlevel : Opened layout expanded rows level trail)
    (h : renderNodes layout expanded level trail = some items) {row : Row}
    (hmem : Item.leaf row ∈ items) :
    ∃ table above, Opened layout expanded rows table above ∧
      effectiveDim layout above = none ∧ row ∈ table := by
  obtain ⟨_, _, heq, -⟩ | ⟨_, table, above, heq, hleaf⟩ := opened_of_item hlevel h hmem
  · cases heq
  · cases heq
    exact ⟨table, above, hleaf⟩

theorem mem_of_shows {items : List Item} (h : renderNodes layout expanded rows [] = some items)
    {branch : List String} {inside : List Row} (hshows : Shows layout expanded rows branch inside) :
    Item.branch branch inside ∈ items := by
  cases hshows with
  | branch hlevel hdim hbuckets hbucket =>
      obtain ⟨inner, hinner, hsub⟩ := hlevel.items h
      exact hsub _ ((mem_renderNodes hdim hbuckets hinner _).mpr ⟨_, hbucket, .inl rfl⟩)

theorem Opened.of_nil {level : List Row} {trail : List String}
    (h : Opened layout expanded [] level trail) : level = [] ∧ trail = [] := by
  induction h with
  | root => exact ⟨rfl, rfl⟩
  | @child level trail dim _ _ _ _ _ hbuckets hbucket _ ih =>
      obtain ⟨rfl, rfl⟩ := ih
      obtain ⟨buckets, hnil, hentries⟩ := applyMergesHidden_nil layout dim (pathOf [])
      rw [hnil, Option.some.injEq] at hbuckets
      rw [← hbuckets, hentries] at hbucket
      cases hbucket

/-- Without a dimension for the first level there is no other. -/
theorem Opened.of_no_dim (hdim : effectiveDim layout [] = none) {level : List Row}
    {trail : List String} (h : Opened layout expanded rows level trail) : trail = [] := by
  induction h with
  | root => rfl
  | child _ hother _ _ _ ih =>
      rw [ih, hdim] at hother
      cases hother

theorem not_shows_nil {branch : List String} {inside : List Row} :
    ¬ Shows layout expanded [] branch inside := by
  rintro @⟨level, trail, dim, _, _, _, hlevel, _, hbuckets, hbucket⟩
  obtain ⟨rfl, rfl⟩ := hlevel.of_nil
  obtain ⟨buckets, hnil, hentries⟩ := applyMergesHidden_nil layout dim (pathOf [])
  rw [hnil, Option.some.injEq] at hbuckets
  rw [← hbuckets, hentries] at hbucket
  cases hbucket

/-- The tree is rendered if and only if no level that is opened throws. -/
theorem renderTree_iff : (∃ items, renderTree layout expanded rows = some items) ↔
    Renders layout expanded rows := by
  rw [renderTree]
  split
  · case isTrue hrows =>
      subst hrows
      refine iff_of_true ⟨_, rfl⟩ fun level trail dim hlevel _ => ?_
      obtain ⟨rfl, rfl⟩ := hlevel.of_nil
      exact (applyMergesHidden_nil layout dim _).imp fun _ h => h.1
  · cases hdim : effectiveDim layout [] with
    | some dim =>
        exact ⟨fun h => h.elim fun _ h => renders_of_renderNodes h,
          fun h => renderNodes_of_renders h .root⟩
    | none =>
        refine iff_of_true ⟨_, rfl⟩ fun level trail dim hlevel htrail => ?_
        rw [hlevel.of_no_dim hdim, hdim] at htrail
        cases htrail

/-- The branches among the items of the tree are those that are shown. -/
theorem branch_mem_renderTree {items : List Item} (h : renderTree layout expanded rows = some items)
    (branch : List String) (inside : List Row) :
    Item.branch branch inside ∈ items ↔ Shows layout expanded rows branch inside := by
  rw [renderTree] at h
  split at h
  · case isTrue hrows =>
      subst hrows
      cases h
      exact iff_of_false List.not_mem_nil not_shows_nil
  · cases hdim : effectiveDim layout [] with
    | some dim =>
        rw [hdim] at h
        exact ⟨shows_of_mem .root h, mem_of_shows h⟩
    | none =>
        rw [hdim] at h
        cases h
        refine iff_of_false List.not_mem_nil ?_
        rintro @⟨_, _, _, _, _, _, hlevel, hother, _, _⟩
        rw [hlevel.of_no_dim hdim, hdim] at hother
        cases hother

/-- A row among the items of the tree is in the table of an opened level. -/
theorem leaf_mem_renderTree {items : List Item} (h : renderTree layout expanded rows = some items)
    {row : Row} (hmem : Item.leaf row ∈ items) :
    ∃ table above, Opened layout expanded rows table above ∧
      effectiveDim layout above = none ∧ row ∈ table := by
  rw [renderTree] at h
  split at h
  · cases h
    cases hmem
  · cases hdim : effectiveDim layout [] with
    | some dim =>
        rw [hdim] at h
        exact opened_of_leaf .root h hmem
    | none =>
        rw [hdim] at h
        cases h
        cases hmem

end

end IsePortal.Tree
