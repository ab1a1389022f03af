import IsePortal.Library.Dict

/-!
# The paths of the endpoint groups

The last step of `list_all` in `app/ise/endpoints.py`: a group is named by the names from the top of
its hierarchy down. The hierarchy is what ISE answers, so a chain of parents can end at an unknown
id or run in a circle. `_full_path` stops at a group it has seen; each other call sees one more of
the known groups, which bounds their number.
-/

namespace IsePortal.GroupPaths

open Library

/-- A group, as far as its path goes: `g.get("id", "")`, `g.get("name", "")` and
`g.get("parentId", "")`, each a text or `None`. -/
structure Group where
  id : Option String
  name : Option String
  parentId : Option String

/-- `g["id"]: g for g in detailed if g.get("id")` -/
def entryOf (g : Group) : Option (String × Group) :=
  match g.id with
  | none => none
  | some id => if id = "" then none else some (id, g)

/-- `by_id` -/
def byId (detailed : List Group) : Dict String Group :=
  (detailed.filterMap entryOf).foldl (fun known entry => known.set entry.1 entry.2) .empty

/-- `f"{parent_name}:{name}" if parent_name else name` -/
def pathBelow (parentName name : Option String) : Option String :=
  match parentName with
  | none => name
  | some text => if text = "" then name else some (text ++ ":" ++ name.getD "None")

/-- The parent of a group, if it is known. -/
def parentOf (known : Dict String Group) (g : Group) : Option Group :=
  g.parentId.bind fun id => if id = "" then none else known.get? id

/-- `_full_path`, with a bound on the depth of the recursion. -/
def fullPath (known : Dict String Group) :
    Nat → Group → List (Option String) → Option (Option String)
  | 0, _, _ => none
  | fuel + 1, g, visited =>
      if g.id ∈ visited then some g.name
      else
        match parentOf known g with
        | none => some g.name
        | some parent =>
            (fullPath known fuel parent (g.id :: visited)).map fun parentName =>
              pathBelow parentName g.name

/-- The paths of all groups. -/
def fullPaths (fuel : Nat) (detailed : List Group) : Option (List (Option String)) :=
  detailed.mapM fun g => fullPath (byId detailed) fuel g []

/-! ## The known groups -/

/-- The last group of the list that has the id. -/
def lastWithId (detailed : List Group) (id : String) : Option Group :=
  detailed.reverse.find? fun g => g.id = some id

theorem entryOf_eq_some {g : Group} {entry : String × Group} :
    entryOf g = some entry ↔ g.id = some entry.1 ∧ entry.1 ≠ "" ∧ entry.2 = g := by
  unfold entryOf
  obtain ⟨id, other⟩ := entry
  cases hg : g.id with
  | none => simp
  | some key =>
      by_cases hkey : key = ""
      · subst hkey
        simp only [if_pos]
        refine iff_of_false (fun h => by cases h) ?_
        rintro ⟨h, hne, -⟩
        exact hne (Option.some.inj h).symm
      · simp only [if_neg hkey, Option.some.injEq, Prod.mk.injEq]
        constructor
        · rintro ⟨rfl, rfl⟩
          exact ⟨rfl, hkey, rfl⟩
        · rintro ⟨rfl, -, rfl⟩
          exact ⟨rfl, rfl⟩

theorem lookup_entries (groups : List Group) {id : String} (hid : id ≠ "") :
    (groups.filterMap entryOf).lookup id = groups.find? fun g => g.id = some id := by
  induction groups with
  | nil => rfl
  | cons g rest ih =>
      rw [List.find?_cons]
      cases hentry : entryOf g with
      | none =>
          have hother : decide (g.id = some id) = false := by
            refine decide_eq_false fun heq => ?_
            rw [(@entryOf_eq_some g (id, g)).mpr ⟨heq, hid, rfl⟩] at hentry
            cases hentry
          rw [List.filterMap_cons_none hentry, ih, hother]
      | some entry =>
          obtain ⟨key, other⟩ := entry
          obtain ⟨hkey, -, rfl⟩ := entryOf_eq_some.mp hentry
          rw [List.filterMap_cons_some hentry, List.lookup_cons, ih, hkey]
          by_cases heq : id = key
          · subst heq
            simp
          · have hb : (id == key) = false := by simpa using heq
            simp [hb, Ne.symm heq]

theorem lookup_entries_empty (groups : List Group) :
    (groups.filterMap entryOf).lookup "" = none := by
  cases h : (groups.filterMap entryOf).lookup "" with
  | none => rfl
  | some g =>
      obtain ⟨other, -, hentry⟩ := List.mem_filterMap.mp (Dict.mem_of_lookup_eq_some h)
      exact absurd rfl (entryOf_eq_some.mp hentry).2.1

/-- Of the groups with one id the last is known, and none without an id. -/
theorem get?_byId (detailed : List Group) (id : String) :
    (byId detailed).get? id = if id = "" then none else lastWithId detailed id := by
  rw [byId, Dict.get?_foldl_set_last, Dict.get?_empty, Option.or_none, ← List.filterMap_reverse]
  split
  · case isTrue h =>
      subst h
      exact lookup_entries_empty _
  · case isFalse h => exact lookup_entries _ h

theorem parentOf_byId {detailed : List Group} {g parent : Group} :
    parentOf (byId detailed) g = some parent ↔
      ∃ id, id ≠ "" ∧ g.parentId = some id ∧ lastWithId detailed id = some parent := by
  rw [parentOf, Option.bind_eq_some_iff]
  refine exists_congr fun id => ?_
  by_cases hid : id = "" <;> simp [hid, get?_byId]

/-- A known parent has the id it is known under. -/
theorem id_of_parentOf {detailed : List Group} {g parent : Group}
    (h : parentOf (byId detailed) g = some parent) :
    ∃ id ∈ (byId detailed).keys, parent.id = some id := by
  obtain ⟨id, hid, -, hlast⟩ := parentOf_byId.mp h
  refine ⟨id, Dict.mem_keys_iff.mpr ⟨parent, by rw [get?_byId, if_neg hid, hlast]⟩, ?_⟩
  exact of_decide_eq_true (List.find?_some hlast :)

theorem length_keys_byId (detailed : List Group) :
    (byId detailed).keys.length ≤ detailed.length := by
  have hsub : ∀ id ∈ (byId detailed).keys, some id ∈ detailed.map Group.id := by
    intro id hid
    obtain ⟨g, hg⟩ := Dict.mem_keys_iff.mp hid
    rw [get?_byId] at hg
    split at hg
    · cases hg
    · have hmem := List.mem_reverse.mp (List.mem_of_find?_eq_some hg)
      have hkey : g.id = some id := of_decide_eq_true (List.find?_some hg :)
      exact List.mem_map.mpr ⟨g, hmem, hkey⟩
  have hnodup : ((byId detailed).keys.map some).Nodup :=
    (byId detailed).nodup.map (Option.some_injective _)
  have hle := (List.subperm_of_subset hnodup fun id hid => by
    obtain ⟨key, hkey, rfl⟩ := List.mem_map.mp hid
    exact hsub key hkey).length_le
  simpa using hle

/-! ## The depth of the recursion -/

/-- The ids of known groups that have not been seen. -/
def unseen (known : Dict String Group) (visited : List (Option String)) : List String :=
  known.keys.filter fun id => some id ∉ visited

theorem length_unseen_lt {known : Dict String Group} {visited : List (Option String)} {id : String}
    (hknown : id ∈ known.keys) (hnew : some id ∉ visited) :
    (unseen known (some id :: visited)).length < (unseen known visited).length := by
  have hsub : (unseen known (some id :: visited)).Sublist (unseen known visited) := by
    refine List.monotone_filter_right _ fun other h => ?_
    simp only [List.mem_cons, not_or, decide_eq_true_iff] at h ⊢
    exact h.2
  refine lt_of_le_of_ne hsub.length_le fun heq => ?_
  have hmem : id ∈ unseen known visited := List.mem_filter.mpr ⟨hknown, decide_eq_true hnew⟩
  rw [← hsub.eq_of_length heq] at hmem
  exact of_decide_eq_true (List.mem_filter.mp hmem).2 List.mem_cons_self

/-- A known group is reached once more for each known group that has not been seen. -/
theorem fullPath_known {detailed : List Group} {fuel : Nat} {g : Group}
    {visited : List (Option String)} (hg : ∃ id ∈ (byId detailed).keys, g.id = some id)
    (hfuel : (unseen (byId detailed) visited).length < fuel) :
    ∃ path, fullPath (byId detailed) fuel g visited = some path := by
  induction fuel generalizing g visited with
  | zero => exact absurd hfuel (Nat.not_lt_zero _)
  | succ fuel ih =>
      rw [fullPath]
      split
      · exact ⟨_, rfl⟩
      · case isFalse hnew =>
          cases hparent : parentOf (byId detailed) g with
          | none => exact ⟨_, rfl⟩
          | some parent =>
              obtain ⟨id, hid, heq⟩ := hg
              rw [heq] at hnew
              have hless := length_unseen_lt hid hnew
              obtain ⟨path, hpath⟩ := @ih parent (g.id :: visited) (id_of_parentOf hparent)
                (by rw [heq]; omega)
              exact ⟨pathBelow path g.name, by simp only [hpath, Option.map_some]⟩

/-- Every recursion ends within one call more than there are groups. -/
theorem fullPath_ends {detailed : List Group} {fuel : Nat} (hfuel : detailed.length + 2 ≤ fuel)
    (g : Group) : ∃ path, fullPath (byId detailed) fuel g [] = some path := by
  obtain ⟨fuel, rfl⟩ : ∃ less, fuel = less + 1 := ⟨fuel - 1, by omega⟩
  rw [fullPath, if_neg List.not_mem_nil]
  cases hparent : parentOf (byId detailed) g with
  | none => exact ⟨_, rfl⟩
  | some parent =>
      have hkeys : (unseen (byId detailed) [g.id]).length ≤ detailed.length :=
        (List.length_filter_le _ _).trans (length_keys_byId detailed)
      obtain ⟨path, hpath⟩ := @fullPath_known detailed fuel parent [g.id]
        (id_of_parentOf hparent) (by omega)
      exact ⟨pathBelow path g.name, by simp only [hpath, Option.map_some]⟩

/-- A larger bound changes nothing. -/
theorem fullPath_of_le {known : Dict String Group} {fuel more : Nat} (hle : fuel ≤ more) {g : Group}
    {visited : List (Option String)} {path : Option String}
    (h : fullPath known fuel g visited = some path) :
    fullPath known more g visited = some path := by
  induction fuel generalizing more g visited path with
  | zero => cases h
  | succ fuel ih =>
      obtain ⟨more, rfl⟩ : ∃ less, more = less + 1 := ⟨more - 1, by omega⟩
      rw [fullPath] at h ⊢
      split
      · case isTrue hseen => rwa [if_pos hseen] at h
      · case isFalse hnew =>
          rw [if_neg hnew] at h
          cases hparent : parentOf known g with
          | none => simpa only [hparent] using h
          | some parent =>
              simp only [hparent] at h
              obtain ⟨parentName, hname, rfl⟩ := Option.map_eq_some_iff.mp h
              simp only [ih (Nat.le_of_succ_le_succ hle) hname, Option.map_some]

/-! ## Chains of parents -/

/-- A group with the groups above it, up to one whose parent is not in the list. -/
inductive Ancestry (detailed : List Group) : List Group → Prop
  | top {g : Group} (htop : ∀ id, g.parentId = some id → id = "" ∨ lastWithId detailed id = none) :
      Ancestry detailed [g]
  | child {g parent : Group} {above : List Group} {id : String} (hid : id ≠ "")
      (hparent : g.parentId = some id) (hlast : lastWithId detailed id = some parent)
      (h : Ancestry detailed (parent :: above)) : Ancestry detailed (g :: parent :: above)

theorem parentOf_eq_none {detailed : List Group} {g : Group}
    (h : ∀ id, g.parentId = some id → id = "" ∨ lastWithId detailed id = none) :
    parentOf (byId detailed) g = none := by
  cases hparent : parentOf (byId detailed) g with
  | none => rfl
  | some parent =>
      obtain ⟨id, hid, hg, hlast⟩ := parentOf_byId.mp hparent
      rcases h id hg with hempty | hnone
      · exact absurd hempty hid
      · rw [hnone] at hlast
        cases hlast

/-- The names of a chain are joined, and the result is not empty. -/
theorem fullPath_chain {detailed chain : List Group} (h : Ancestry detailed chain) {g : Group}
    {above : List Group} (hchain : chain = g :: above) {visited : List (Option String)}
    (hnew : ∀ member ∈ chain, member.id ∉ visited) (hids : (chain.map Group.id).Nodup)
    {names : List String} (hnames : chain.map Group.name = names.map some)
    (hne : ∀ name ∈ names, name ≠ "") {fuel : Nat} {path : Option String}
    (hpath : fullPath (byId detailed) fuel g visited = some path) :
    path = some (":".intercalate names.reverse) ∧ ":".intercalate names.reverse ≠ "" := by
  induction h generalizing g above visited names fuel path with
  | @top first htop =>
      cases hchain
      cases fuel with
      | zero => cases hpath
      | succ fuel =>
          rw [fullPath, if_neg (hnew first List.mem_cons_self), parentOf_eq_none htop,
            Option.some.injEq] at hpath
          obtain ⟨name, rfl⟩ : ∃ name, names = [name] := by
            refine List.length_eq_one_iff.mp ?_
            simpa using (congrArg List.length hnames).symm
          rw [List.map_singleton, List.map_singleton, List.singleton_inj] at hnames
          rw [← hpath, hnames, List.reverse_singleton, String.intercalate_singleton]
          exact ⟨rfl, hne name List.mem_cons_self⟩
  | @child first parent rest id hid hparent hlast _ ih =>
      cases hchain
      cases fuel with
      | zero => cases hpath
      | succ fuel =>
          have hfound : parentOf (byId detailed) first = some parent :=
            parentOf_byId.mpr ⟨id, hid, hparent, hlast⟩
          simp only [fullPath, if_neg (hnew first List.mem_cons_self), hfound] at hpath
          obtain ⟨parentName, hparentName, rfl⟩ := Option.map_eq_some_iff.mp hpath
          cases names with
          | nil => cases hnames
          | cons name names =>
              obtain ⟨hname, hnames⟩ := List.cons.inj hnames
              rw [List.forall_mem_cons] at hne
              obtain ⟨hout, hrest⟩ := List.nodup_cons.mp hids
              obtain ⟨rfl, htext⟩ := ih rfl (fun member hmember hseen => by
                rcases List.mem_cons.mp hseen with heq | hseen
                · exact hout (heq ▸ List.mem_map_of_mem hmember)
                · exact hnew member (List.mem_cons_of_mem first hmember) hseen) hrest hnames hne.2
                hparentName
              have hnonempty : names.reverse ≠ [] := by
                intro hnil
                rw [hnil] at htext
                exact htext String.intercalate_nil
              rw [pathBelow, hname, List.reverse_cons,
                String.intercalate_append_of_ne_nil hnonempty (List.cons_ne_nil _ _),
                String.intercalate_singleton]
              refine ⟨by rw [if_neg htext, Option.getD_some], fun hempty => ?_⟩
              have hlength := congrArg (fun text : String => text.toList.length) hempty
              simp at hlength

/-- The paths of all groups are built, and where the chain of a group has names and ids of its own
the path is its names from the top, joined by `:`. -/
theorem full_paths (detailed : List Group) : ∃ path : Group → Option String,
    (∀ fuel, detailed.length + 2 ≤ fuel →
      fullPaths fuel detailed = some (detailed.map path)) ∧
    ∀ g above, ∀ names : List String, Ancestry detailed (g :: above) →
      ((g :: above).map Group.id).Nodup → (g :: above).map Group.name = names.map some →
      (∀ name ∈ names, name ≠ "") →
        path g = some (":".intercalate names.reverse) := by
  have hends : ∀ g, ∃ path, ∀ fuel, detailed.length + 2 ≤ fuel →
      fullPath (byId detailed) fuel g [] = some path := by
    intro g
    obtain ⟨path, hpath⟩ := fullPath_ends (Nat.le_refl _) g
    exact ⟨path, fun fuel hfuel => fullPath_of_le hfuel hpath⟩
  choose path hpath using hends
  refine ⟨path, fun fuel hfuel => ?_, fun g above names hancestry hids hnames hne => ?_⟩
  · rw [fullPaths, funext fun g => hpath g fuel hfuel]
    exact List.mapM_pure
  · exact (fullPath_chain hancestry rfl (fun _ _ => List.not_mem_nil) hids hnames hne
      (hpath g _ (Nat.le_refl _))).1

/-- Two groups that are each other's parent, and one below them. -/
example : fullPaths 5 [⟨some "1", some "A", some "2"⟩, ⟨some "2", some "B", some "1"⟩,
    ⟨some "3", some "C", some "1"⟩] =
      some [some "A:B:A", some "B:A:B", some "A:B:A:C"] := by decide

end IsePortal.GroupPaths
