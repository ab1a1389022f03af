import IsePortal.Ise.Server
import IsePortal.Policy.Conditions

/-!
# Group conditions on endpoints of ISE

ISE writes a group condition with the full path of a group, and means the group and all groups
below it. `_eval_identity_group` compares paths that way, but `_fetch_ep_from_ise` gives it the
short name of the endpoint's group, for which it only looks at the end of the path.
`identity_group_iff` says when the result is ISE's.
-/

namespace IsePortal

open Library

/-- An endpoint identity group as `list_all` collects it. -/
structure GroupRecord where
  name : String
  parentId : String := ""

/-- The groups of ISE by their id: no group is below itself, and no name has a colon. -/
structure GroupHierarchy where
  byId : Dict String GroupRecord
  id_ne : "" ∉ byId.keys
  acyclic : ∃ height : String → Nat, ∀ id group, byId.get? id = some group →
    ∀ parent, byId.get? group.parentId = some parent → height group.parentId < height id
  name_plain : ∀ id group, byId.get? id = some group → ':' ∉ group.name.toList

/-- The groups that are still to come on a path. -/
def unvisited (byId : Dict String GroupRecord) (visited : List String) (id : String) : Nat :=
  (byId.keys.filter fun key => key ∉ visited).length + if id ∈ byId.keys then 0 else 1

theorem unvisited_lt {byId : Dict String GroupRecord} {visited : List String} {id parentId : String}
    (hid : id ∉ visited) (hparent : parentId ∈ byId.keys) :
    unvisited byId (id :: visited) parentId < unvisited byId visited id := by
  unfold unvisited
  rw [if_pos hparent]
  have hsub : (byId.keys.filter fun key => key ∉ id :: visited).Sublist
      (byId.keys.filter fun key => key ∉ visited) :=
    List.monotone_filter_right byId.keys fun key hkey => by
      simp only [List.mem_cons, not_or, decide_eq_true_eq] at hkey ⊢
      exact hkey.2
  by_cases hmem : id ∈ byId.keys
  · have hne : (byId.keys.filter fun key => key ∉ id :: visited) ≠
        byId.keys.filter fun key => key ∉ visited := by
      intro heq
      have hin : id ∈ byId.keys.filter fun key => key ∉ visited :=
        List.mem_filter.mpr ⟨hmem, decide_eq_true hid⟩
      rw [← heq, List.mem_filter] at hin
      simp at hin
    have hlt := lt_of_le_of_ne hsub.length_le fun h => hne (hsub.eq_of_length h)
    rw [if_pos hmem]
    exact hlt
  · have hle := hsub.length_le
    rw [if_neg hmem]
    omega

/-- `_full_path`: the names from the root of the group down to it. -/
def fullPathFrom (byId : Dict String GroupRecord) (visited : List String) (id : String)
    (group : GroupRecord) : String :=
  if _ : id ∈ visited then group.name
  else if group.parentId = "" then group.name
  else
    match _ : byId.get? group.parentId with
    | none => group.name
    | some parent =>
        let parentName := fullPathFrom byId (id :: visited) group.parentId parent
        if parentName = "" then group.name else parentName ++ ":" ++ group.name
  termination_by unvisited byId visited id
  decreasing_by exact unvisited_lt ‹_› (Dict.mem_keys_iff.mpr ⟨parent, ‹_›⟩)

namespace GroupHierarchy

variable (groups : GroupHierarchy)

/-- The full path of a group. -/
def fullPath (id : String) (group : GroupRecord) : String := fullPathFrom groups.byId [] id group

/-- `_get_group_names`: the short names by id. -/
def groupNames : Dict String String := groups.byId.mapValues GroupRecord.name

/-- The first group is the second or below it. -/
inductive IsBelow : String → String → Prop where
  | self (id : String) : IsBelow id id
  | child {id other : String} {group parent : GroupRecord}
      (hgroup : groups.byId.get? id = some group)
      (hparent : groups.byId.get? group.parentId = some parent)
      (h : IsBelow group.parentId other) : IsBelow id other

end GroupHierarchy

namespace GroupHierarchy

variable {groups : GroupHierarchy}

/-- A path is the name of its group, alone or after the path of the parent. -/
theorem fullPath_eq_or (groups : GroupHierarchy) (id : String) (group : GroupRecord) :
    groups.fullPath id group = group.name ∨
      ∃ front, groups.fullPath id group = front ++ ":" ++ group.name := by
  rw [GroupHierarchy.fullPath, fullPathFrom]
  split
  · exact .inl rfl
  · split
    · exact .inl rfl
    · split
      · exact .inl rfl
      · dsimp only
        split
        · exact .inl rfl
        · exact .inr ⟨_, rfl⟩

end GroupHierarchy

/-- What ISE answers for an endpoint of the group: `equals` holds for the group of the condition
and all groups below it. -/
def IseHolds (groups : GroupHierarchy) (op groupId ruleId : String) : Prop :=
  if op = "equals" then groups.IsBelow groupId ruleId else ¬ groups.IsBelow groupId ruleId

section Evaluator

variable [PyText]

/-- `_fetch_ep_from_ise`, with the names `_get_group_names` gives. -/
def fetchedEndpoint (groupNames : Dict String String) (raw : RawEndpoint) : PolicyEndpoint :=
  let ca := raw.customAttributes
  let groupName := if raw.groupId = "" then "" else (groupNames.get? raw.groupId).getD ""
  let pskRaw := PyText.lower (ca.attr pskModeAttr)
  { fields := ⟨[("owner", ca.attr "Owner"), ("endpoint_type", ca.attr "Type"),
      ("lokation", ca.attr "Lokation"), ("authz_vlan", ca.attr "AuthzVlan"),
      ("authz_acl", ca.attr "AuthzACL"), ("platform_type", ca.attr "PlatformType"),
      ("psk_mode", if pskRaw = "true" then "true" else "false"),
      ("description", raw.description.getD ""), ("group_name", groupName),
      ("guest_registration", ca.attr guestRegistrationAttr),
      ("registret_by", ca.attr "RegistretBy"),
      ("guest_expery_date", ca.attr guestExperyDateAttr),
      ("guest_access_expire", ca.attr guestAccessExpireAttr),
      ("active_status", ca.attr activeAttr), ("status", ca.attr "HypervisionStatus"),
      ("hypervision", ca.attr hiddenAttr), ("hypervision_roles", ca.attr rolesAttr)],
      by simp⟩ }

/-! ## What the evaluator compares -/

/-- Only a colon has a colon in its lower case. -/
class LawfulLower [PyText] : Prop where
  colon_of_lower (text : String) : ':' ∈ (PyText.lower text).toList → ':' ∈ text.toList

/-- The path ends in the name. -/
def EndsIn (path name : String) : Prop :=
  path = name ∨ (name ≠ "" ∧ (":" ++ name).toList <:+ path.toList)

/-- A short name is never looked for anywhere but at the end. -/
theorem inIdentityGroup_iff_of_plain {epVal : String}
    (hplain : ':' ∉ (PyText.lower epVal).toList) (ruleVal : String) :
    inIdentityGroup epVal ruleVal = true ↔
      EndsIn (PyText.lower ruleVal) (PyText.lower epVal) := by
  have hbelow : ¬ (PyText.lower ruleVal ++ ":").toList <+: (PyText.lower epVal).toList := by
    intro hbelow
    refine hplain (hbelow.subset ?_)
    rw [String.toList_append, List.mem_append]
    exact .inr (by decide)
  unfold inIdentityGroup EndsIn
  simp only [Bool.or_eq_true, Bool.and_eq_true, decide_eq_true_eq, Bool.not_eq_true',
    List.contains_eq_mem, decide_eq_false_iff_not, hbelow, or_false, hplain, not_false_eq_true,
    and_true]
  exact or_congr eq_comm Iff.rfl

variable [PyRegex]

/-- The condition on the endpoint as it is fetched. -/
theorem evalCondition_fetched (groups : GroupHierarchy) {raw : RawEndpoint} {group : GroupRecord}
    (hgroup : groups.byId.get? raw.groupId = some group) (op value : String) (isNegate : Bool) :
    (evalCondition (fetchedEndpoint groups.groupNames raw)
        (.leaf (.attributes "IdentityGroup" "Name" op value) isNegate)).1 =
      evalIdentityGroup (PyText.lower group.name) op value := by
  have hid : raw.groupId ≠ "" := fun h =>
    groups.id_ne (h ▸ Dict.mem_keys_iff.mpr ⟨group, hgroup⟩)
  have hname : (fetchedEndpoint groups.groupNames raw).fields.get? "group_name" =
      some group.name := by
    show some (if raw.groupId = "" then "" else (groups.groupNames.get? raw.groupId).getD "") = _
    rw [if_neg hid, GroupHierarchy.groupNames, Dict.get?_mapValues, hgroup]
    rfl
  have hvalue : getEpValue (fetchedEndpoint groups.groupNames raw) "IdentityGroup" "Name" =
      some (PyText.lower group.name) := by
    rw [getEpValue, if_neg (by decide), if_pos ⟨rfl, rfl⟩, hname]
    rfl
  have hleaf : leafValue (fetchedEndpoint groups.groupNames raw)
      (.attributes "IdentityGroup" "Name" op value) =
        some (evalIdentityGroup (PyText.lower group.name) op value) := by
    rw [leafValue, if_neg (by decide), hvalue, Option.map_some, if_pos ⟨rfl, rfl⟩]
  show (evalLeaf _ _).1 = _
  rw [evalLeaf_fst, AndOrTree.assume, hleaf, Option.getD_some]

/-- The short name of the endpoint's group tells whether the group is the one of the condition or
below it: the path of the condition ends in the short name, both in lower case, where it is, and
does not where it is not. -/
def ShortNameTells (groups : GroupHierarchy) (groupId : String) (group : GroupRecord)
    (ruleId : String) (rule : GroupRecord) : Prop :=
  let value := PyText.lower (groups.fullPath ruleId rule)
  let name := PyText.lower (PyText.lower group.name)
  (groups.IsBelow groupId ruleId → EndsIn value name) ∧
    (¬ groups.IsBelow groupId ruleId → ¬ EndsIn value name)

/-- A condition with the full path of a group has ISE's truth value on an endpoint exactly when
the short name of the endpoint's group tells. -/
theorem identity_group_iff [LawfulLower] (groups : GroupHierarchy) (raw : RawEndpoint)
    (group rule : GroupRecord) (ruleId : String) (isNegate : Bool)
    (hgroup : groups.byId.get? raw.groupId = some group) :
    (∀ op, op = "equals" ∨ op = "notEquals" →
        ((evalCondition (fetchedEndpoint groups.groupNames raw)
            (.leaf (.attributes "IdentityGroup" "Name" op (groups.fullPath ruleId rule))
              isNegate)).1 = true ↔
          IseHolds groups op raw.groupId ruleId)) ↔
      ShortNameTells groups raw.groupId group ruleId rule := by
  have hplain : ':' ∉ (PyText.lower (PyText.lower group.name)).toList := fun h =>
    groups.name_plain _ _ hgroup (LawfulLower.colon_of_lower _ (LawfulLower.colon_of_lower _ h))
  have hends := inIdentityGroup_iff_of_plain hplain (groups.fullPath ruleId rule)
  simp only [forall_eq_or_imp, forall_eq, evalCondition_fetched groups hgroup]
  have hequals : evalIdentityGroup (PyText.lower group.name) "equals"
      (groups.fullPath ruleId rule) =
        inIdentityGroup (PyText.lower group.name) (groups.fullPath ruleId rule) := rfl
  have hnot : evalIdentityGroup (PyText.lower group.name) "notEquals"
      (groups.fullPath ruleId rule) =
        !inIdentityGroup (PyText.lower group.name) (groups.fullPath ruleId rule) := rfl
  have hise : IseHolds groups "equals" raw.groupId ruleId ↔
      groups.IsBelow raw.groupId ruleId := Iff.rfl
  have hiseNot : IseHolds groups "notEquals" raw.groupId ruleId ↔
      ¬ groups.IsBelow raw.groupId ruleId := Iff.rfl
  rw [hequals, hnot, hise, hiseNot, Bool.not_eq_true', ← Bool.not_eq_true, hends, not_iff_not,
    and_self]
  unfold ShortNameTells
  dsimp only
  constructor
  · exact fun h => ⟨h.mpr, fun hbelow hend => hbelow (h.mp hend)⟩
  · exact fun h => ⟨fun hend => by_contra fun hbelow => h.2 hbelow hend, h.1⟩

/-! ## Name by name -/

omit [PyText] [PyRegex] in
/-- Of two names without a colon one ends what the other ends only where they are the same. -/
theorem suffix_colon_iff {front name last : List Char} (hname : ':' ∉ name) (hlast : ':' ∉ last) :
    ':' :: name <:+ front ++ ':' :: last ↔ name = last := by
  constructor
  · intro hsuffix
    have hother : ':' :: last <:+ front ++ ':' :: last := List.suffix_append _ _
    -- both begin with a colon, so the longer one would hold a second
    rcases List.suffix_or_suffix_of_suffix hsuffix hother with h | h
    · rcases List.suffix_cons_iff.mp h with heq | htail
      · exact (List.cons.inj heq).2
      · exact absurd (htail.subset List.mem_cons_self) hlast
    · rcases List.suffix_cons_iff.mp h with heq | htail
      · exact (List.cons.inj heq).2.symm
      · exact absurd (htail.subset List.mem_cons_self) hname
  · rintro rfl
    exact List.suffix_append _ _

omit [PyRegex] in
/-- Where lower case goes name by name, a path ends in a short name when its last name is that one,
in any case. -/
theorem endsIn_fullPath_iff [LawfulLower] (groups : GroupHierarchy) {groupId ruleId : String}
    {group rule : GroupRecord} (hgroup : groups.byId.get? groupId = some group)
    (hrule : groups.byId.get? ruleId = some rule)
    (hparts : ∀ front, PyText.lower (front ++ ":" ++ rule.name) =
      PyText.lower front ++ ":" ++ PyText.lower rule.name)
    (hidem : PyText.lower (PyText.lower group.name) = PyText.lower group.name)
    (hname : PyText.lower group.name ≠ "") :
    EndsIn (PyText.lower (groups.fullPath ruleId rule)) (PyText.lower (PyText.lower group.name)) ↔
      PyText.lower rule.name = PyText.lower group.name := by
  have hplain : ':' ∉ (PyText.lower group.name).toList := fun h =>
    groups.name_plain _ _ hgroup (LawfulLower.colon_of_lower _ h)
  have hrulePlain : ':' ∉ (PyText.lower rule.name).toList := fun h =>
    groups.name_plain _ _ hrule (LawfulLower.colon_of_lower _ h)
  have hlist : (":" ++ PyText.lower group.name).toList =
      ':' :: (PyText.lower group.name).toList := by
    rw [String.toList_append]
    rfl
  rw [hidem, EndsIn, and_iff_right hname, hlist]
  rcases GroupHierarchy.fullPath_eq_or groups ruleId rule with hpath | ⟨front, hpath⟩
  · rw [hpath]
    refine or_iff_left fun hsuffix => ?_
    exact hrulePlain (hsuffix.subset List.mem_cons_self)
  · have hcolon : (PyText.lower front ++ ":" ++ PyText.lower rule.name).toList =
        (PyText.lower front).toList ++ ':' :: (PyText.lower rule.name).toList := by
      rw [String.toList_append, String.toList_append, List.append_assoc]
      rfl
    rw [hpath, hparts, hcolon, suffix_colon_iff hplain hrulePlain, String.toList_inj]
    have hne : PyText.lower front ++ ":" ++ PyText.lower rule.name ≠ PyText.lower group.name := by
      intro heq
      rw [← heq, hcolon] at hplain
      exact hplain (List.mem_append_right _ List.mem_cons_self)
    rw [or_iff_right hne]
    exact eq_comm

omit [PyRegex] in
/-- Name by name: the short name tells when the groups above have the same one and no other group
has. -/
theorem shortNameTells_iff [LawfulLower] (groups : GroupHierarchy) {groupId ruleId : String}
    {group rule : GroupRecord} (hgroup : groups.byId.get? groupId = some group)
    (hrule : groups.byId.get? ruleId = some rule)
    (hparts : ∀ front, PyText.lower (front ++ ":" ++ rule.name) =
      PyText.lower front ++ ":" ++ PyText.lower rule.name)
    (hidem : PyText.lower (PyText.lower group.name) = PyText.lower group.name)
    (hname : PyText.lower group.name ≠ "") :
    ShortNameTells groups groupId group ruleId rule ↔
      (groups.IsBelow groupId ruleId → PyText.lower rule.name = PyText.lower group.name) ∧
        (¬ groups.IsBelow groupId ruleId → PyText.lower rule.name ≠ PyText.lower group.name) := by
  have hends := endsIn_fullPath_iff groups hgroup hrule hparts hidem hname
  unfold ShortNameTells
  dsimp only
  rw [hends]

end Evaluator

/-! ## A group below the group of the condition -/

theorem lawfulLower_ascii : @LawfulLower asciiText := by
  refine @LawfulLower.mk asciiText fun text hcolon => ?_
  have hmem : ':' ∈ text.toList.map Char.toLower := by
    have hlist : (@PyText.lower asciiText text).toList = text.toList.map Char.toLower :=
      String.toList_ofList
    exact hlist ▸ hcolon
  obtain ⟨c, hc, hlower⟩ := List.mem_map.mp hmem
  unfold Char.toLower at hlower
  split at hlower
  · next hupper =>
      have hval : c.val + 32 = 58 := congrArg Char.val hlower
      have hle : 65 ≤ c.val ∧ c.val ≤ 90 := hupper
      rw [← UInt32.toNat_inj, UInt32.toNat_add] at hval
      rw [UInt32.le_iff_toNat_le, UInt32.le_iff_toNat_le] at hle
      simp at hval hle
      omega
  · exact hlower ▸ hc

/-- A group and one below it. -/
def appleGroups : GroupHierarchy where
  byId := ⟨[("p", { name := "Profiled" }), ("a", { name := "Apple", parentId := "p" })],
    by decide⟩
  id_ne := by decide
  acyclic := by
    refine ⟨fun id => if id = "a" then 1 else 0, fun id group hgroup parent hparent => ?_⟩
    have hmem := Dict.get?_eq_some_iff.mp hgroup
    rcases List.mem_cons.mp hmem with heq | hmem
    · cases heq
      cases hparent
    · cases List.mem_singleton.mp hmem
      decide
  name_plain := by
    intro id group hgroup
    have hmem := Dict.get?_eq_some_iff.mp hgroup
    rcases List.mem_cons.mp hmem with heq | hmem
    · cases heq
      decide
    · cases List.mem_singleton.mp hmem
      decide

/-- The upper group is its own path. -/
theorem fullPath_profiled : appleGroups.fullPath "p" { name := "Profiled" } = "Profiled" := by
  rw [GroupHierarchy.fullPath, fullPathFrom, dif_neg List.not_mem_nil, if_pos rfl]

/-- On an endpoint of the upper group the condition on that group is right. -/
theorem own_group_is_met :
    (@evalCondition asciiText ⟨fun _ _ => false⟩
        (@fetchedEndpoint asciiText appleGroups.groupNames { groupId := "p" })
        (.leaf (.attributes "IdentityGroup" "Name" "equals"
          (appleGroups.fullPath "p" { name := "Profiled" })) false)).1 = true ↔
      IseHolds appleGroups "equals" "p" "p" := by
  refine (@identity_group_iff asciiText ⟨fun _ _ => false⟩ lawfulLower_ascii appleGroups
    { groupId := "p" } { name := "Profiled" } { name := "Profiled" } "p" false rfl).mpr
    ⟨fun _ => ?_, fun h => absurd (GroupHierarchy.IsBelow.self "p") h⟩ "equals" (.inl rfl)
  rw [fullPath_profiled]
  exact .inl (by decide)

/-- An endpoint of the lower group does not meet the condition on the upper one. -/
theorem lower_group_is_missed :
    ¬ ∀ op, op = "equals" ∨ op = "notEquals" →
      ((@evalCondition asciiText ⟨fun _ _ => false⟩
          (@fetchedEndpoint asciiText appleGroups.groupNames { groupId := "a" })
          (.leaf (.attributes "IdentityGroup" "Name" op
            (appleGroups.fullPath "p" { name := "Profiled" })) false)).1 = true ↔
        IseHolds appleGroups op "a" "p") := by
  intro h
  have hbelow : IseHolds appleGroups "equals" "a" "p" :=
    GroupHierarchy.IsBelow.child rfl rfl (GroupHierarchy.IsBelow.self "p")
  have heval := (h "equals" (.inl rfl)).mpr hbelow
  rw [fullPath_profiled] at heval
  exact absurd heval (by decide)

end IsePortal
