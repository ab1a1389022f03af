import IsePortal.Api.Deps
import IsePortal.Service.EndpointReads

/-!
# Who sees an auto-tagged endpoint

`create_endpoint` writes the username of a non-admin into `HypervisionRoles`, the list of roles is
read back by splitting at commas and stripping, and `_endpoint_visible` compares what comes out with
effective roles in which the username stands as it is. `UserCreate` admits any 3 to 64 characters;
`auto_tag_visible_iff` says for which of them the creator sees the endpoint and no one else does.
-/

namespace IsePortal

open Library EndpointCache

/-- `UserCreate.username` -/
def admitsUsername (username : String) : Prop := 3 ≤ username.length ∧ username.length ≤ 64

instance (username : String) : Decidable (admitsUsername username) :=
  inferInstanceAs (Decidable (_ ∧ _))

/-! ## Splitting -/

section Split

variable {α : Type*} [DecidableEq α] {sep : α} {text : List α}

theorem not_mem_of_mem_splitOn : ∀ part ∈ text.splitOn sep, sep ∉ part := by
  induction text with
  | nil => simp
  | cons first rest ih =>
      rw [List.splitOn_cons_eq_if_modifyHead]
      split
      · intro part hpart
        rcases List.mem_cons.mp hpart with rfl | hrest
        · exact List.not_mem_nil
        · exact ih part hrest
      · rename_i hfirst
        intro part hpart
        cases hparts : rest.splitOn sep with
        | nil => exact absurd hparts (List.splitOn_ne_nil _ _)
        | cons head parts =>
            rw [hparts] at hpart ih
            rcases List.mem_cons.mp hpart with rfl | hrest
            · intro hmem
              rcases List.mem_cons.mp hmem with rfl | htail
              · exact hfirst (by simp)
              · exact ih head List.mem_cons_self htail
            · exact ih part (List.mem_cons_of_mem _ hrest)

omit [DecidableEq α] in
theorem infix_intercalate {parts : List (List α)} {part : List α} (hpart : part ∈ parts) :
    part <:+: [sep].intercalate parts := by
  induction parts with
  | nil => cases hpart
  | cons first rest ih =>
      cases rest with
      | nil =>
          rw [List.mem_singleton.mp hpart, List.intercalate_singleton]
      | cons second rest =>
          rw [List.intercalate_cons_cons]
          rcases List.mem_cons.mp hpart with rfl | hrest
          · exact ⟨[], [sep] ++ [sep].intercalate (second :: rest), by simp⟩
          · exact (ih hrest).trans (List.suffix_append _ _).isInfix

theorem infix_of_mem_splitOn {part : List α} (hpart : part ∈ text.splitOn sep) :
    part <:+: text := by
  have hpiece : part <:+: [sep].intercalate (text.splitOn sep) := infix_intercalate hpart
  rwa [List.intercalate_splitOn] at hpiece

end Split

section Visibility

variable [PyText]

/-- A role read back from the attribute is a stripped part of it between commas. -/
theorem mem_parse_roles_csv {csv role : String} :
    role ∈ parseRolesCsv csv ↔
      ∃ part ∈ csv.toList.splitOn ',', PyText.strip (String.ofList part) = role ∧ role ≠ "" := by
  unfold parseRolesCsv
  split
  · rename_i hempty
    subst hempty
    constructor
    · intro hrole
      cases hrole
    · rintro ⟨part, hpart, rfl, hrole⟩
      rw [show "".toList = ([] : List Char) from rfl, List.splitOn_nil, List.mem_singleton] at hpart
      subst hpart
      exact absurd PyText.strip_empty hrole
  · simp only [List.mem_filter, List.mem_map, ne_eq, decide_eq_true_eq]
    constructor
    · rintro ⟨⟨part, hpart, hrole⟩, hne⟩
      exact ⟨part, hpart, hrole, hne⟩
    · rintro ⟨part, hpart, hrole, hne⟩
      exact ⟨⟨part, hpart, hrole⟩, hne⟩

/-- A role of the attribute that is the whole attribute is all of it: there is no comma in it and
nothing to strip. -/
theorem whole_of_mem_parse_roles_csv [LawfulText] {csv : String} (h : csv ∈ parseRolesCsv csv) :
    ',' ∉ csv.toList ∧ PyText.strip csv = csv := by
  obtain ⟨part, hpart, hstrip, _⟩ := mem_parse_roles_csv.mp h
  have hpiece : csv.toList <:+: part := by
    have hcut := LawfulText.strip_infix (String.ofList part)
    rwa [hstrip, String.toList_ofList] at hcut
  have hwhole : part = csv.toList :=
    (infix_of_mem_splitOn hpart).eq_of_length_le hpiece.length_le
  refine ⟨hwhole ▸ not_mem_of_mem_splitOn part hpart, ?_⟩
  rw [hwhole, String.ofList_toList] at hstrip
  exact hstrip

/-- Without a comma and with nothing to strip, the attribute is read back as it was written. -/
theorem parse_roles_csv_whole {csv : String} (hne : csv ≠ "") (hcomma : ',' ∉ csv.toList)
    (hstrip : PyText.strip csv = csv) : parseRolesCsv csv = [csv] := by
  rw [parseRolesCsv, if_neg hne, List.splitOn_eq_singleton hcomma, List.map_singleton,
    String.ofList_toList, hstrip]
  simp [hne]

/-- The attributes ISE keeps of an endpoint that a non-admin created without roles. -/
theorem created_roles {psk : PskSettings} {attrs : Option CustomAttrs} {username stamp : String}
    {ca : Attrs} (hne : username ≠ "")
    (hroles : PyText.strip ((requestAttrs attrs).attr rolesAttr) = "")
    (hcreate : createAttrs psk attrs (some username) stamp = .ok ca) :
    Attrs.attr (ca.filterValues (· ≠ "")) rolesAttr = username := by
  have hblank : PyText.strip (Attrs.attr ((requestAttrs attrs).set hiddenAttr "true") rolesAttr) =
      "" := by
    unfold Attrs.attr
    rw [Dict.get?_set_ne _ _ (by decide)]
    exact hroles
  simp only [createAttrs] at hcreate
  rw [applyAutoTag_blank hne hblank] at hcreate
  split at hcreate
  · cases hcreate
  · cases hcreate
    unfold Attrs.attr
    rw [Dict.get?_filterValues, get?_pskEncodeCa_ne psk _ (by decide),
      get?_stampRegisteredAt_ne _ _ (by decide), Dict.get?_set_self,
      Option.filter_some, if_pos (by simpa using hne)]
    rfl

omit [PyText] in
theorem mem_effective_roles {user : User} {role : String} :
    role ∈ effectiveRoles user ↔ role ∈ user.assignedEndpointRoles ∨ role = user.username := by
  unfold effectiveRoles
  rw [List.mem_eraseDups, List.mem_append, List.mem_singleton]

variable [DetailCodec]

/-- The creator sees the endpoint, and of the other users only admins and those who have the
creator's username among their effective roles. -/
def VisibleToCreator (detail : EndpointDetail) (creator : User) : Prop :=
  endpointVisible detail (effectiveRoles creator) = true ∧
    ∀ other : User, other.role ≠ .admin →
      endpointVisible detail (effectiveRoles other) = true →
        ∃ role ∈ effectiveRoles other, PyText.lower role = PyText.lower creator.username

/-- `_endpoint_visible` for a user, who always has a role. -/
theorem user_sees_iff {detail : EndpointDetail} {user : User} :
    endpointVisible detail (effectiveRoles user) = true ↔
      ∃ role ∈ detail.roles, role ≠ "" ∧ ∃ own ∈ effectiveRoles user, own ≠ "" ∧
        PyText.lower own = PyText.lower role := by
  have hown : effectiveRoles user ≠ [] :=
    List.ne_nil_of_mem (mem_effective_roles.mpr (Or.inr rfl))
  simp only [endpointVisible, if_neg hown, List.any_eq_true, Bool.and_eq_true, decide_eq_true_eq,
    List.mem_map, List.mem_filter, CacheValue.roles]
  constructor
  · rintro ⟨role, hrole, hne, own, ⟨hmem, hownne⟩, hlower⟩
    exact ⟨role, hrole, hne, own, hmem, hownne, hlower⟩
  · rintro ⟨role, hrole, hne, own, hmem, hownne, hlower⟩
    exact ⟨role, hrole, hne, own, ⟨hmem, hownne⟩, hlower⟩

/-- An endpoint created without roles is its creator's alone exactly for the usernames without a
comma and with nothing to strip. -/
theorem auto_tag_visible_iff [LawfulText] {creator : User} (hrole : creator.role ≠ .admin)
    (husername : admitsUsername creator.username) {psk : PskSettings} {attrs : Option CustomAttrs}
    {stamp : String} {ca : Attrs}
    (hroles : PyText.strip ((requestAttrs attrs).attr rolesAttr) = "")
    (hcreate : createAttrs psk attrs (autotagFor creator) stamp = .ok ca)
    (lookups : Lookups) (endpointId : EndpointId) {raw : RawEndpoint}
    (hstored : raw.customAttributes = ca.filterValues (· ≠ "")) :
    VisibleToCreator (fetchEndpointDetail lookups endpointId raw) creator ↔
      ',' ∉ creator.username.toList ∧ PyText.strip creator.username = creator.username := by
  have hne : creator.username ≠ "" := by
    intro hempty
    have hlength := husername.1
    rw [hempty] at hlength
    exact absurd hlength (by decide)
  rw [autotagFor, if_neg hrole] at hcreate
  have hdetail : (fetchEndpointDetail lookups endpointId raw).roles =
      parseRolesCsv creator.username := by
    show parseRolesCsv (raw.customAttributes.attr rolesAttr) = _
    rw [hstored, created_roles hne hroles hcreate]
  have hmine : creator.username ∈ effectiveRoles creator := mem_effective_roles.mpr (Or.inr rfl)
  constructor
  · rintro ⟨hcreator, hothers⟩
    obtain ⟨role, hparsed, hrolene, _⟩ := user_sees_iff.mp hcreator
    rw [hdetail] at hparsed
    -- a user who is called like the role that was read back
    have hnamesake := hothers { username := role, role := .viewer } Role.noConfusion
      (user_sees_iff.mpr ⟨role, hdetail ▸ hparsed, hrolene, role,
        mem_effective_roles.mpr (Or.inr rfl), hrolene, rfl⟩)
    obtain ⟨own, hown, hlower⟩ := hnamesake
    have hname : own = role := by
      rcases mem_effective_roles.mp hown with hassigned | hname
      · cases hassigned
      · exact hname
    obtain ⟨part, hpart, hstrip, _⟩ := mem_parse_roles_csv.mp hparsed
    have hpiece : role.toList <:+: creator.username.toList := by
      have hcut := LawfulText.strip_infix (String.ofList part)
      rw [hstrip, String.toList_ofList] at hcut
      exact hcut.trans (infix_of_mem_splitOn hpart)
    have hsame : role = creator.username := LawfulText.lower_infix hpiece (hname ▸ hlower)
    exact whole_of_mem_parse_roles_csv (hsame ▸ hparsed)
  · rintro ⟨hcomma, hstrip⟩
    have hwhole := parse_roles_csv_whole hne hcomma hstrip
    refine ⟨user_sees_iff.mpr ⟨creator.username, ?_, hne, _, hmine, hne, rfl⟩, ?_⟩
    · rw [hdetail, hwhole]
      exact List.mem_singleton_self _
    · intro other _ hvisible
      obtain ⟨role, hparsed, _, own, hown, _, hlower⟩ := user_sees_iff.mp hvisible
      rw [hdetail, hwhole, List.mem_singleton] at hparsed
      exact ⟨own, hown, by rw [hlower, hparsed]⟩

end Visibility

/-! ## Two creators -/

section Examples

local instance tagText : PyText := asciiText

local instance tagCodec : DetailCodec := plainJson

def tagPsk : PskSettings where
  policy := { minLength := 8, requireUppercase := false, requireNumbers := false,
              requireSpecial := false }

/-- What ISE has of an endpoint created without attributes. -/
def createdBy (username : String) : RawEndpoint :=
  { name := "AA:BB:CC:00:00:01"
    customAttributes := Dict.filterValues
      (((Dict.empty.set hiddenAttr "true").set rolesAttr username).set registeredAtAttr
        "2026-02-01T10:00:00Z") (· ≠ "") }

def tagLookups : Lookups := { setOrder := fun _ => [] }

theorem auto_tag_visible_iff_jan :
    VisibleToCreator (fetchEndpointDetail tagLookups "ep-1" (createdBy "jan"))
      { username := "jan", role := .registrant } := by
  have hcreate : createAttrs tagPsk none (autotagFor { username := "jan", role := .registrant })
      "2026-02-01T10:00:00Z" = .ok _ := rfl
  have hiff := @auto_tag_visible_iff _ _ lawful_ascii { username := "jan", role := .registrant }
    (by decide) (by decide) _ _ _ _ (by decide) hcreate tagLookups "ep-1" (createdBy "jan") rfl
  exact hiff.mpr (by decide)

/-- The endpoint of a creator called `net,ops` is not its own and is shown to `ops`. -/
theorem auto_tag_leaks :
    admitsUsername "net,ops" ∧
      (∃ ca, createAttrs tagPsk none (autotagFor { username := "net,ops", role := .registrant })
          "2026-02-01T10:00:00Z" = .ok ca ∧
        (createdBy "net,ops").customAttributes = ca.filterValues (· ≠ "")) ∧
      ¬ VisibleToCreator (fetchEndpointDetail tagLookups "ep-1" (createdBy "net,ops"))
        { username := "net,ops", role := .registrant } ∧
      endpointVisible (fetchEndpointDetail tagLookups "ep-1" (createdBy "net,ops"))
        (effectiveRoles { username := "ops", role := .registrant }) = true := by
  refine ⟨by decide, ⟨_, rfl, rfl⟩, fun h => ?_, by decide⟩
  exact absurd h.1 (by decide)

end Examples

end IsePortal
