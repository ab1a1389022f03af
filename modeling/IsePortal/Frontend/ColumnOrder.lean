import IsePortal.Api.Me

/-!
# The order of the columns

`getOrderedColumns` of `js/views/browse-utils.js`: the stored keys that name a column come first, in
the stored order, and the other columns after them. A key that is stored twice gives its column
twice, so the result has every column once exactly where no column is named twice.
-/

namespace IsePortal.Columns

open Library

/-- A column of the table: its key, the key of its label and its class. -/
structure Column where
  key : String
  label : String
  cls : Option String
  deriving DecidableEq

/-- A column that is labelled by its key and has no class of its own. -/
def column (key : String) : Column := ⟨key, "col." ++ key, none⟩

/-- `cls: "authz-col"` -/
def authzColumn (key : String) : Column := ⟨key, "col." ++ key, some "authz-col"⟩

/-- `getColumns` -/
def getColumns : List Column :=
  [column "mac", column "auth_status", column "vendor", column "group_name",
    column "static_group", column "description", column "endpoint_type", column "owner",
    column "lokation", column "registret_by", column "guest_registration",
    column "guest_expery_date", column "guest_access_expire", column "platform_type",
    column "psk_mode", authzColumn "psk_key", authzColumn "authz_vlan", authzColumn "authz_acl",
    column "roles", column "first_seen", column "nas", column "client_ip", column "ise_session"]

theorem nodup_getColumns : (getColumns.map Column.key).Nodup := by decide

/-- `new Map(cols.map(c => [c.key, c]))` -/
def columnMap (cols : List Column) : Dict String Column :=
  (cols.map fun c => (c.key, c)).foldl (fun map entry => map.set entry.1 entry.2) .empty

/-- The columns in a stored order. -/
def orderColumns (cols : List Column) (order : List String) : List Column :=
  order.filterMap (columnMap cols).get? ++ cols.filter fun c => c.key ∉ order

/-- `getOrderedColumns`, with the order that `loadColOrder` gives. -/
def getOrderedColumns : Option (List String) → List Column
  | none => getColumns
  | some order => if order = [] then getColumns else orderColumns getColumns order

/-- `applyBackendColPrefs`, as far as the order goes: an order that is stored stays. -/
def applyBackendColPrefs (order stored : Option (List String)) : Option (List String) :=
  match order, stored with
  | some order, none => if order = [] then none else some order
  | _, stored => stored

/-- Each column once, the stored keys that name one first and in the stored order, the others in the
default order. -/
structure Arranged (cols : List Column) (order : List String) (result : List Column) : Prop where
  once : result.Perm cols
  parts : ∃ first rest, result = first ++ rest ∧
    (∀ c, c ∈ first ↔ c ∈ cols ∧ c.key ∈ order) ∧ (first.map Column.key).Sublist order ∧
    rest.Sublist cols

section

variable {cols : List Column} {order : List String}

theorem get?_columnMap (hkeys : (cols.map Column.key).Nodup) {key : String} {c : Column} :
    (columnMap cols).get? key = some c ↔ c ∈ cols ∧ c.key = key := by
  have hnodup : ((cols.map fun c => (c.key, c)).map Prod.fst).Nodup := by
    rw [List.map_map]
    exact hkeys
  rw [columnMap, Dict.get?_foldl_set _ _ _ hnodup, Dict.get?_empty, Option.or_none]
  constructor
  · intro h
    obtain ⟨other, hother, heq⟩ := List.mem_map.mp (Dict.mem_of_lookup_eq_some h)
    cases heq
    exact ⟨hother, rfl⟩
  · rintro ⟨hmem, rfl⟩
    exact Dict.lookup_eq_some_of_mem hnodup (List.mem_map_of_mem hmem)

/-- The columns that are named, in the stored order. -/
theorem map_key_named (hkeys : (cols.map Column.key).Nodup) :
    (order.filterMap (columnMap cols).get?).map Column.key =
      order.filter fun key => key ∈ cols.map Column.key := by
  induction order with
  | nil => rfl
  | cons key rest ih =>
      cases hfound : (columnMap cols).get? key with
      | none =>
          have hout : key ∉ cols.map Column.key := by
            intro hmem
            obtain ⟨c, hc, hkey⟩ := List.mem_map.mp hmem
            rw [(get?_columnMap hkeys).mpr ⟨hc, hkey⟩] at hfound
            cases hfound
          rw [List.filterMap_cons_none hfound, List.filter_cons_of_neg (by simpa using hout), ih]
      | some c =>
          obtain ⟨hc, rfl⟩ := (get?_columnMap hkeys).mp hfound
          rw [List.filterMap_cons_some hfound, List.map_cons,
            List.filter_cons_of_pos (by simpa using ⟨c, hc, rfl⟩), ih]

theorem mem_named (hkeys : (cols.map Column.key).Nodup) {c : Column} :
    c ∈ order.filterMap (columnMap cols).get? ↔ c ∈ cols ∧ c.key ∈ order := by
  rw [List.mem_filterMap]
  constructor
  · rintro ⟨key, hkey, hfound⟩
    obtain ⟨hc, rfl⟩ := (get?_columnMap hkeys).mp hfound
    exact ⟨hc, hkey⟩
  · rintro ⟨hc, hkey⟩
    exact ⟨c.key, hkey, (get?_columnMap hkeys).mpr ⟨hc, rfl⟩⟩

/-- The order is a permutation of the columns if and only if it names none twice. -/
theorem arranged_iff (hkeys : (cols.map Column.key).Nodup) :
    Arranged cols order (orderColumns cols order) ↔
      (order.filter fun key => key ∈ cols.map Column.key).Nodup := by
  rw [← map_key_named hkeys]
  constructor
  · intro h
    have hall := (h.once.map Column.key).nodup_iff.mpr hkeys
    rw [orderColumns, List.map_append] at hall
    exact (List.nodup_append'.mp hall).1
  · intro hnamed
    refine ⟨?_, _, _, rfl, fun c => mem_named hkeys, ?_, List.filter_sublist⟩
    · have hcols : cols.Nodup := .of_map _ hkeys
      refine (List.perm_ext_iff_of_nodup ?_ hcols).mpr fun c => ?_
      · refine List.nodup_append'.mpr ⟨.of_map _ hnamed, hcols.filter _, fun c hc hrest => ?_⟩
        exact of_decide_eq_true (List.mem_filter.mp hrest).2 ((mem_named hkeys).mp hc).2
      · rw [orderColumns, List.mem_append, mem_named hkeys, List.mem_filter, decide_eq_true_iff]
        by_cases hkey : c.key ∈ order <;> simp [hkey]
    · rw [map_key_named hkeys]
      exact List.filter_sublist

end

/-- The table has every column once, and in the stored order, if and only if no column is named
twice. -/
theorem column_order_iff (stored : Option (List String)) :
    Arranged getColumns (stored.getD []) (getOrderedColumns stored) ↔
      ((stored.getD []).filter fun key => key ∈ getColumns.map Column.key).Nodup := by
  have hempty : Arranged getColumns [] getColumns :=
    ⟨.refl _, [], _, rfl, fun c => by simp, .slnil, .refl _⟩
  cases stored with
  | none => exact iff_of_true hempty List.nodup_nil
  | some order =>
      rw [getOrderedColumns, Option.getD_some]
      split
      · case isTrue h =>
          subst h
          exact iff_of_true hempty List.nodup_nil
      · exact arranged_iff nodup_getColumns

/-- An order that names the MAC twice passes the checks of the preferences, and the table gets the
column twice. -/
theorem column_order_repeated :
    applyBackendColPrefs (some (safeColOrder ["mac", "vendor", "mac"])) none =
        some ["mac", "vendor", "mac"] ∧
      ¬ Arranged getColumns ["mac", "vendor", "mac"]
        (getOrderedColumns (some ["mac", "vendor", "mac"])) := by
  refine ⟨by decide, fun h => ?_⟩
  have hlength := h.once.length_eq
  revert hlength
  decide

end IsePortal.Columns
