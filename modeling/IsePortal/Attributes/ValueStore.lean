import Mathlib.Data.List.Sort
import IsePortal.Attributes.ValueCleanup

/-!
# The store of attribute values

`app/core/custom_attr_store.py`, and how `sync_platform_from_mnt` writes through it. The file holds
the values offered for each managed attribute, `_cache` what was last read or written. A read that
fails answers with the empty default, and what writes after it writes the default over the file.
`attribute_values_kept_iff` says when a run of operations loses nothing.
-/

namespace IsePortal.ValueStore

open Library

/-- `MANAGED_ATTRS` -/
def managedAttrs : List String :=
  ["Type", "Owner", "Lokation", "AuthzVlan", "AuthzACL", platformTypeAttr, "RegistretBy",
    guestRegistrationAttr]

theorem managedAttrs_nodup : managedAttrs.Nodup := by decide

/-- The values of each attribute, as a JSON object. -/
abbrev Values := Dict String (List String)

/-- `data.get(attr, [])` -/
def valuesOf (data : Values) (attr : String) : List String := (data.get? attr).getD []

/-- `sorted(set(values))` -/
def sortedSet (values : List String) : List String := values.dedup.insertionSort (· ≤ ·)

/-- `{attr: f(attr) for attr in MANAGED_ATTRS}` -/
def tabulate (f : String → List String) : Values :=
  ⟨managedAttrs.map fun attr => (attr, f attr), by
    rw [List.map_map]
    exact (congrArg List.Nodup (List.map_id managedAttrs)).mpr managedAttrs_nodup⟩

/-- `_default` -/
def defaultValues : Values := tabulate fun _ => []

/-- Each managed attribute with its values sorted and once each. -/
def clean (data : Values) : Values := tabulate fun attr => sortedSet (valuesOf data attr)

/-- The file, `none` where it does not exist, and `_cache`. -/
structure Store where
  file : Option Values
  cache : Option Values := none

/-- `load_values`, where `fails` says that reading or parsing an existing file raises. -/
def Store.load (store : Store) (fails : Bool) : Values × Store :=
  match store.file with
  | none => (defaultValues, { store with cache := some defaultValues })
  | some data =>
      if fails then
        (defaultValues, store)
      else
        (clean data, { store with cache := some (clean data) })

/-- `save_values` -/
def Store.save (_store : Store) (data : Values) : Store :=
  { file := some (clean data), cache := some (clean data) }

/-- The operations, with the fault of the one read each makes. -/
inductive Op where
  | add (attr value : String) (fails : Bool)
  | merge (discovered : Values) (fails : Bool)
  | autoDiscover (ca : Attrs) (fails : Bool)
  | syncSave (newValues : List String) (fails : Bool)
  | remove (attr value : String) (fails : Bool)

/-- `add_value` -/
def Store.addValue (store : Store) (attr value : String) (fails : Bool) : Store :=
  let (data, store) := store.load fails
  if attr ∈ data.keys ∧ value ∉ valuesOf data attr then
    store.save (data.set attr (sortedSet (valuesOf data attr ++ [value])))
  else
    store

/-- `remove_value` -/
def Store.removeValue (store : Store) (attr value : String) (fails : Bool) : Store :=
  let (data, store) := store.load fails
  if attr ∈ data.keys ∧ value ∈ valuesOf data attr then
    store.save (data.set attr ((valuesOf data attr).erase value))
  else
    store

/-- `merge_values` -/
def Store.mergeValues (store : Store) (discovered : Values) (fails : Bool) : Store :=
  let (data, store) := store.load fails
  store.save (managedAttrs.foldl (fun data attr =>
    data.set attr (sortedSet (valuesOf data attr ++ valuesOf discovered attr))) data)

/-- The end of `sync_platform_from_mnt`. -/
def Store.syncSave (store : Store) (newValues : List String) (fails : Bool) : Store :=
  if newValues = [] then
    store
  else
    let (data, store) := store.load fails
    store.save (data.set platformTypeAttr
      (sortedSet (valuesOf data platformTypeAttr ++ newValues)))

variable [PyText]

/-- `(ca.get(attr) or "").strip()` -/
def offered (ca : Attrs) (attr : String) : String := PyText.strip (ca.attr attr)

/-- The values of `ca` that the store does not have. -/
def newFound (ca : Attrs) (current : Values) : List String :=
  managedAttrs.filter fun attr =>
    offered ca attr ≠ "" ∧ offered ca attr ∉ valuesOf current attr

/-- The store when `auto_discover_values` looks at the cache, which is read only while unset. -/
def Store.ready (store : Store) (fails : Bool) : Store :=
  if store.cache.isNone then (store.load fails).2 else store

/-- `auto_discover_values`, `none` where it raises: a cache that is still unset after the read has
no `get`. -/
def Store.autoDiscover (store : Store) (ca : Attrs) (fails : Bool) : Option Store :=
  let store := store.ready fails
  match store.cache with
  | none => if ∀ attr ∈ managedAttrs, offered ca attr = "" then some store else none
  | some current =>
      if newFound ca current = [] then
        some store
      else
        some (store.save ((newFound ca current).foldl (fun data attr =>
          data.set attr (sortedSet (valuesOf data attr ++ [offered ca attr]))) current))

/-- Whether the operation raises. -/
def Store.raises (store : Store) : Op → Bool
  | .autoDiscover ca fails => (store.autoDiscover ca fails).isNone
  | _ => false

/-- The store after the operation. One that raises has changed nothing. -/
def Store.apply (store : Store) : Op → Store
  | .add attr value fails => store.addValue attr value fails
  | .merge discovered fails => store.mergeValues discovered fails
  | .autoDiscover ca fails => (store.autoDiscover ca fails).getD store
  | .syncSave newValues fails => store.syncSave newValues fails
  | .remove attr value fails => store.removeValue attr value fails

/-- The store after the operations in order. -/
def Store.applyAll (store : Store) (ops : List Op) : Store := ops.foldl Store.apply store

/-- What is stored for an attribute. -/
def Store.stored (store : Store) (attr : String) : List String :=
  valuesOf (store.file.getD .empty) attr

/-- The operation removes exactly this value of this attribute. -/
def Op.Removes (op : Op) (attr value : String) : Prop := ∃ fails, op = .remove attr value fails

/-- Nothing is lost from the operations in order: no `auto_discover_values` raises, and what is
stored for a managed attribute at any point stays there until it is removed. -/
def KeptUntilRemoved (store : Store) (ops : List Op) : Prop :=
  (∀ before op after, ops = before ++ op :: after →
    (store.applyAll before).raises op = false) ∧
  ∀ before during after attr value, ops = before ++ during ++ after → attr ∈ managedAttrs →
    value ∈ (store.applyAll before).stored attr →
    (∀ op ∈ during, ¬ op.Removes attr value) →
    value ∈ (store.applyAll (before ++ during)).stored attr

/-- The read of the operation succeeds, or the operation does not write, or everything stored is
among what it writes itself. -/
def Store.Harmless (store : Store) : Op → Prop
  | .add attr value fails =>
      fails = false ∨ attr ∉ managedAttrs ∨
        ∀ other ∈ managedAttrs, ∀ old ∈ store.stored other, other = attr ∧ old = value
  | .merge discovered fails =>
      fails = false ∨
        ∀ attr ∈ managedAttrs, ∀ old ∈ store.stored attr, old ∈ valuesOf discovered attr
  | .autoDiscover ca fails =>
      fails = false ∨ store.file = none ∨ store.cache ≠ none ∨
        ∀ attr ∈ managedAttrs, offered ca attr = ""
  | .syncSave newValues fails =>
      fails = false ∨ newValues = [] ∨
        ∀ attr ∈ managedAttrs, ∀ old ∈ store.stored attr,
          attr = platformTypeAttr ∧ old ∈ newValues
  | .remove .. => True

/-! ## What one operation leaves -/

section Data

omit [PyText]

variable {data : Values} {attr value : String}

theorem mem_sortedSet {values : List String} : value ∈ sortedSet values ↔ value ∈ values := by
  rw [sortedSet, List.mem_insertionSort, List.mem_dedup]

theorem keys_tabulate (f : String → List String) : (tabulate f).keys = managedAttrs := by
  simp [Dict.keys, tabulate, Function.comp_def]

theorem valuesOf_tabulate (f : String → List String) (h : attr ∈ managedAttrs) :
    valuesOf (tabulate f) attr = f attr := by
  have hget : (tabulate f).get? attr = some (f attr) :=
    Dict.get?_eq_some_iff.mpr (List.mem_map.mpr ⟨attr, h, rfl⟩)
  rw [valuesOf, hget, Option.getD_some]

theorem valuesOf_empty : valuesOf .empty attr = [] := rfl

theorem valuesOf_defaultValues (h : attr ∈ managedAttrs) : valuesOf defaultValues attr = [] :=
  valuesOf_tabulate _ h

theorem mem_valuesOf_clean (h : attr ∈ managedAttrs) :
    value ∈ valuesOf (clean data) attr ↔ value ∈ valuesOf data attr := by
  rw [clean, valuesOf_tabulate _ h, mem_sortedSet]

theorem valuesOf_set (key : String) (values : List String) :
    valuesOf (data.set key values) attr = if attr = key then values else valuesOf data attr := by
  rw [valuesOf, Dict.get?_set]
  split <;> rfl

/-- What adding a list of values to one attribute leaves. -/
theorem mem_valuesOf_set_sortedSet (key : String) (more : List String) :
    value ∈ valuesOf (data.set key (sortedSet (valuesOf data key ++ more))) attr ↔
      value ∈ valuesOf data attr ∨ attr = key ∧ value ∈ more := by
  rw [valuesOf_set]
  split
  case isTrue h =>
      subst h
      simp [mem_sortedSet]
  case isFalse h => simp [h]

/-- What adding values to several attributes leaves. -/
theorem mem_valuesOf_foldl (more : String → List String) (attrs : List String) (data : Values) :
    value ∈ valuesOf (attrs.foldl (fun data key =>
        data.set key (sortedSet (valuesOf data key ++ more key))) data) attr ↔
      value ∈ valuesOf data attr ∨ attr ∈ attrs ∧ value ∈ more attr := by
  induction attrs generalizing data with
  | nil => simp
  | cons key rest ih =>
      rw [List.foldl_cons, ih, mem_valuesOf_set_sortedSet, List.mem_cons]
      constructor
      · rintro ((h | ⟨rfl, h⟩) | ⟨hrest, h⟩)
        · exact .inl h
        · exact .inr ⟨.inl rfl, h⟩
        · exact .inr ⟨.inr hrest, h⟩
      · rintro (h | ⟨rfl | hrest, h⟩)
        · exact .inl (.inl h)
        · exact .inl (.inr ⟨rfl, h⟩)
        · exact .inr ⟨hrest, h⟩

end Data

namespace Store

section Files

omit [PyText]

variable {store : Store} {attr value : String}

/-- What is saved is stored, for a managed attribute. -/
theorem mem_stored_save {data : Values} (h : attr ∈ managedAttrs) :
    value ∈ (store.save data).stored attr ↔ value ∈ valuesOf data attr :=
  mem_valuesOf_clean h

theorem file_load (fails : Bool) : (store.load fails).2.file = store.file := by
  unfold load
  split <;> [rfl; split <;> rfl]

theorem stored_load (fails : Bool) : (store.load fails).2.stored attr = store.stored attr := by
  rw [stored, file_load, stored]

theorem keys_load (fails : Bool) : (store.load fails).1.keys = managedAttrs := by
  unfold load
  split
  · exact keys_tabulate _
  · split <;> exact keys_tabulate _

/-- A read answers with what is stored when it succeeds, and with nothing when it fails. -/
theorem mem_load (fails : Bool) (h : attr ∈ managedAttrs) :
    value ∈ valuesOf (store.load fails).1 attr ↔ fails = false ∧ value ∈ store.stored attr := by
  unfold load stored
  cases store.file with
  | none => simp [valuesOf_defaultValues h, valuesOf_empty]
  | some data =>
      cases fails with
      | true => simp [valuesOf_defaultValues h]
      | false => simpa using mem_valuesOf_clean h

theorem mem_addValue {name added : String} {fails : Bool} (hname : name ∈ managedAttrs)
    (h : attr ∈ managedAttrs) :
    value ∈ (store.addValue name added fails).stored attr ↔
      fails = false ∧ value ∈ store.stored attr ∨ attr = name ∧ value = added := by
  unfold addValue
  simp only
  split
  case isTrue hwrites =>
      rw [mem_stored_save h, mem_valuesOf_set_sortedSet, mem_load fails h, List.mem_singleton]
  case isFalse hwrites =>
      rw [keys_load, not_and, not_not] at hwrites
      have hadded := (mem_load fails hname).mp (hwrites hname)
      rw [stored_load]
      constructor
      · intro hmem
        exact .inl ⟨hadded.1, hmem⟩
      · rintro (⟨-, hmem⟩ | ⟨rfl, rfl⟩)
        · exact hmem
        · exact hadded.2

/-- An attribute that is not managed is not written. -/
theorem stored_addValue {name added : String} {fails : Bool} (hname : name ∉ managedAttrs) :
    (store.addValue name added fails).stored attr = store.stored attr := by
  unfold addValue
  simp only
  rw [if_neg fun hwrites => hname (@keys_load store fails ▸ hwrites.1), stored_load]

theorem mem_mergeValues {discovered : Values} {fails : Bool} (h : attr ∈ managedAttrs) :
    value ∈ (store.mergeValues discovered fails).stored attr ↔
      fails = false ∧ value ∈ store.stored attr ∨ value ∈ valuesOf discovered attr := by
  unfold mergeValues
  simp only
  rw [mem_stored_save h, mem_valuesOf_foldl, mem_load fails h]
  simp [h]

theorem mem_syncSave {newValues : List String} {fails : Bool} (hnew : newValues ≠ [])
    (h : attr ∈ managedAttrs) :
    value ∈ (store.syncSave newValues fails).stored attr ↔
      fails = false ∧ value ∈ store.stored attr ∨ attr = platformTypeAttr ∧ value ∈ newValues := by
  unfold syncSave
  rw [if_neg hnew]
  simp only
  rw [mem_stored_save h, mem_valuesOf_set_sortedSet, mem_load fails h]

/-- Only the value that is removed goes. -/
theorem mem_removeValue {name removed : String} {fails : Bool} (h : attr ∈ managedAttrs)
    (hother : ¬ (attr = name ∧ value = removed)) (hmem : value ∈ store.stored attr) :
    value ∈ (store.removeValue name removed fails).stored attr := by
  unfold removeValue
  simp only
  split
  case isTrue hwrites =>
      have hname : name ∈ managedAttrs := @keys_load store fails ▸ hwrites.1
      have hread := ((mem_load fails hname).mp hwrites.2).1
      have hloaded := (mem_load fails h).mpr ⟨hread, hmem⟩
      rw [mem_stored_save h, valuesOf_set]
      split
      case isTrue hsame =>
          subst hsame
          exact (List.mem_erase_of_ne fun heq => hother ⟨rfl, heq⟩).mpr hloaded
      case isFalse hne => exact hloaded
  case isFalse hwrites =>
      rw [stored_load]
      exact hmem

/-- The cache has the values of the file. -/
def Coherent (store : Store) : Prop :=
  ∀ current, store.cache = some current → ∀ attr ∈ managedAttrs, ∀ value,
    value ∈ valuesOf current attr ↔ value ∈ store.stored attr

theorem coherent_save (data : Values) : (store.save data).Coherent := by
  rintro current ⟨⟩ attr _ value
  exact Iff.rfl

theorem Coherent.load (h : store.Coherent) (fails : Bool) : (store.load fails).2.Coherent := by
  intro current hcache attr hattr value
  rw [stored_load]
  revert hcache
  unfold Store.load
  cases hfile : store.file with
  | none =>
      rintro ⟨⟩
      simp [stored, hfile, valuesOf_defaultValues hattr, valuesOf_empty]
  | some data =>
      cases fails with
      | true => exact fun hcache => h current hcache attr hattr value
      | false =>
          rintro ⟨⟩
          rw [mem_valuesOf_clean hattr, stored, hfile, Option.getD_some]

theorem Coherent.addValue (h : store.Coherent) (name added : String) (fails : Bool) :
    (store.addValue name added fails).Coherent := by
  unfold Store.addValue
  simp only
  split
  · exact coherent_save _
  · exact h.load fails

theorem Coherent.removeValue (h : store.Coherent) (name removed : String) (fails : Bool) :
    (store.removeValue name removed fails).Coherent := by
  unfold Store.removeValue
  simp only
  split
  · exact coherent_save _
  · exact h.load fails

theorem Coherent.syncSave (h : store.Coherent) (newValues : List String) (fails : Bool) :
    (store.syncSave newValues fails).Coherent := by
  unfold Store.syncSave
  split
  · exact h
  · exact coherent_save _

/-- A cache is left unset only where it was unset and the read failed. -/
theorem cache_load_eq_none_iff {fails : Bool} :
    (store.load fails).2.cache = none ↔
      fails = true ∧ store.file ≠ none ∧ store.cache = none := by
  unfold load
  cases store.file <;> cases fails <;> simp

end Files

/-! ## Discovering -/

variable {store after : Store} {ca : Attrs} {fails : Bool}

omit [PyText] in
theorem Coherent.ready (h : store.Coherent) (fails : Bool) : (store.ready fails).Coherent := by
  unfold Store.ready
  split
  · exact h.load fails
  · exact h

omit [PyText] in
theorem stored_ready (fails : Bool) (attr : String) :
    (store.ready fails).stored attr = store.stored attr := by
  unfold ready
  split
  · exact stored_load fails
  · rfl

omit [PyText] in
theorem cache_ready_eq_none_iff :
    (store.ready fails).cache = none ↔
      fails = true ∧ store.file ≠ none ∧ store.cache = none := by
  unfold ready
  cases hcache : store.cache with
  | none => simpa [hcache] using @cache_load_eq_none_iff store fails
  | some current => simp [hcache]

/-- It raises exactly when the cache stays unset and there is a value to look for. -/
theorem autoDiscover_eq_none_iff :
    store.autoDiscover ca fails = none ↔
      (fails = true ∧ store.file ≠ none ∧ store.cache = none) ∧
        ∃ attr ∈ managedAttrs, offered ca attr ≠ "" := by
  rw [← cache_ready_eq_none_iff]
  unfold autoDiscover
  simp only
  cases (store.ready fails).cache with
  | none => simp
  | some current =>
      simp only
      split <;> simp

/-- What it does not raise on, it leaves stored. -/
theorem mem_autoDiscover (hcoherent : store.Coherent)
    (hafter : store.autoDiscover ca fails = some after) {attr value : String}
    (h : attr ∈ managedAttrs) (hmem : value ∈ store.stored attr) : value ∈ after.stored attr := by
  have hready : value ∈ (store.ready fails).stored attr := by
    rw [stored_ready]
    exact hmem
  have hcurrent := hcoherent.ready fails
  simp only [autoDiscover] at hafter
  cases hcache : (store.ready fails).cache with
  | none =>
      simp only [hcache, Option.ite_none_right_eq_some] at hafter
      cases hafter.2
      exact hready
  | some current =>
      simp only [hcache] at hafter
      split at hafter
      · cases hafter
        exact hready
      · cases hafter
        refine (mem_stored_save h).mpr ((mem_valuesOf_foldl _ _ current).mpr (.inl ?_))
        exact (hcurrent current hcache attr h value).mpr hready

theorem Coherent.autoDiscover (h : store.Coherent)
    (hafter : store.autoDiscover ca fails = some after) : after.Coherent := by
  have hcurrent := h.ready fails
  simp only [Store.autoDiscover] at hafter
  cases hcache : (store.ready fails).cache with
  | none =>
      simp only [hcache, Option.ite_none_right_eq_some] at hafter
      cases hafter.2
      exact hcurrent
  | some current =>
      simp only [hcache] at hafter
      split at hafter
      · cases hafter
        exact hcurrent
      · cases hafter
        exact coherent_save _

/-! ## Runs -/

theorem Coherent.apply (h : store.Coherent) (op : Op) : (store.apply op).Coherent := by
  cases op with
  | add attr value fails => exact h.addValue attr value fails
  | merge discovered fails => exact @coherent_save (store.load fails).2 _
  | autoDiscover ca fails =>
      simp only [Store.apply]
      cases hafter : store.autoDiscover ca fails with
      | none => exact h
      | some after => exact h.autoDiscover hafter
  | syncSave newValues fails => exact h.syncSave newValues fails
  | remove attr value fails => exact h.removeValue attr value fails

/-- The operation does not raise and loses nothing but what it removes. -/
def Keeps (store : Store) (op : Op) : Prop :=
  store.raises op = false ∧ ∀ attr ∈ managedAttrs, ∀ value ∈ store.stored attr,
    ¬ op.Removes attr value → value ∈ (store.apply op).stored attr

omit [PyText] in
/-- An operation that writes what a read gave, with something of its own, keeps everything exactly
when the read succeeds or everything is its own. -/
theorem forall_mem_or_iff {own : String → String → Prop} {read : Bool}
    {left : String → List String}
    (hleft : ∀ attr ∈ managedAttrs, ∀ value, value ∈ left attr ↔
      read = false ∧ value ∈ store.stored attr ∨ own attr value) :
    (∀ attr ∈ managedAttrs, ∀ value ∈ store.stored attr, value ∈ left attr) ↔
      read = false ∨ ∀ attr ∈ managedAttrs, ∀ value ∈ store.stored attr, own attr value := by
  cases read with
  | false =>
      refine iff_of_true (fun attr hattr value hvalue => ?_) (.inl rfl)
      exact (hleft attr hattr value).mpr (.inl ⟨rfl, hvalue⟩)
  | true =>
      simp only [Bool.true_eq_false, false_or]
      refine forall₂_congr fun attr hattr => forall₂_congr fun value _ => ?_
      rw [hleft attr hattr value]
      simp

theorem keeps_iff (hcoherent : store.Coherent) (op : Op) :
    store.Keeps op ↔ store.Harmless op := by
  unfold Keeps
  cases op with
  | add name added fails =>
      simp only [raises, Op.Removes, reduceCtorEq, exists_false, not_false_eq_true, true_and,
        forall_const, Store.apply, Harmless]
      by_cases hname : name ∈ managedAttrs
      · rw [forall_mem_or_iff fun attr hattr value => mem_addValue hname hattr]
        simp [hname]
      · refine iff_of_true (fun attr _ value hvalue => ?_) (.inr (.inl hname))
        rw [stored_addValue hname]
        exact hvalue
  | merge discovered fails =>
      simp only [raises, Op.Removes, reduceCtorEq, exists_false, not_false_eq_true, true_and,
        forall_const, Store.apply, Harmless]
      exact forall_mem_or_iff fun attr hattr value => mem_mergeValues hattr
  | autoDiscover ca fails =>
      simp only [raises, Op.Removes, reduceCtorEq, exists_false, not_false_eq_true,
        forall_const, Store.apply, Harmless]
      cases hafter : store.autoDiscover ca fails with
      | none =>
          have hraises := autoDiscover_eq_none_iff.mp hafter
          simp only [Option.isNone_none, Bool.true_eq_false, false_and, false_iff, hraises.1.1,
            hraises.1.2.1, hraises.1.2.2, ne_eq, not_true_eq_false, false_or, not_forall]
          simpa using hraises.2
      | some after =>
          have hquiet := mt autoDiscover_eq_none_iff.mpr (hafter ▸ Option.some_ne_none after)
          refine iff_of_true ⟨rfl, fun attr hattr value hvalue => ?_⟩ ?_
          · exact mem_autoDiscover hcoherent hafter hattr hvalue
          · by_contra hbad
            push Not at hbad
            obtain ⟨hfails, hfile, hcache, hoffered⟩ := hbad
            exact hquiet ⟨⟨by simpa using hfails, hfile, hcache⟩, hoffered⟩
  | syncSave newValues fails =>
      simp only [raises, Op.Removes, reduceCtorEq, exists_false, not_false_eq_true, true_and,
        forall_const, Store.apply, Harmless]
      by_cases hnew : newValues = []
      · refine iff_of_true (fun attr _ value hvalue => ?_) (.inr (.inl hnew))
        rw [Store.syncSave, if_pos hnew]
        exact hvalue
      · rw [forall_mem_or_iff fun attr hattr value => mem_syncSave hnew hattr]
        simp [hnew]
  | remove name removed fails =>
      refine iff_of_true ⟨rfl, fun attr hattr value hvalue hother => ?_⟩ trivial
      refine mem_removeValue hattr (fun heq => hother ?_) hvalue
      exact ⟨fails, heq.1 ▸ heq.2 ▸ rfl⟩

/-- Nothing is lost from a run exactly when every operation on its way keeps everything. -/
theorem keptUntilRemoved_iff (start : Store) (ops : List Op) :
    KeptUntilRemoved start ops ↔
      Guarded (fun store op => some (store.apply op)) Keeps start ops := by
  induction ops generalizing start with
  | nil =>
      refine iff_of_true ⟨by simp, ?_⟩ trivial
      intro before during after attr value hops hattr hvalue _
      obtain ⟨hbefore, -⟩ := List.append_eq_nil_iff.mp hops.symm
      obtain ⟨rfl, rfl⟩ := List.append_eq_nil_iff.mp hbefore
      exact hvalue
  | cons op rest ih =>
      simp only [Guarded]
      rw [← ih]
      constructor
      · rintro ⟨hquiet, hkept⟩
        refine ⟨⟨hquiet [] op rest rfl, fun attr hattr value hvalue hother => ?_⟩, ?_, ?_⟩
        · exact hkept [] [op] rest attr value rfl hattr hvalue (by simpa using hother)
        · intro before other after hrest
          exact hquiet (op :: before) other after (by rw [hrest, List.cons_append])
        · intro before during after attr value hrest
          exact hkept (op :: before) during after attr value (by rw [hrest]; rfl)
      · rintro ⟨⟨hquiet, hkeeps⟩, hquiets, hkept⟩
        constructor
        · intro before other after hops
          cases before with
          | nil =>
              cases hops
              exact hquiet
          | cons first before =>
              cases hops
              exact hquiets before other after rfl
        · intro before during after attr value hops hattr hvalue hother
          cases before with
          | cons first before =>
              cases hops
              exact hkept before during after attr value rfl hattr hvalue hother
          | nil =>
              -- The window starts here: its first step keeps the value, and the rest is shorter.
              cases during with
              | nil => exact hvalue
              | cons first during =>
                  cases hops
                  have hfirst := hkeeps attr hattr value hvalue (hother op List.mem_cons_self)
                  exact hkept [] during after attr value rfl hattr hfirst
                    fun later hlater => hother later (List.mem_cons_of_mem op hlater)

end Store

/-- Every run of operations from the start of the server loses nothing exactly when each operation
on its way is harmless. -/
theorem attribute_values_kept_iff (file : Option Values) (ops : List Op) :
    KeptUntilRemoved { file } ops ↔
      Guarded (fun store op => some (store.apply op)) Store.Harmless { file } ops := by
  rw [Store.keptUntilRemoved_iff]
  refine guarded_iff (I := Store.Coherent) ?_ ?_ ?_
  · rintro store op _ ⟨⟩ hcoherent _
    exact hcoherent.apply op
  · rintro store op _ - hcoherent
    exact Store.keeps_iff hcoherent op
  · rintro current ⟨⟩

/-- After every run of operations, whichever of their reads fail, the cache has the values of the
file. -/
theorem cache_has_file_values (file : Option Values) (ops : List Op) :
    Always (fun store op => some (store.apply op)) Store.Coherent { file } ops := by
  refine always_of_step (fun store op after hstep h => ?_) ops ?_
  · cases hstep
    exact h.apply op
  · intro current hcache
    cases hcache

/-- A file with one owner. -/
def ownerFile : Values := Dict.empty.set "Owner" ["a"]

omit [PyText] in
/-- An owner is added while the file cannot be read: the owner in the file is gone. An endpoint is
fetched while it cannot be read: `auto_discover_values` raises. -/
theorem attribute_values_lost :
    "a" ∉ (({ file := some ownerFile } : Store).addValue "Owner" "b" true).stored "Owner" ∧
      (∀ _ : PyText, ¬ KeptUntilRemoved { file := some ownerFile } [.add "Owner" "b" true]) ∧
      ∀ _ : PyText, PyText.strip "b" = "b" →
        ¬ KeptUntilRemoved { file := some ownerFile }
          [.autoDiscover (Dict.empty.set "Owner" "b") true] := by
  have howner : "Owner" ∈ managedAttrs := by decide
  have hold : "a" ∈ ({ file := some ownerFile } : Store).stored "Owner" := by decide
  have hlost : "a" ∉ (({ file := some ownerFile } : Store).addValue "Owner" "b" true).stored
      "Owner" := by
    rw [Store.mem_addValue howner howner]
    decide
  refine ⟨hlost, fun _ hkept => hlost ?_, fun _ hstrip hkept => ?_⟩
  · exact hkept.2 [] [.add "Owner" "b" true] [] "Owner" "a" rfl howner hold (by simp [Op.Removes])
  · have hquiet := hkept.1 [] _ [] rfl
    have hraises : Store.autoDiscover { file := some ownerFile } (Dict.empty.set "Owner" "b") true =
        none := by
      refine Store.autoDiscover_eq_none_iff.mpr ⟨by simp, "Owner", howner, ?_⟩
      have hoffered : offered (Dict.empty.set "Owner" "b") "Owner" = "b" := hstrip
      rw [hoffered]
      decide
    simp only [Store.applyAll, List.foldl_nil, Store.raises, hraises, Option.isNone_none,
      Bool.true_eq_false] at hquiet

end IsePortal.ValueStore
