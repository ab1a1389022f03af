import Mathlib.Algebra.BigOperators.Group.List.Basic
import Mathlib.Data.Finset.Basic
import Mathlib.Data.List.Nodup
import Mathlib.Algebra.Group.Int.Defs
import Mathlib.Tactic.Abel

/-!
# Insertion-ordered dictionaries

`Dict κ α` is a finite map that remembers insertion order: replacing the value of a key
keeps its place, a new key goes to the end. The field `nodup` makes a dictionary with a
repeated key impossible to build. `sumBy` adds an integer weight over the entries, and the
`sumBy_*` lemmas say how `set`, `erase` and `modify` move that sum.
-/

namespace IsePortal.Library

universe u v

/-- A finite map in insertion order, without repeated keys. -/
structure Dict (κ : Type u) (α : Type v) where
  entries : List (κ × α)
  nodup : (entries.map Prod.fst).Nodup

namespace Dict

variable {κ : Type u} {α : Type v}

/-- The dictionary without entries. -/
def empty : Dict κ α := ⟨[], List.nodup_nil⟩

/-- The keys in insertion order. -/
def keys (d : Dict κ α) : List κ := d.entries.map Prod.fst

/-- The number of entries. -/
def size (d : Dict κ α) : Nat := d.entries.length

variable [DecidableEq κ]

/-- The value stored under the key. -/
def get? (d : Dict κ α) (key : κ) : Option α :=
  d.entries.lookup key

/-- Replace the value at its place, in the raw list of entries. -/
def replaceList (key : κ) (value : α) (entries : List (κ × α)) : List (κ × α) :=
  entries.map fun entry => if entry.1 = key then (key, value) else entry

theorem map_fst_replaceList (key : κ) (value : α) (entries : List (κ × α)) :
    (replaceList key value entries).map Prod.fst = entries.map Prod.fst := by
  rw [replaceList, List.map_map]
  refine List.map_congr_left fun entry _ => ?_
  by_cases h : entry.1 = key <;> simp [h]

/-- Store a value: at the key's place when it is present, at the end otherwise. -/
def set (d : Dict κ α) (key : κ) (value : α) : Dict κ α :=
  if h : key ∈ d.entries.map Prod.fst then
    ⟨replaceList key value d.entries, by rw [map_fst_replaceList]; exact d.nodup⟩
  else
    ⟨d.entries ++ [(key, value)], by
      rw [List.map_append, List.nodup_append]
      refine ⟨d.nodup, by simp, ?_⟩
      rintro a ha b hb rfl
      simp only [List.map_cons, List.map_nil, List.mem_singleton] at hb
      exact h (hb ▸ ha)⟩

/-- A new key goes to the end. -/
theorem entries_set_of_not_mem {d : Dict κ α} {key : κ} (value : α) (h : key ∉ d.keys) :
    (d.set key value).entries = d.entries ++ [(key, value)] := by
  rw [set, dif_neg (by exact h)]

/-- A key that is present keeps its place. -/
theorem entries_set_of_mem {d : Dict κ α} {key : κ} (value : α) (h : key ∈ d.keys) :
    (d.set key value).entries = replaceList key value d.entries := by
  rw [set, dif_pos (by exact h)]

omit [DecidableEq κ] in
theorem ext_entries {d other : Dict κ α} (h : d.entries = other.entries) : d = other := by
  cases d
  cases other
  cases h
  rfl

/-- Remove a key. -/
def erase (d : Dict κ α) (key : κ) : Dict κ α :=
  ⟨d.entries.filter fun entry => entry.1 ≠ key,
    d.nodup.sublist (List.filter_sublist.map Prod.fst)⟩

/-- Change the value of a key that is present; do nothing otherwise. -/
def modify (d : Dict κ α) (key : κ) (change : α → α) : Dict κ α :=
  match d.get? key with
  | none => d
  | some value => d.set key (change value)

/-! ## Lookup -/

@[simp] theorem get?_empty (key : κ) : (empty : Dict κ α).get? key = none := rfl

omit [DecidableEq κ] in
theorem not_mem_of_nodup_cons {key : κ} {value other : α} {rest : List (κ × α)}
    (hnodup : (((key, other) :: rest).map Prod.fst).Nodup) : (key, value) ∉ rest :=
  fun h => (List.nodup_cons.mp hnodup).1 (List.mem_map.mpr ⟨_, h, rfl⟩)

theorem lookup_eq_some_of_mem {entries : List (κ × α)} {key : κ} {value : α}
    (hnodup : (entries.map Prod.fst).Nodup) (h : (key, value) ∈ entries) :
    entries.lookup key = some value := by
  induction entries with
  | nil => cases h
  | cons entry rest ih =>
      obtain ⟨first, stored⟩ := entry
      rcases List.mem_cons.mp h with heq | hrest
      · cases heq
        simp
      · have hne : key ≠ first := by
          intro heq
          subst heq
          exact not_mem_of_nodup_cons hnodup hrest
        have hb : (key == first) = false := by simpa using hne
        rw [List.lookup_cons, hb]
        exact ih (List.nodup_cons.mp hnodup).2 hrest

theorem mem_of_lookup_eq_some {entries : List (κ × α)} {key : κ} {value : α}
    (h : entries.lookup key = some value) : (key, value) ∈ entries := by
  induction entries with
  | nil => cases h
  | cons entry rest ih =>
      obtain ⟨first, stored⟩ := entry
      rw [List.lookup_cons] at h
      by_cases hk : key = first
      · subst hk
        simp only [beq_self_eq_true, Option.some.injEq] at h
        subst h
        exact List.mem_cons_self
      · have hb : (key == first) = false := by simpa using hk
        rw [hb] at h
        exact List.mem_cons_of_mem _ (ih h)

/-- A key has a value exactly when the pair is an entry. -/
theorem get?_eq_some_iff {d : Dict κ α} {key : κ} {value : α} :
    d.get? key = some value ↔ (key, value) ∈ d.entries :=
  ⟨mem_of_lookup_eq_some, lookup_eq_some_of_mem d.nodup⟩

theorem mem_keys_iff {d : Dict κ α} {key : κ} :
    key ∈ d.keys ↔ ∃ value, d.get? key = some value := by
  simp only [keys, List.mem_map, Prod.exists, exists_and_right, exists_eq_right,
    get?_eq_some_iff]

theorem get?_eq_none_iff {d : Dict κ α} {key : κ} : d.get? key = none ↔ key ∉ d.keys := by
  rw [mem_keys_iff]
  cases d.get? key <;> simp

theorem lookup_replaceList (key : κ) (value : α) (entries : List (κ × α)) (other : κ) :
    (replaceList key value entries).lookup other =
      if other = key then (entries.lookup key).map fun _ => value
      else entries.lookup other := by
  induction entries with
  | nil => by_cases h : other = key <;> simp [replaceList, h]
  | cons entry rest ih =>
      obtain ⟨first, stored⟩ := entry
      simp only [replaceList, List.map_cons, List.lookup_cons] at ih ⊢
      by_cases hf : first = key
      · subst hf
        by_cases ho : other = first
        · subst ho
          simp
        · have hb : (other == first) = false := by simpa using ho
          simpa [List.lookup_cons, hb, ho] using ih
      · by_cases ho : other = key
        · subst ho
          have hb : (other == first) = false := by simpa using fun h => hf h.symm
          simpa [List.lookup_cons, hf, hb] using ih
        · cases hb : other == first <;> simp [List.lookup_cons, hf, ho, hb, ih]

/-- After `set`, the key has the new value and every other key its old one. -/
theorem get?_set (d : Dict κ α) (key other : κ) (value : α) :
    (d.set key value).get? other = if other = key then some value else d.get? other := by
  by_cases hmem : key ∈ d.entries.map Prod.fst
  · obtain ⟨old, hold⟩ := mem_keys_iff.mp hmem
    have hlookup : d.entries.lookup key = some old := hold
    simp only [set, hmem, ↓reduceDIte, get?, lookup_replaceList, hlookup, Option.map_some]
  · have hnone : d.entries.lookup key = none := get?_eq_none_iff.mpr hmem
    simp only [set, hmem, ↓reduceDIte, get?, List.lookup_append]
    by_cases ho : other = key
    · subst ho
      simp [hnone]
    · have hb : (other == key) = false := by simpa using ho
      simp [ho, List.lookup_cons, hb]

@[simp] theorem get?_set_self (d : Dict κ α) (key : κ) (value : α) :
    (d.set key value).get? key = some value := by
  simp [get?_set]

theorem get?_set_ne (d : Dict κ α) {key other : κ} (value : α) (h : other ≠ key) :
    (d.set key value).get? other = d.get? other := by
  simp [get?_set, h]

/-- After `erase`, the key has no value and every other key its old one. -/
theorem get?_erase (d : Dict κ α) (key other : κ) :
    (d.erase key).get? other = if other = key then none else d.get? other := by
  by_cases ho : other = key
  · subst ho
    have hmem : other ∉ (d.erase other).keys := by simp [keys, erase]
    simp [get?_eq_none_iff.mpr hmem]
  · simp only [ho, ↓reduceIte]
    cases hv : d.get? other with
    | none =>
        rw [get?_eq_none_iff] at hv ⊢
        intro hmem
        refine hv ?_
        obtain ⟨entry, hentry, hkey⟩ := List.mem_map.mp hmem
        exact List.mem_map.mpr ⟨entry, List.mem_of_mem_filter hentry, hkey⟩
    | some value =>
        rw [get?_eq_some_iff] at hv ⊢
        exact List.mem_filter.mpr ⟨hv, by simpa using ho⟩

@[simp] theorem get?_erase_self (d : Dict κ α) (key : κ) : (d.erase key).get? key = none := by
  simp [get?_erase]

theorem get?_erase_ne (d : Dict κ α) {key other : κ} (h : other ≠ key) :
    (d.erase key).get? other = d.get? other := by
  simp [get?_erase, h]

theorem mem_keys_set {d : Dict κ α} {key other : κ} (value : α) :
    other ∈ (d.set key value).keys ↔ other = key ∨ other ∈ d.keys := by
  rw [mem_keys_iff, mem_keys_iff, get?_set]
  by_cases h : other = key <;> simp [h]

theorem mem_keys_erase {d : Dict κ α} {key other : κ} :
    other ∈ (d.erase key).keys ↔ other ≠ key ∧ other ∈ d.keys := by
  rw [mem_keys_iff, mem_keys_iff, get?_erase]
  by_cases h : other = key <;> simp [h]

theorem get?_modify (d : Dict κ α) (key other : κ) (change : α → α) :
    (d.modify key change).get? other =
      if other = key then (d.get? key).map change else d.get? other := by
  unfold modify
  cases hv : d.get? key with
  | none =>
      by_cases ho : other = key
      · subst ho
        simp [hv]
      · simp [ho]
  | some value => simp [get?_set]

/-! ## Merging and filtering -/

/-- Store every entry of the second dictionary in the first. -/
def merge (d changes : Dict κ α) : Dict κ α :=
  changes.entries.foldl (fun merged entry => merged.set entry.1 entry.2) d

theorem get?_foldl_set (entries : List (κ × α)) (d : Dict κ α) (key : κ)
    (hnodup : (entries.map Prod.fst).Nodup) :
    (entries.foldl (fun merged entry => merged.set entry.1 entry.2) d).get? key =
      (entries.lookup key).or (d.get? key) := by
  induction entries generalizing d with
  | nil => simp
  | cons entry rest ih =>
      obtain ⟨first, stored⟩ := entry
      obtain ⟨hnew, hrest⟩ := List.nodup_cons.mp hnodup
      rw [List.foldl_cons, ih _ hrest, get?_set, List.lookup_cons]
      by_cases hkey : key = first
      · subst hkey
        have hnone : rest.lookup key = none := by
          cases hfound : rest.lookup key with
          | none => rfl
          | some value =>
              have hmem := mem_of_lookup_eq_some hfound
              exact absurd (List.mem_map.mpr ⟨_, hmem, rfl⟩) hnew
        simp [hnone]
      · have hb : (key == first) = false := by simpa using hkey
        simp [hkey, hb]

/-- Storing entries one after the other, the last one of a key stays. -/
theorem get?_foldl_set_last (entries : List (κ × α)) (d : Dict κ α) (key : κ) :
    (entries.foldl (fun merged entry => merged.set entry.1 entry.2) d).get? key =
      (entries.reverse.lookup key).or (d.get? key) := by
  induction entries generalizing d with
  | nil => rfl
  | cons entry rest ih =>
      obtain ⟨first, stored⟩ := entry
      rw [List.foldl_cons, ih, List.reverse_cons, List.lookup_append, Option.or_assoc, get?_set,
        List.lookup_cons]
      by_cases hkey : key = first
      · subst hkey
        simp
      · have hb : (key == first) = false := by simpa using hkey
        simp [hkey, hb]

/-- After `merge`, a key has the value of the second dictionary where that has one. -/
theorem get?_merge (d changes : Dict κ α) (key : κ) :
    (d.merge changes).get? key = (changes.get? key).or (d.get? key) :=
  get?_foldl_set changes.entries d key changes.nodup

/-- Store a value when there is one. -/
def setIfSome (d : Dict κ α) (key : κ) : Option α → Dict κ α
  | none => d
  | some value => d.set key value

/-- A loop that stores a value for some of the keys it visits, each visited once. -/
theorem get?_foldl_setIfSome {β : Type*} (write : κ → β → Option α) (visited : List (κ × β))
    (d : Dict κ α) (key : κ) (hnodup : (visited.map Prod.fst).Nodup) :
    (visited.foldl (fun d entry => d.setIfSome entry.1 (write entry.1 entry.2)) d).get? key =
      ((visited.lookup key).bind (write key)).or (d.get? key) := by
  induction visited generalizing d with
  | nil => rfl
  | cons entry rest ih =>
      obtain ⟨first, argument⟩ := entry
      have hrest := List.nodup_cons.mp hnodup
      rw [List.foldl_cons, ih _ hrest.2, List.lookup_cons]
      by_cases hkey : key = first
      · subst hkey
        have hnone : rest.lookup key = none := by
          rw [List.lookup_eq_none_iff]
          intro other hother
          simp only [bne_iff_ne, ne_eq]
          intro heq
          exact hrest.1 (List.mem_map.mpr ⟨other, hother, heq.symm⟩)
        rw [hnone, beq_self_eq_true]
        cases hwrite : write key argument <;> simp [hwrite, setIfSome]
      · have hb : (key == first) = false := by simpa using hkey
        rw [hb]
        cases hwrite : write first argument with
        | none => rfl
        | some value =>
            show (List.lookup key rest |>.bind (write key)).or ((d.set first value).get? key) = _
            rw [get?_set_ne d value hkey]

omit [DecidableEq κ] in
/-- The entries whose value meets the test. -/
def filterValues (d : Dict κ α) (keep : α → Bool) : Dict κ α :=
  ⟨d.entries.filter fun entry => keep entry.2,
    d.nodup.sublist (List.filter_sublist.map Prod.fst)⟩

theorem get?_filterValues (d : Dict κ α) (keep : α → Bool) (key : κ) :
    (d.filterValues keep).get? key = (d.get? key).filter keep := by
  refine Option.ext fun value => ?_
  rw [get?_eq_some_iff, Option.filter_eq_some_iff, get?_eq_some_iff]
  exact List.mem_filter

/-- Putting back what was stored under a key undoes a change of it. -/
theorem set_modify {d : Dict κ α} {key : κ} {value : α} (change : α → α)
    (h : d.get? key = some value) : (d.modify key change).set key value = d := by
  have hmem : key ∈ d.entries.map Prod.fst :=
    List.mem_map.mpr ⟨_, get?_eq_some_iff.mp h, rfl⟩
  unfold modify
  rw [h]
  unfold set
  simp only [hmem, ↓reduceDIte, map_fst_replaceList]
  obtain ⟨entries, hnodup⟩ := d
  congr 1
  show replaceList key value (replaceList key (change value) entries) = entries
  rw [replaceList, replaceList, List.map_map]
  refine (List.map_congr_left fun entry hentry => ?_).trans (List.map_id entries)
  obtain ⟨other, stored⟩ := entry
  by_cases hkey : other = key
  · -- the key has one value only
    subst hkey
    have hstored : stored = value := by
      have hsame := lookup_eq_some_of_mem hnodup hentry
      exact Option.some.inj (hsame.symm.trans h)
    simp [hstored]
  · simp [hkey]

/-- Two dictionaries that differ in the value of one key only are equal once it is the same. -/
theorem eq_of_modify_eq {d other : Dict κ α} {key : κ} {change : α → α}
    (hrest : d.modify key change = other.modify key change) (hkey : d.get? key = other.get? key) :
    d = other := by
  cases h : d.get? key with
  | none =>
      have hother : other.get? key = none := hkey ▸ h
      simpa [modify, h, hother] using hrest
  | some value =>
      rw [← set_modify change h, hrest]
      exact set_modify change (hkey ▸ h)

omit [DecidableEq κ] in
/-- A function applied to every value. -/
def mapValues {β : Type*} (d : Dict κ α) (f : α → β) : Dict κ β :=
  ⟨d.entries.map fun entry => (entry.1, f entry.2), by
    rw [List.map_map]
    exact d.nodup⟩

theorem get?_mapValues {β : Type*} (d : Dict κ α) (f : α → β) (key : κ) :
    (d.mapValues f).get? key = (d.get? key).map f := by
  obtain ⟨entries, hnodup⟩ := d
  show (entries.map fun entry => (entry.1, f entry.2)).lookup key = (entries.lookup key).map f
  clear hnodup
  induction entries with
  | nil => rfl
  | cons first rest ih =>
      rw [List.map_cons, List.lookup_cons, List.lookup_cons]
      by_cases h : key = first.1
      · simp [h]
      · simp [beq_eq_false_iff_ne.mpr h, ih]

/-! ## Integer weights -/

/-- The sum of a weight over the entries. -/
def sumBy (d : Dict κ α) (weight : α → Int) : Int :=
  (d.entries.map fun entry => weight entry.2).sum

/-- The weight of the value under a key, zero when the key is absent. -/
def weightAt (d : Dict κ α) (weight : α → Int) (key : κ) : Int :=
  match d.get? key with
  | none => 0
  | some value => weight value

omit [DecidableEq κ] in
@[simp] theorem sumBy_empty (weight : α → Int) : (empty : Dict κ α).sumBy weight = 0 := rfl

theorem filter_ne_of_not_mem {entries : List (κ × α)} {key : κ}
    (h : key ∉ entries.map Prod.fst) : entries.filter (fun entry => entry.1 ≠ key) = entries := by
  refine List.filter_eq_self.mpr fun entry hentry => ?_
  have hne : entry.1 ≠ key := fun hkey => h (List.mem_map.mpr ⟨entry, hentry, hkey⟩)
  simpa using hne

theorem sum_filter_ne {entries : List (κ × α)} {key : κ} {value : α} (weight : α → Int)
    (hnodup : (entries.map Prod.fst).Nodup) (h : (key, value) ∈ entries) :
    ((entries.filter fun entry => entry.1 ≠ key).map fun entry => weight entry.2).sum =
      (entries.map fun entry => weight entry.2).sum - weight value := by
  induction entries with
  | nil => cases h
  | cons entry rest ih =>
      obtain ⟨first, stored⟩ := entry
      rcases List.mem_cons.mp h with heq | hrest
      · cases heq
        rw [List.filter_cons_of_neg (by simp),
          filter_ne_of_not_mem (List.nodup_cons.mp hnodup).1]
        simp
      · have hne : first ≠ key := by
          intro heq
          subst heq
          exact not_mem_of_nodup_cons hnodup hrest
        rw [List.filter_cons_of_pos (by simpa using hne), List.map_cons, List.map_cons,
          List.sum_cons, List.sum_cons, ih (List.nodup_cons.mp hnodup).2 hrest]
        abel

theorem replaceList_of_not_mem {entries : List (κ × α)} {key : κ} (value : α)
    (h : key ∉ entries.map Prod.fst) : replaceList key value entries = entries := by
  refine (List.map_congr_left fun entry hentry => ?_).trans (List.map_id' entries)
  have hne : entry.1 ≠ key := fun hkey => h (List.mem_map.mpr ⟨entry, hentry, hkey⟩)
  simp [hne]

theorem sum_replaceList {entries : List (κ × α)} {key : κ} {old : α} (value : α)
    (weight : α → Int) (hnodup : (entries.map Prod.fst).Nodup) (h : (key, old) ∈ entries) :
    ((replaceList key value entries).map fun entry => weight entry.2).sum =
      (entries.map fun entry => weight entry.2).sum - weight old + weight value := by
  induction entries with
  | nil => cases h
  | cons entry rest ih =>
      obtain ⟨first, stored⟩ := entry
      rcases List.mem_cons.mp h with heq | hrest
      · cases heq
        have hkeep := replaceList_of_not_mem value (List.nodup_cons.mp hnodup).1
        simp only [replaceList, List.map_cons, ↓reduceIte, List.sum_cons] at hkeep ⊢
        rw [hkeep]
        abel
      · have hne : first ≠ key := by
          intro heq
          subst heq
          exact not_mem_of_nodup_cons hnodup hrest
        have htail := ih (List.nodup_cons.mp hnodup).2 hrest
        simp only [replaceList, List.map_cons, hne, ↓reduceIte, List.sum_cons] at htail ⊢
        rw [htail]
        abel

/-- Of two values stored under one key the second stays. -/
theorem set_set (d : Dict κ α) (key : κ) (first second : α) :
    (d.set key first).set key second = d.set key second := by
  refine ext_entries ?_
  by_cases hmem : key ∈ d.keys
  · have hfirst := entries_set_of_mem first hmem
    have hmem' : key ∈ (d.set key first).keys := by
      rw [keys, hfirst, map_fst_replaceList]
      exact hmem
    rw [entries_set_of_mem second hmem', entries_set_of_mem second hmem, hfirst]
    simp only [replaceList, List.map_map]
    refine List.map_congr_left fun entry _ => ?_
    by_cases hkey : entry.1 = key <;> simp [hkey]
  · have hkeep := replaceList_of_not_mem second hmem
    have hfirst := entries_set_of_not_mem first hmem
    have hmem' : key ∈ (d.set key first).keys := by
      rw [keys, hfirst]
      simp
    rw [entries_set_of_mem second hmem', entries_set_of_not_mem second hmem, hfirst]
    simp only [replaceList, List.map_append] at hkeep ⊢
    simp [hkeep]

/-- A value that has just been stored, changed. -/
theorem modify_set (d : Dict κ α) (key : κ) (value : α) (change : α → α) :
    (d.set key value).modify key change = d.set key (change value) := by
  rw [modify, get?_set_self]
  exact set_set d key value (change value)

/-- Storing a value replaces the key's weight by the new one. -/
theorem sumBy_set (d : Dict κ α) (weight : α → Int) (key : κ) (value : α) :
    (d.set key value).sumBy weight = d.sumBy weight - d.weightAt weight key + weight value := by
  by_cases hmem : key ∈ d.entries.map Prod.fst
  · obtain ⟨old, hold⟩ := mem_keys_iff.mp hmem
    have hw : d.weightAt weight key = weight old := by simp [weightAt, hold]
    rw [hw, sumBy, sumBy, ← sum_replaceList value weight d.nodup (get?_eq_some_iff.mp hold)]
    simp [set, hmem]
  · have hw : d.weightAt weight key = 0 := by
      simp [weightAt, get?_eq_none_iff.mpr hmem]
    simp [hw, sumBy, set, hmem]

/-- Removing a key takes its weight away. -/
theorem sumBy_erase (d : Dict κ α) (weight : α → Int) (key : κ) :
    (d.erase key).sumBy weight = d.sumBy weight - d.weightAt weight key := by
  cases hv : d.get? key with
  | none =>
      have hfilter := filter_ne_of_not_mem (get?_eq_none_iff.mp hv)
      have hw : d.weightAt weight key = 0 := by simp [weightAt, hv]
      rw [hw, sub_zero, sumBy, sumBy]
      exact congrArg (fun l => (l.map fun entry => weight entry.2).sum) hfilter
  | some value =>
      have hw : d.weightAt weight key = weight value := by simp [weightAt, hv]
      rw [hw]
      exact sum_filter_ne weight d.nodup (get?_eq_some_iff.mp hv)

/-- A change that keeps every weight keeps the sum. -/
theorem sumBy_modify (d : Dict κ α) (weight : α → Int) (key : κ) {change : α → α}
    (h : ∀ value, weight (change value) = weight value) :
    (d.modify key change).sumBy weight = d.sumBy weight := by
  unfold modify
  cases hv : d.get? key with
  | none => rfl
  | some value =>
      have hw : d.weightAt weight key = weight value := by simp [weightAt, hv]
      simp only [sumBy_set, h, hw]
      abel

/-! ## Size -/

omit [DecidableEq κ] in
/-- The size is the sum of the weight one. -/
theorem size_eq_sumBy (d : Dict κ α) : (d.size : Int) = d.sumBy fun _ => 1 := by
  simp [size, sumBy]

theorem size_set_of_mem {d : Dict κ α} {key : κ} (value : α) (h : key ∈ d.keys) :
    (d.set key value).size = d.size := by
  obtain ⟨old, hold⟩ := mem_keys_iff.mp h
  have hweight : d.weightAt (fun _ => 1) key = 1 := by simp [weightAt, hold]
  have hsum := sumBy_set d (fun _ => 1) key value
  rw [← size_eq_sumBy, ← size_eq_sumBy, hweight] at hsum
  omega

theorem size_set_of_not_mem {d : Dict κ α} {key : κ} (value : α) (h : key ∉ d.keys) :
    (d.set key value).size = d.size + 1 := by
  rw [size, entries_set_of_not_mem value h, List.length_append]
  rfl

theorem size_erase_of_mem {d : Dict κ α} {key : κ} (h : key ∈ d.keys) :
    (d.erase key).size + 1 = d.size := by
  obtain ⟨old, hold⟩ := mem_keys_iff.mp h
  have hweight : d.weightAt (fun _ => 1) key = 1 := by simp [weightAt, hold]
  have hsum := sumBy_erase d (fun _ => 1) key
  rw [← size_eq_sumBy, ← size_eq_sumBy, hweight] at hsum
  omega

@[simp] theorem size_modify (d : Dict κ α) (key : κ) (change : α → α) :
    (d.modify key change).size = d.size := by
  have hsum : ((d.modify key change).size : Int) = d.size := by
    rw [size_eq_sumBy, size_eq_sumBy]
    exact sumBy_modify d (fun _ => 1) key fun _ => rfl
  exact_mod_cast hsum

end Dict

end IsePortal.Library
