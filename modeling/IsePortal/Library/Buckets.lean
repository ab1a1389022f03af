import IsePortal.Library.Dict
import Mathlib.Data.List.Flatten

/-!
# Lists under keys

A dictionary of lists sorts elements into buckets. `contents` is what all of them hold, and the
lemmas say how it moves, up to the order, when a bucket is filled, taken out or put in.
-/

namespace IsePortal.Library.Dict

universe u v

variable {κ : Type u} {α : Type v}

/-- The elements of all lists. -/
def contents (d : Dict κ (List α)) : List α := d.entries.flatMap Prod.snd

@[simp] theorem contents_empty : (empty : Dict κ (List α)).contents = [] := rfl

theorem mem_contents {d : Dict κ (List α)} {a : α} :
    a ∈ d.contents ↔ ∃ entry ∈ d.entries, a ∈ entry.2 := List.mem_flatMap

variable [DecidableEq κ]

/-- A value stored and taken out again leaves the other keys. -/
theorem erase_set (d : Dict κ α) (key : κ) (value : α) :
    (d.set key value).erase key = d.erase key := by
  refine ext_entries ?_
  by_cases hmem : key ∈ d.keys
  · simp only [erase, entries_set_of_mem value hmem, replaceList, List.filter_map]
    have hkeep : (d.entries.filter fun entry =>
        decide ((if entry.1 = key then (key, value) else entry).1 ≠ key)) =
        d.entries.filter fun entry => decide (entry.1 ≠ key) := by
      refine List.filter_congr fun entry _ => ?_
      by_cases hkey : entry.1 = key <;> simp [hkey]
    refine (congrArg (List.map _) hkeep).trans ?_
    refine (List.map_congr_left fun entry hentry => ?_).trans (List.map_id _)
    have hne : entry.1 ≠ key := by simpa using (List.mem_filter.mp hentry).2
    rw [if_neg hne, id]
  · simp [erase, entries_set_of_not_mem value hmem, List.filter_append]

/-- A key has one entry. -/
theorem filter_key {d : Dict κ α} {key : κ} {value : α} (h : d.get? key = some value) :
    (d.entries.filter fun entry => decide (entry.1 = key)) = [(key, value)] := by
  refine List.perm_singleton.mp ((List.perm_ext_iff_of_nodup
    ((List.Nodup.of_map _ d.nodup).filter _) (List.nodup_singleton _)).mpr fun entry => ?_)
  rw [List.mem_filter, List.mem_singleton, decide_eq_true_iff]
  constructor
  · rintro ⟨hentry, rfl⟩
    have hvalue : d.get? entry.1 = some entry.2 := get?_eq_some_iff.mpr hentry
    rw [h, Option.some.injEq] at hvalue
    rw [hvalue]
  · rintro rfl
    exact ⟨get?_eq_some_iff.mp h, rfl⟩

theorem perm_erase_entries {d : Dict κ α} {key : κ} {value : α} (h : d.get? key = some value) :
    ((key, value) :: (d.erase key).entries).Perm d.entries := by
  have hsplit := List.filter_append_perm (fun entry => decide (entry.1 = key)) d.entries
  rw [filter_key h, List.singleton_append] at hsplit
  have hrest : (d.erase key).entries =
      d.entries.filter fun entry => !decide (entry.1 = key) := by
    refine List.filter_congr fun entry _ => ?_
    rw [decide_not]
  rw [hrest]
  exact hsplit

/-- A list taken out and what is left make up the contents. -/
theorem perm_contents_erase {d : Dict κ (List α)} {key : κ} {items : List α}
    (h : d.get? key = some items) : (items ++ (d.erase key).contents).Perm d.contents :=
  (perm_erase_entries h).flatMap_right Prod.snd

/-- A list under a new key is added to the contents. -/
theorem contents_set_of_not_mem {d : Dict κ (List α)} {key : κ} (items : List α)
    (h : key ∉ d.keys) : (d.set key items).contents = d.contents ++ items := by
  rw [contents, entries_set_of_not_mem items h, List.flatMap_append]
  simp [contents]

/-- An element put at the end of the list of its key. -/
theorem perm_contents_push (d : Dict κ (List α)) (key : κ) (a : α) :
    (d.set key ((d.get? key).getD [] ++ [a])).contents.Perm (d.contents ++ [a]) := by
  cases hold : d.get? key with
  | none =>
      rw [contents_set_of_not_mem _ (get?_eq_none_iff.mp hold)]
      exact .refl _
  | some items =>
      have hnew := perm_contents_erase (get?_set_self d key (items ++ [a]))
      have hrest := perm_contents_erase hold
      rw [erase_set] at hnew
      refine hnew.symm.trans (.trans ?_ (hrest.append_right [a]))
      simp only [List.append_assoc]
      exact List.Perm.append_left items List.perm_append_comm

/-- A list under a key, new or not, comes in the place of the one it had. -/
theorem subperm_contents_set (d : Dict κ (List α)) (key : κ) (items : List α) :
    (d.set key items).contents.Subperm (items ++ d.contents) := by
  have hperm := perm_contents_erase (get?_set_self d key items)
  rw [erase_set] at hperm
  have hrest : (d.erase key).contents.Sublist d.contents := List.filter_sublist.flatMap Prod.snd
  exact hperm.symm.subperm.trans (hrest.append_left items).subperm

omit [DecidableEq κ] in
/-- The list of an entry is part of the contents. -/
theorem sublist_contents {d : Dict κ (List α)} {key : κ} {items : List α}
    (h : (key, items) ∈ d.entries) : items.Sublist d.contents := by
  have hone := (List.singleton_sublist.mpr h).flatMap Prod.snd
  rwa [List.flatMap_singleton] at hone

/-- What is there once is under one key. -/
theorem key_of_nodup {d : Dict κ (List α)} (hnodup : d.contents.Nodup) {first second : κ}
    {items others : List α} (hfirst : (first, items) ∈ d.entries)
    (hsecond : (second, others) ∈ d.entries) {a : α} (ha : a ∈ items) (hother : a ∈ others) :
    first = second := by
  by_contra hne
  have hperm := perm_contents_erase (get?_eq_some_iff.mpr hfirst)
  have happart := (List.nodup_append'.mp (hperm.nodup_iff.mpr hnodup)).2.2
  refine happart ha (mem_contents.mpr ⟨(second, others), List.mem_filter.mpr ⟨hsecond, ?_⟩, hother⟩)
  exact decide_eq_true (Ne.symm hne)

end IsePortal.Library.Dict
