import Mathlib.Data.Finset.Lattice.Lemmas
import IsePortal.Library.Dict

/-!
# Inverted indexes

An inverted index maps each key to the finite set of ids carrying it. `insertAt` and
`discardAt` maintain one bucket, and `discardAt` drops a bucket that becomes empty.
`Represents` says that the buckets are exactly a carrying relation; `represents_insertAll`
and `represents_discardAll` say how the relation moves when an id gains or loses a list of
keys, repeated keys included.
-/

namespace IsePortal.Library

universe u v

variable {κ : Type u} {ι : Type v} [DecidableEq κ] [DecidableEq ι]

/-- A map from keys to sets of ids. -/
abbrev InvertedIndex (κ : Type u) (ι : Type v) := Dict κ (Finset ι)

namespace InvertedIndex

/-- The ids filed under the key; empty when the key is absent. -/
def bucket (index : InvertedIndex κ ι) (key : κ) : Finset ι :=
  (index.get? key).getD ∅

/-- File an id under a key, making the bucket when it is missing. -/
def insertAt (index : InvertedIndex κ ι) (key : κ) (id : ι) : InvertedIndex κ ι :=
  index.set key (insert id (bucket index key))

/-- Take an id out of a bucket, dropping the bucket when nothing is left. -/
def discardAt (index : InvertedIndex κ ι) (key : κ) (id : ι) : InvertedIndex κ ι :=
  match index.get? key with
  | none => index
  | some ids =>
      if ids.erase id = ∅ then index.erase key else index.set key (ids.erase id)

/-- No key is kept for an empty bucket. -/
def NoEmptyBucket (index : InvertedIndex κ ι) : Prop :=
  ∀ key ids, index.get? key = some ids → ids.Nonempty

omit [DecidableEq ι] in
theorem bucket_of_get? {index : InvertedIndex κ ι} {key : κ} {ids : Finset ι}
    (h : index.get? key = some ids) : bucket index key = ids := by
  simp [bucket, h]

omit [DecidableEq ι] in
theorem bucket_set (index : InvertedIndex κ ι) (key other : κ) (ids : Finset ι) :
    bucket (index.set key ids) other = if other = key then ids else bucket index other := by
  by_cases h : other = key <;> simp [bucket, Dict.get?_set, h]

omit [DecidableEq ι] in
theorem bucket_erase (index : InvertedIndex κ ι) (key other : κ) :
    bucket (index.erase key) other = if other = key then ∅ else bucket index other := by
  by_cases h : other = key <;> simp [bucket, Dict.get?_erase, h]

theorem bucket_insertAt (index : InvertedIndex κ ι) (key other : κ) (id : ι) :
    bucket (insertAt index key id) other =
      if other = key then insert id (bucket index other) else bucket index other := by
  rw [insertAt, bucket_set]
  by_cases h : other = key
  · subst h
    rfl
  · simp [h]

theorem bucket_discardAt (index : InvertedIndex κ ι) (key other : κ) (id : ι) :
    bucket (discardAt index key id) other =
      if other = key then (bucket index other).erase id else bucket index other := by
  unfold discardAt
  cases hids : index.get? key with
  | none =>
      by_cases h : other = key
      · subst h
        simp [bucket, hids]
      · simp [h]
  | some ids =>
      by_cases hempty : ids.erase id = ∅
      · simp only [hempty, ↓reduceIte, bucket_erase]
        by_cases h : other = key
        · subst h
          simp [bucket_of_get? hids, hempty]
        · simp [h]
      · simp only [hempty, ↓reduceIte, bucket_set]
        by_cases h : other = key
        · subst h
          simp [bucket_of_get? hids]
        · simp [h]

omit [DecidableEq ι] in
theorem NoEmptyBucket.erase {index : InvertedIndex κ ι} (h : NoEmptyBucket index) (key : κ) :
    NoEmptyBucket (index.erase key) := by
  intro other ids hids
  rw [Dict.get?_erase] at hids
  by_cases ho : other = key
  · simp [ho] at hids
  · exact h other ids (by simpa [ho] using hids)

omit [DecidableEq ι] in
theorem NoEmptyBucket.set {index : InvertedIndex κ ι} (h : NoEmptyBucket index) (key : κ)
    {ids : Finset ι} (hids : ids.Nonempty) : NoEmptyBucket (index.set key ids) := by
  intro other found hfound
  rw [Dict.get?_set] at hfound
  by_cases ho : other = key
  · obtain rfl : ids = found := by simpa [ho] using hfound
    exact hids
  · exact h other found (by simpa [ho] using hfound)

theorem NoEmptyBucket.insertAt {index : InvertedIndex κ ι} (h : NoEmptyBucket index)
    (key : κ) (id : ι) : NoEmptyBucket (insertAt index key id) :=
  h.set key (Finset.insert_nonempty _ _)

theorem NoEmptyBucket.discardAt {index : InvertedIndex κ ι} (h : NoEmptyBucket index)
    (key : κ) (id : ι) : NoEmptyBucket (discardAt index key id) := by
  unfold InvertedIndex.discardAt
  cases index.get? key with
  | none => exact h
  | some ids =>
      by_cases hempty : ids.erase id = ∅
      · simpa [hempty] using h.erase key
      · simpa [hempty] using h.set key (Finset.nonempty_iff_ne_empty.mpr hempty)

/-! ## Lists of keys -/

/-- File an id under every key of a list. -/
def insertAll (index : InvertedIndex κ ι) (keys : List κ) (id : ι) : InvertedIndex κ ι :=
  keys.foldl (fun index key => insertAt index key id) index

/-- Take an id out of the buckets of a list of keys. -/
def discardAll (index : InvertedIndex κ ι) (keys : List κ) (id : ι) : InvertedIndex κ ι :=
  keys.foldl (fun index key => discardAt index key id) index

theorem mem_bucket_insertAll (keys : List κ) (index : InvertedIndex κ ι) (key : κ)
    (id other : ι) :
    other ∈ bucket (insertAll index keys id) key ↔
      (other = id ∧ key ∈ keys) ∨ other ∈ bucket index key := by
  induction keys generalizing index with
  | nil => simp [insertAll]
  | cons first rest ih =>
      have hrest := ih (insertAt index first id)
      rw [insertAll, List.foldl_cons]
      refine hrest.trans ?_
      rw [bucket_insertAt]
      by_cases h : key = first
      · subst h
        by_cases ho : other = id <;> simp [ho]
      · simp [h]

theorem mem_bucket_discardAll (keys : List κ) (index : InvertedIndex κ ι) (key : κ)
    (id other : ι) :
    other ∈ bucket (discardAll index keys id) key ↔
      ¬(other = id ∧ key ∈ keys) ∧ other ∈ bucket index key := by
  induction keys generalizing index with
  | nil => simp [discardAll]
  | cons first rest ih =>
      have hrest := ih (discardAt index first id)
      rw [discardAll, List.foldl_cons]
      refine hrest.trans ?_
      rw [bucket_discardAt]
      by_cases h : key = first
      · subst h
        by_cases ho : other = id <;> simp [ho]
      · simp [h]

theorem NoEmptyBucket.insertAll {index : InvertedIndex κ ι} (h : NoEmptyBucket index)
    (keys : List κ) (id : ι) : NoEmptyBucket (insertAll index keys id) := by
  induction keys generalizing index with
  | nil => exact h
  | cons first rest ih => exact ih (h.insertAt first id)

theorem NoEmptyBucket.discardAll {index : InvertedIndex κ ι} (h : NoEmptyBucket index)
    (keys : List κ) (id : ι) : NoEmptyBucket (discardAll index keys id) := by
  induction keys generalizing index with
  | nil => exact h
  | cons first rest ih => exact ih (h.discardAt first id)

/-- The buckets are exactly the relation "`id` carries `key`", and none of them is empty. -/
structure Represents (index : InvertedIndex κ ι) (carries : ι → κ → Prop) : Prop where
  mem_bucket : ∀ key id, id ∈ bucket index key ↔ carries id key
  noEmptyBucket : NoEmptyBucket index

omit [DecidableEq ι] in
theorem represents_empty : Represents (Dict.empty : InvertedIndex κ ι) fun _ _ => False where
  mem_bucket := by simp [bucket]
  noEmptyBucket := by simp [NoEmptyBucket]

omit [DecidableEq ι] in
theorem Represents.congr {index : InvertedIndex κ ι} {carries carries' : ι → κ → Prop}
    (h : Represents index carries) (hiff : ∀ id key, carries id key ↔ carries' id key) :
    Represents index carries' where
  mem_bucket key id := (h.mem_bucket key id).trans (hiff id key)
  noEmptyBucket := h.noEmptyBucket

/-- Filing an id under a list of keys adds those keys to what it carries. -/
theorem represents_insertAll {index : InvertedIndex κ ι} {carries : ι → κ → Prop}
    (h : Represents index carries) (keys : List κ) (id : ι) :
    Represents (insertAll index keys id) fun other key =>
      (other = id ∧ key ∈ keys) ∨ carries other key where
  mem_bucket key other := by rw [mem_bucket_insertAll, h.mem_bucket]
  noEmptyBucket := h.noEmptyBucket.insertAll keys id

/-- Taking an id out of a list of buckets removes those keys from what it carries. -/
theorem represents_discardAll {index : InvertedIndex κ ι} {carries : ι → κ → Prop}
    (h : Represents index carries) (keys : List κ) (id : ι) :
    Represents (discardAll index keys id) fun other key =>
      ¬(other = id ∧ key ∈ keys) ∧ carries other key where
  mem_bucket key other := by rw [mem_bucket_discardAll, h.mem_bucket]
  noEmptyBucket := h.noEmptyBucket.discardAll keys id

/-- The ids filed under any of the keys. -/
def union (index : InvertedIndex κ ι) (keys : List κ) : Finset ι :=
  keys.foldl (fun ids key => ids ∪ bucket index key) ∅

theorem mem_foldl_union (index : InvertedIndex κ ι) (keys : List κ) (acc : Finset ι) (id : ι) :
    id ∈ keys.foldl (fun ids key => ids ∪ bucket index key) acc ↔
      id ∈ acc ∨ ∃ key ∈ keys, id ∈ bucket index key := by
  induction keys generalizing acc with
  | nil => simp
  | cons first rest ih => simp [ih, or_assoc]

theorem mem_union (index : InvertedIndex κ ι) (keys : List κ) (id : ι) :
    id ∈ union index keys ↔ ∃ key ∈ keys, id ∈ bucket index key := by
  simp [union, mem_foldl_union]

end InvertedIndex

end IsePortal.Library
