import Mathlib.Data.List.TakeWhile

/-!
# Loops that an exception ends

A loop reads one item after the other and changes a state with what it has read. Reading an item may
raise, which ends the loop there and then: what was done before stays done, the rest is never
looked at. `foldUntil` is the state such a loop leaves, with the exception that ended it.
-/

namespace IsePortal.Library

universe u v w x

variable {σ : Type u} {α : Type v} {β : Type w} {ε : Type x}

/-- Read the items in order and apply what is read, up to the first item that raises. -/
def foldUntil (read : α → Except ε β) (act : σ → β → σ) : σ → List α → σ × Option ε
  | state, [] => (state, none)
  | state, item :: rest =>
      match read item with
      | .error raised => (state, some raised)
      | .ok value => foldUntil read act (act state value) rest

/-- The item can be read. -/
def Reads (read : α → Except ε β) (item : α) : Prop := ∃ value, read item = .ok value

/-- Whether the item can be read. -/
def readsOk (read : α → Except ε β) (item : α) : Bool :=
  match read item with
  | .error _ => false
  | .ok _ => true

variable {read : α → Except ε β} {act : σ → β → σ}

theorem readsOk_iff {item : α} : readsOk read item = true ↔ Reads read item := by
  unfold readsOk Reads
  cases read item with
  | error raised => simp
  | ok value => simp

/-- The loop reaches its end exactly when no item raises. -/
theorem foldUntil_snd_eq_none_iff (state : σ) (items : List α) :
    (foldUntil read act state items).2 = none ↔ ∀ item ∈ items, Reads read item := by
  induction items generalizing state with
  | nil => simp [foldUntil]
  | cons item rest ih =>
      rw [List.forall_mem_cons, foldUntil]
      cases hread : read item with
      | error raised =>
          -- the loop ends at this item, whatever comes after it
          refine iff_of_false (by simp) ?_
          rintro ⟨⟨value, hvalue⟩, _⟩
          rw [hread] at hvalue
          cases hvalue
      | ok value =>
          have hitem : Reads read item := ⟨value, hread⟩
          rw [and_iff_right hitem]
          exact ih (act state value)

/-- What can be read of the items. -/
def readable (read : α → Except ε β) (items : List α) : List β :=
  items.filterMap fun item => (read item).toOption

/-- The loop applies what can be read of the items before the first that raises. -/
theorem foldUntil_fst (state : σ) (items : List α) :
    (foldUntil read act state items).1 =
      (readable read (items.takeWhile (readsOk read))).foldl act state := by
  induction items generalizing state with
  | nil => rfl
  | cons item rest ih =>
      rw [foldUntil]
      cases hread : read item with
      | error raised =>
          have hstop : readsOk read item = false := by rw [readsOk, hread]
          rw [List.takeWhile_cons_of_neg (by rw [hstop]; exact Bool.false_ne_true)]
          rfl
      | ok value =>
          have hgo : readsOk read item = true := by rw [readsOk, hread]
          have hvalue : (read item).toOption = some value := by rw [hread]; rfl
          rw [List.takeWhile_cons_of_pos hgo, readable, List.filterMap_cons, hvalue]
          exact ih (act state value)

theorem readable_append (items others : List α) :
    readable read (items ++ others) = readable read items ++ readable read others :=
  List.filterMap_append

/-- Where no item raises the loop applies them all. -/
theorem foldUntil_fst_of_reads (state : σ) {items : List α}
    (h : ∀ item ∈ items, Reads read item) :
    (foldUntil read act state items).1 = (readable read items).foldl act state := by
  have hall : items.takeWhile (readsOk read) = items :=
    List.takeWhile_eq_self_iff.mpr fun item hitem => readsOk_iff.mpr (h item hitem)
  rw [foldUntil_fst, hall]

/-! ## Loops over the entries of a dictionary -/

section Entries

variable {κ : Type*}

/-- Read the value of an entry. -/
def readEntry (read : α → Except ε β) (entry : κ × α) : Except ε (κ × β) :=
  (read entry.2).map fun value => (entry.1, value)

theorem readsOk_readEntry (entry : κ × α) :
    readsOk (readEntry read) entry = readsOk read entry.2 := by
  unfold readsOk readEntry
  cases read entry.2 with
  | error raised => rfl
  | ok value => rfl

/-- The keys of what can be read are among the keys, in their order. -/
theorem keys_readable_sublist (entries : List (κ × α)) :
    ((readable (readEntry read) entries).map Prod.fst).Sublist (entries.map Prod.fst) := by
  induction entries with
  | nil => exact List.Sublist.refl []
  | cons entry rest ih =>
      unfold readable at ih ⊢
      rw [List.filterMap_cons, readEntry]
      cases read entry.2 with
      | error raised => exact ih.cons entry.1
      | ok value => exact ih.cons_cons entry.1

/-- What the loop has read for a key: the value of its first entry, where the loop comes to it. -/
theorem lookup_readable_takeWhile [DecidableEq κ] (entries : List (κ × α)) (key : κ) :
    (readable (readEntry read) (entries.takeWhile fun entry => readsOk read entry.2)).lookup key =
      if key ∈ (entries.takeWhile fun entry => readsOk read entry.2).map Prod.fst then
        (entries.lookup key).bind fun value => (read value).toOption
      else none := by
  induction entries with
  | nil => rfl
  | cons entry rest ih =>
      obtain ⟨first, value⟩ := entry
      cases hread : read value with
      | error raised =>
          have hstop : readsOk read value = false := by rw [readsOk, hread]
          rw [List.takeWhile_cons_of_neg (by rw [hstop]; exact Bool.false_ne_true)]
          rfl
      | ok parsed =>
          have hgo : readsOk read value = true := by rw [readsOk, hread]
          have hparsed : (readEntry read (first, value)).toOption = some (first, parsed) := by
            rw [readEntry, hread]
            rfl
          have htaken : ((first, value) :: rest).takeWhile (fun entry => readsOk read entry.2) =
              (first, value) :: rest.takeWhile fun entry => readsOk read entry.2 :=
            List.takeWhile_cons_of_pos hgo
          rw [htaken, readable, List.filterMap_cons, hparsed, List.map_cons, List.lookup_cons,
            List.lookup_cons]
          by_cases hkey : key = first
          · subst hkey
            rw [beq_self_eq_true, if_pos List.mem_cons_self, Option.bind_some, hread]
            rfl
          · have hb : (key == first) = false := by simpa using hkey
            rw [hb]
            refine ih.trans (if_congr ?_ rfl rfl)
            rw [List.mem_cons, or_iff_right hkey]

end Entries

end IsePortal.Library
