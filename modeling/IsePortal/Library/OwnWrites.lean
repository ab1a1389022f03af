import Mathlib.Data.List.Basic

/-!
# Readings and the writes they have to know

A store counts the writes it takes. A reading carries the count it stands for, a write the count it
brought about, so a reading is older than a write when its count is smaller. `Knows` says that a
reading is older than none of the writes it has to know.
-/

namespace IsePortal.Library

universe u v

/-- A value read from the store, with the count it stands for. -/
structure Stamped (α : Type u) where
  value : α
  version : Nat

/-- A write of something under a key, with the count it brought about. -/
structure OwnWrite (κ : Type v) where
  key : κ
  version : Nat

variable {κ : Type v}

/-- A reading with this count is older than none of the writes that concern it. -/
def Knows (writes : List (OwnWrite κ)) (concerns : κ → Prop) (version : Nat) : Prop :=
  ∀ write ∈ writes, concerns write.key → write.version ≤ version

variable {writes fewer : List (OwnWrite κ)} {concerns : κ → Prop} {version : Nat}

theorem knows_cons_iff {write : OwnWrite κ} :
    Knows (write :: writes) concerns version ↔
      (concerns write.key → write.version ≤ version) ∧ Knows writes concerns version :=
  List.forall_mem_cons

/-- Who asks for fewer writes is answered by the same reading. -/
theorem Knows.of_subset (h : Knows writes concerns version) (hsub : fewer ⊆ writes) :
    Knows fewer concerns version :=
  fun write hmem => h write (hsub hmem)

/-- A write of something else changes nothing. -/
theorem Knows.cons_of_not {write : OwnWrite κ} (h : Knows writes concerns version)
    (hother : ¬ concerns write.key) : Knows (write :: writes) concerns version :=
  knows_cons_iff.mpr ⟨fun hsame => absurd hsame hother, h⟩

/-- Each of those who wait asks for no write that has not returned. -/
def FloorsWithin {ρ : Type u} (floor : ρ → List (OwnWrite κ)) (returned : List (OwnWrite κ))
    (waiting : List ρ) : Prop :=
  ∀ reader ∈ waiting, floor reader ⊆ returned

section Floors

variable {ρ : Type u} {floor : ρ → List (OwnWrite κ)} {returned : List (OwnWrite κ)}
  {waiting fewerWaiting : List ρ}

theorem FloorsWithin.of_subset (h : FloorsWithin floor returned waiting)
    (hsub : fewerWaiting ⊆ waiting) : FloorsWithin floor returned fewerWaiting :=
  fun reader hmem => h reader (hsub hmem)

theorem FloorsWithin.cons {reader : ρ} (h : FloorsWithin floor returned waiting)
    (hreader : floor reader ⊆ returned) : FloorsWithin floor returned (reader :: waiting) :=
  List.forall_mem_cons.mpr ⟨hreader, h⟩

/-- One more write returns. -/
theorem FloorsWithin.returns (h : FloorsWithin floor returned waiting) (write : OwnWrite κ) :
    FloorsWithin floor (write :: returned) waiting :=
  fun reader hmem => List.subset_cons_of_subset write (h reader hmem)

end Floors

end IsePortal.Library
