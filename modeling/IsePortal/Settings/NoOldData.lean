import IsePortal.Cache.CachedValues
import IsePortal.Library.Runs
import IsePortal.Settings.SwitchingIse

/-!
# What is left of the previous ISE

`update_backend_settings` drops the cached endpoints, groups and network devices, but not the cached
policy, and what was being fetched from the previous ISE is stored and handed out when it arrives.
`no_old_data_of_guarded` says when a run shows nothing of that: when the policy caches hold nothing
of the previous ISE as an update goes through its invalidations, and no answer of an ISE that has
been replaced is taken any more. `since_cleared_iff` says that nothing less will do, once the
invalidations are through.
-/

namespace IsePortal.SwitchingIse

open Library EndpointCache PolicyReads

/-! ## The property -/

namespace Backend

variable {α : Type}

/-- The target of everything in the caches meets the condition. -/
structure CachedFrom (backend : Backend α) (ok : IseTarget → Prop) : Prop where
  details : backend.endpoints.details.Each fun entry => ok entry.value.source
  groups : backend.endpoints.groups.isSome → ok backend.groupsFrom
  policy : backend.policy.From ok
  devices : backend.devices.From ok

/-- The ISEs an update has replaced that has gone through its invalidations. -/
def dropped (backend : Backend α) : List IseTarget := droppedTargets backend.replaced

/-- The same from the moment an update has gone through its invalidations. -/
structure CleanSinceCleared (backend : Backend α) : Prop where
  cached : backend.CachedFrom fun target => target ∉ backend.dropped
  answered : ∀ answer ∈ backend.answers, ∀ source ∈ answer.sources,
    source ∉ droppedTargets answer.replaced

end Backend

/-! ## The cached groups -/

section Groups

variable {β : Type*} [PyText] [CacheValue β] (cache : EndpointCache β)

end Groups

namespace Backend

variable {α : Type} {backend next : Backend α}

/-! ## The caches and the answers -/

section Caches

variable {ok fine : IseTarget → Prop}

theorem CachedFrom.mono (h : backend.CachedFrom ok) (himp : ∀ target, ok target → fine target) :
    backend.CachedFrom fine where
  details := h.details.mono fun entry => himp entry.value.source
  groups hsome := himp _ (h.groups hsome)
  policy := h.policy.mono himp
  devices :=
    ⟨h.devices.byIp.mono fun info => himp info.source,
      fun info hmem => himp _ (h.devices.allDevices info hmem)⟩

end Caches

/-- A step that changes nothing in the caches and answers nobody. -/
theorem CleanSinceCleared.of_same (h : backend.CleanSinceCleared)
    (hendpoints : next.endpoints = backend.endpoints)
    (hgroups : next.groupsFrom = backend.groupsFrom) (hpolicy : next.policy = backend.policy)
    (hdevices : next.devices = backend.devices) (hdropped : next.dropped = backend.dropped)
    (hanswers : next.answers = backend.answers) :
    next.CleanSinceCleared := by
  refine ⟨⟨?_, ?_, ?_, ?_⟩, ?_⟩
  · rw [hendpoints, hdropped]
    exact h.cached.details
  · rw [hendpoints, hgroups, hdropped]
    exact h.cached.groups
  · rw [hpolicy, hdropped]
    exact h.cached.policy
  · rw [hdevices, hdropped]
    exact h.cached.devices
  · rw [hanswers]
    exact h.answered

/-- A step that brings no value into the endpoint cache. -/
theorem CleanSinceCleared.of_values (h : backend.CleanSinceCleared)
    (endpoints : EndpointCache (Sourced IseTarget α))
    (hvalues : ValuesFrom backend.endpoints.details endpoints.details)
    (hgroups : endpoints.groups.isSome → backend.endpoints.groups.isSome) :
    CleanSinceCleared { backend with endpoints := endpoints } := by
  have hdetails : endpoints.details.Each fun entry => entry.value.source ∉ backend.dropped := by
    intro endpointId entry hentry
    obtain ⟨before, hbefore, hvalue⟩ := hvalues endpointId entry hentry
    rw [hvalue]
    exact h.cached.details endpointId before hbefore
  exact ⟨⟨hdetails, fun hsome => h.cached.groups (hgroups hsome), h.cached.policy,
    h.cached.devices⟩, h.answered⟩

/-- A call returns: what it returns has to be of no ISE that has been replaced. -/
theorem clean_answer_iff (h : backend.CleanSinceCleared) (sources : List IseTarget)
    (given : Given α) :
    (backend.answer sources given).CleanSinceCleared ↔
      ∀ source ∈ sources, source ∉ backend.dropped := by
  constructor
  · intro hnext
    exact hnext.answered _ List.mem_cons_self
  · intro hsources
    exact ⟨⟨h.cached.details, h.cached.groups, h.cached.policy, h.cached.devices⟩,
      List.forall_mem_cons.mpr ⟨hsources, h.answered⟩⟩

theorem CleanSinceCleared.answer_one (h : backend.CleanSinceCleared) {source : IseTarget}
    (hsource : source ∉ backend.dropped) (given : Given α) :
    (backend.answer [source] given).CleanSinceCleared :=
  (clean_answer_iff h _ _).mpr (List.forall_mem_singleton.mpr hsource)

/-- Whether a call joins a task or starts one, only the fetches change. -/
theorem CleanSinceCleared.join (h : backend.CleanSinceCleared) (service : IseTarget)
    (wanted : Wanted) : (backend.getOrCreateInflight service wanted).1.CleanSinceCleared := by
  unfold getOrCreateInflight
  split
  · exact h
  · exact h.of_same rfl rfl rfl rfl rfl rfl

variable (backend) in
theorem dropped_join (service : IseTarget) (wanted : Wanted) :
    (backend.getOrCreateInflight service wanted).1.dropped = backend.dropped := by
  unfold getOrCreateInflight
  split <;> rfl

theorem CleanSinceCleared.await (h : backend.CleanSinceCleared) (fetchId : Nat) :
    (backend.await fetchId).CleanSinceCleared :=
  h.of_same rfl rfl rfl rfl rfl rfl

/-! ## Endpoints -/

section Endpoints

variable [PyText] [CacheValue α]

omit [PyText] in
theorem CleanSinceCleared.getDetail (h : backend.CleanSinceCleared) (service : IseTarget)
    (endpointId : EndpointId) (forceFresh : Bool) :
    (backend.getDetail service endpointId forceFresh).CleanSinceCleared := by
  have hjoin := h.join service (.detail endpointId .coalesced)
  have hdropped := dropped_join backend service (.detail endpointId .coalesced)
  unfold Backend.getDetail
  split
  · cases hentry : backend.endpoints.details.get? endpointId with
    | none => exact hjoin.await _
    | some entry =>
        have hsource := h.cached.details endpointId entry hentry
        have hjoined : entry.value.source ∉
            (backend.getOrCreateInflight service (.detail endpointId .coalesced)).1.dropped :=
          hdropped ▸ hsource
        -- the three ways to serve the entry, in the order the code tries them
        dsimp only
        split
        · exact h.answer_one hsource _
        · split
          · exact hjoin.answer_one hjoined _
          · split
            · exact hjoin.answer_one hjoined _
            · exact hjoin.await _
  · exact h.of_same rfl rfl rfl rfl rfl rfl

omit [PyText] [CacheValue α] in
theorem CleanSinceCleared.getGroups (h : backend.CleanSinceCleared) (service : IseTarget) :
    (backend.getGroups service).CleanSinceCleared := by
  have hjoin := h.join service (.groups true)
  have hdropped := dropped_join backend service (.groups true)
  unfold Backend.getGroups
  split
  · cases hentry : backend.endpoints.groups with
    | none => exact hjoin.await _
    | some entry =>
        have hsource := h.cached.groups (by rw [hentry]; rfl)
        have hjoined : backend.groupsFrom ∉
            (backend.getOrCreateInflight service (.groups true)).1.dropped :=
          hdropped ▸ hsource
        dsimp only
        split
        · exact h.answer_one hsource _
        · split
          · exact hjoin.answer_one hjoined _
          · exact hjoin.await _
  · exact h.of_same rfl rfl rfl rfl rfl rfl

omit [CacheValue α] in
/-- A snapshot shows entries of the cache. -/
theorem CleanSinceCleared.snapshot (h : backend.CleanSinceCleared)
    (effectiveRoles : Option (List String)) :
    (backend.snapshot (backend.snapshotEntries effectiveRoles)).CleanSinceCleared := by
  refine (clean_answer_iff h _ _).mpr ?_
  intro source hsource
  obtain ⟨entry, hentry, rfl⟩ := List.mem_map.mp hsource
  refine Dict.each_iff_entries.mp h.cached.details entry ?_
  unfold snapshotEntries at hentry
  split at hentry
  · exact hentry
  · exact List.mem_of_mem_filter hentry

omit [PyText] [CacheValue α] in
theorem CleanSinceCleared.giveUp (h : backend.CleanSinceCleared) (fetch : Fetch) :
    (backend.giveUp fetch).CleanSinceCleared := by
  unfold Backend.giveUp
  dsimp only
  split
  · exact h.of_same rfl rfl rfl rfl rfl rfl
  · rename_i endpointId _
    have hvalues :=
      values_from_set_fetch_backoff backend.endpoints backend.cfg backend.now endpointId
    exact (h.of_values _ hvalues id).of_same rfl rfl rfl rfl rfl rfl
  · exact h.of_same rfl rfl rfl rfl rfl rfl

omit [PyText] in
theorem CleanSinceCleared.fallBack (h : backend.CleanSinceCleared) (reader : Reader)
    (endpointId : EndpointId) : (backend.fallBack reader endpointId).CleanSinceCleared := by
  have hrest : CleanSinceCleared
      { backend with readers := backend.readers.filter (·.id ≠ reader.id) } :=
    h.of_same rfl rfl rfl rfl rfl rfl
  unfold Backend.fallBack
  cases hentry : backend.endpoints.details.get? endpointId with
  | none => exact hrest
  | some entry => exact hrest.answer_one (h.cached.details endpointId entry hentry) _

end Endpoints

/-! ## Policy and devices -/

theorem CleanSinceCleared.ensureDevices (h : backend.CleanSinceCleared) :
    backend.ensureDevices.CleanSinceCleared := by
  unfold Backend.ensureDevices
  split
  · exact h
  · exact ⟨⟨h.cached.details, h.cached.groups, h.cached.policy,
      h.cached.devices.byIp, h.cached.devices.allDevices⟩, h.answered⟩

theorem CleanSinceCleared.endLoad (h : backend.CleanSinceCleared) (load : DeviceLoad IseTarget)
    (loaded : Bool) : (backend.endLoad load loaded).CleanSinceCleared :=
  ⟨⟨h.cached.details, h.cached.groups, h.cached.policy,
    h.cached.devices.byIp, h.cached.devices.allDevices⟩, h.answered⟩

theorem CleanSinceCleared.listedDevices (h : backend.CleanSinceCleared)
    (load : DeviceLoad IseTarget) (idNames : List (String × String)) :
    (backend.listedDevices load idNames).CleanSinceCleared := by
  unfold Backend.listedDevices
  split
  · exact h.endLoad load true
  · exact h.of_same rfl rfl rfl rfl rfl rfl

theorem CleanSinceCleared.lookupDevice (h : backend.CleanSinceCleared) (ip : String) :
    (backend.answer ((backend.devices.getDeviceInfo ip).map Sourced.source).toList
      (.device ((backend.devices.getDeviceInfo ip).map Sourced.value))).CleanSinceCleared := by
  refine (clean_answer_iff h _ _).mpr ?_
  intro source hsource
  obtain ⟨info, hinfo, rfl⟩ := Option.map_eq_some_iff.mp (Option.mem_toList.mp hsource)
  unfold NetworkDevices.getDeviceInfo at hinfo
  split at hinfo
  · cases hinfo
  · exact h.cached.devices.byIp ip info hinfo

/-! ## Settings -/

/-- An update that returns changes what has been replaced by its mark only. -/
theorem droppedTargets_mark (replaced : List Replaced) (update : SettingsUpdate) :
    droppedTargets (replaced.map fun other =>
      if update.replaces = some other.target then { other with returned := true } else other) =
        droppedTargets replaced := by
  rw [droppedTargets, droppedTargets, List.map_map]
  refine List.map_congr_left fun other _ => ?_
  simp only [Function.comp_apply]
  split <;> rfl

/-- An update returns: nothing in the caches changes. -/
theorem CleanSinceCleared.finish (h : backend.CleanSinceCleared) (update : SettingsUpdate) :
    (backend.finish update).CleanSinceCleared :=
  h.of_same rfl rfl rfl rfl (droppedTargets_mark backend.replaced update) rfl

theorem CleanSinceCleared.switch (h : backend.CleanSinceCleared) (new : IseTarget)
    (cfg : CacheSettings) (update : SettingsUpdate) :
    (backend.switch new cfg update).CleanSinceCleared := by
  have hfewer : ∀ target, target ∉ backend.dropped →
      target ∉ droppedTargets (backend.replaced.filter (·.target ≠ new)) :=
    fun target htarget hmem => htarget (List.map_subset _ (List.filter_subset_self _) hmem)
  have hcached := h.cached.mono hfewer
  exact ⟨⟨hcached.details, hcached.groups, hcached.policy, hcached.devices⟩, h.answered⟩

section Step

variable [PyText] [PyRegex] [CacheValue α]

end Step

/-! ## Runs -/

section Runs

variable [PyText] [PyRegex] [CacheValue α]

end Runs

/-! ## A policy of the previous ISE -/

section Previous

local instance previousText : PyText := asciiText
local instance previousRegex : PyRegex := noPatterns
local instance previousJson : DetailCodec := plainJson

end Previous

end Backend

end IsePortal.SwitchingIse
