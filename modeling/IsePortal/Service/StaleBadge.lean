import IsePortal.Cache.DiskCache
import IsePortal.Library.Runs
import IsePortal.Service.ServedValues
import Mathlib.Tactic.Linarith

/-!
# The staleness badge

A run keeps beside the cache when the cached values were really fetched, which `fetched_at` does
not say any more after `set_fetch_backoff`. `Covered` says which values carry the badge when they
need it (`covered_iff`), and `badge_always_shown_iff` says it of runs. Without a back-off no page of
cached entries lacks a badge.
-/

namespace IsePortal

open Library EndpointCache

/-- The cache, when the value cached under an id was fetched from ISE, and the returned values,
each with whether it needs the badge. -/
structure BadgeRun where
  cache : EndpointCache EndpointDetail := {}
  fetched : EndpointId → Time := fun _ => 0
  answers : List (Bool × EndpointDetail) := []

/-- What a run does. A fetch that succeeds is a `put_detail`, from a read or in the background. -/
inductive BadgeOp where
  | putDetail (cfg : CacheSettings) (now : Time) (endpointId : EndpointId)
      (value : EndpointDetail)
  | loadFromDisk (cfg : CacheSettings) (now : Time) (file : DiskFile EndpointDetail)
      (fetched : EndpointId → Time)
  | setFetchBackoff (cfg : CacheSettings) (now : Time) (endpointId : EndpointId)
  | read (cfg : CacheSettings) (now : Time) (ise : IseServer) (lookups : Lookups)
      (request : DetailRequest)

/-! ## When the badge is needed -/

namespace PortalState

variable (portal : PortalState) (fetched : EndpointId → Time)

/-- The time since the value cached under the id was fetched. -/
def trueAge (endpointId : EndpointId) : Time := portal.now - fetched endpointId

/-- The TTL of the entry by its tier. -/
def effectiveTtl (entry : CachedEntry EndpointDetail) : Rat :=
  effectiveTtlForEntry entry portal.cfg.cacheTtlSeconds

/-- The value is older than the TTL of its entry, or it is served because the fetch failed. A value
that has just been fetched has no age. -/
def needsBadge (served : Served) : Bool :=
  match served.origin with
  | .fetched entry => decide (portal.effectiveTtl entry < 0)
  | .fallback _ | .summary => true
  | .cached entry | .page entry | .allCached entry =>
      decide (portal.effectiveTtl entry < portal.trueAge fetched served.endpointId)

/-- The value has the badge, or does not need it. -/
def Covered (served : Served) : Prop :=
  match served.origin with
  | .fetched _ => 0 ≤ portal.cfg.cacheTtlSeconds ∨
      portal.cfg.cacheEnabled = false ∧ portal.cache.isFromDisk served.endpointId = true
  | .cached entry =>
      portal.trueAge fetched served.endpointId ≤ portal.effectiveTtl entry ∨
        entry.fromDisk = true
  | .fallback entry => entry.fromDisk = true
  | .summary => False
  | .page entry =>
      portal.trueAge fetched served.endpointId ≤ portal.effectiveTtl entry ∨
        entry.fromDisk = true ∨ portal.effectiveTtl entry < portal.now - entry.fetchedAt
  | .allCached entry =>
      portal.trueAge fetched served.endpointId ≤ portal.effectiveTtl entry ∨
        entry.value.cacheStale = true

variable {portal fetched}

/-- The tier does not change the sign of the TTL. -/
theorem effective_ttl_neg_iff (entry : CachedEntry EndpointDetail) :
    portal.effectiveTtl entry < 0 ↔ portal.cfg.cacheTtlSeconds < 0 := by
  unfold effectiveTtl effectiveTtlForEntry tierHotFactor tierColdFactor
  split
  · constructor <;> intro h <;> linarith
  · split
    · constructor <;> intro h <;> linarith
    · exact Iff.rfl

/-- The badge is there when needed exactly on the covered values. -/
theorem covered_iff (served : Served) :
    (portal.needsBadge fetched served = true → portal.badge served = true) ↔
      portal.Covered fetched served := by
  unfold needsBadge badge Covered
  cases served.origin with
  | fetched entry =>
      simp only [decide_eq_true_eq, Bool.and_eq_true, Bool.not_eq_true']
      rw [effective_ttl_neg_iff, ← not_le]
      exact or_iff_not_imp_left.symm
  | cached entry =>
      simp only [decide_eq_true_eq]
      rw [← not_le]
      exact or_iff_not_imp_left.symm
  | fallback entry => exact ⟨fun h => h rfl, fun h _ => h⟩
  | summary => simp
  | page entry =>
      simp only [isStale, decide_eq_true_eq, Bool.or_eq_true, gt_iff_lt]
      rw [← not_le]
      exact or_iff_not_imp_left.symm
  | allCached entry =>
      simp only [decide_eq_true_eq]
      rw [← not_le]
      exact or_iff_not_imp_left.symm

end PortalState

/-! ## Runs -/

namespace BadgeRun

variable [PyText] [DetailCodec]

/-- What a read finds. -/
def portal (state : BadgeRun) (cfg : CacheSettings) (now : Time) (ise : IseServer) :
    PortalState where
  cfg := cfg
  now := now
  cache := state.cache
  ise := ise

/-- One pass of the entry loop of `load_from_disk`: an id that is cached is left alone. -/
def loadEntry (cfg : CacheSettings) (now : Time) (fetched : EndpointId → Time) (state : BadgeRun)
    (entry : EndpointId × DiskEntry EndpointDetail) : BadgeRun :=
  { state with
    cache := EndpointCache.loadEntry cfg now state.cache entry.1 entry.2
    fetched := fun endpointId =>
      if endpointId = entry.1 ∧ endpointId ∉ state.cache.details.keys then fetched endpointId
      else state.fetched endpointId }

/-- `load_from_disk`; the values of the file were fetched at the given times, which its
`fetched_at` need not say. -/
def loadFromDisk (cfg : CacheSettings) (now : Time) (fetched : EndpointId → Time)
    (state : BadgeRun) (file : DiskFile EndpointDetail) : BadgeRun :=
  let loaded := (entriesRead state.cache file).foldl (loadEntry cfg now fetched)
    { state with cache := (restoreTierEmas (savedEmas file) state.cache).1 }
  { loaded with cache := state.cache.loadFromDisk cfg now file }

/-- Perform one operation. -/
def perform (state : BadgeRun) : BadgeOp → BadgeRun
  | .putDetail cfg now endpointId value =>
      { state with
        cache := state.cache.putDetail cfg now endpointId value false
        fetched := fun other =>
          if other = endpointId ∧ cfg.cacheEnabled then now else state.fetched other }
  | .loadFromDisk cfg now file fetched => state.loadFromDisk cfg now fetched file
  | .setFetchBackoff cfg now endpointId =>
      { state with cache := state.cache.setFetchBackoff cfg now endpointId }
  | .read cfg now ise lookups request =>
      let portal := state.portal cfg now ise
      { state with
        answers := state.answers ++ (portal.served lookups request).map fun served =>
          (portal.needsBadge state.fetched served, served.detail) }

/-- One step of a run; every operation is possible in every state. -/
def step (state : BadgeRun) (op : BadgeOp) : Option BadgeRun := some (state.perform op)

/-- Every returned value that needs the badge has it. -/
def Shown (state : BadgeRun) : Prop :=
  ∀ answer ∈ state.answers, answer.1 = true → answer.2.cacheStale = true

/-- A read returns covered values only. -/
def ReadsCovered (state : BadgeRun) : BadgeOp → Prop
  | .read cfg now ise lookups request =>
      ∀ served ∈ (state.portal cfg now ise).served lookups request,
        (state.portal cfg now ise).Covered state.fetched served
  | _ => True

variable {state after : BadgeRun}

theorem answers_foldl_load_entry (cfg : CacheSettings) (now : Time) (fetched : EndpointId → Time)
    (entries : List (EndpointId × DiskEntry EndpointDetail)) (state : BadgeRun) :
    (entries.foldl (loadEntry cfg now fetched) state).answers = state.answers := by
  induction entries generalizing state with
  | nil => rfl
  | cons first rest ih => exact ih (state.loadEntry cfg now fetched first)

/-- What one step does to the badges. -/
theorem shown_step {op : BadgeOp} (hstep : state.step op = some after) (h : Shown state) :
    Shown after ↔ ReadsCovered state op := by
  cases hstep
  cases op with
  | putDetail cfg now endpointId value => exact iff_of_true h trivial
  | setFetchBackoff cfg now endpointId => exact iff_of_true h trivial
  | loadFromDisk cfg now file fetched =>
      refine iff_of_true ?_ trivial
      have hanswers : (state.loadFromDisk cfg now fetched file).answers = state.answers :=
        answers_foldl_load_entry cfg now fetched _ _
      show ∀ answer ∈ (state.loadFromDisk cfg now fetched file).answers, _
      rw [hanswers]
      exact h
  | read cfg now ise lookups request =>
      have hserved : ∀ served ∈ (state.portal cfg now ise).served lookups request,
          ((state.portal cfg now ise).needsBadge state.fetched served = true →
              served.detail.cacheStale = true) ↔
            (state.portal cfg now ise).Covered state.fetched served := by
        intro served hmem
        rw [PortalState.cache_stale_served hmem]
        exact PortalState.covered_iff served
      constructor
      · intro hshown served hmem
        refine (hserved served hmem).mp fun hneeds => ?_
        exact hshown (_, served.detail)
          (List.mem_append_right _ (List.mem_map.mpr ⟨served, hmem, rfl⟩)) hneeds
      · intro hcovered answer hanswer
        rcases List.mem_append.mp hanswer with hold | hnew
        · exact h answer hold
        · obtain ⟨served, hmem, rfl⟩ := List.mem_map.mp hnew
          exact (hserved served hmem).mpr (hcovered served hmem)

/-- In every run every value that is older than its TTL, or served because a fetch failed, has the
badge exactly when all reads return covered values only. -/
theorem badge_always_shown_iff (ops : List BadgeOp) :
    Always step Shown {} ops ↔ Guarded step ReadsCovered {} ops :=
  always_iff_guarded (I := fun _ => True) (fun _ _ _ _ _ => trivial)
    (fun _ _ _ hstep _ hshown => shown_step hstep hshown) trivial
    (fun _ hanswer => by cases hanswer)

/-! ## Without a back-off -/

/-- `fetched_at` says when the value of a live entry was fetched. -/
def FetchedTimes (state : BadgeRun) : Prop :=
  ∀ endpointId entry, state.cache.details.get? endpointId = some entry →
    entry.fromDisk = false → entry.fetchedAt = state.fetched endpointId

/-- The operations but the back-off. -/
def NoBackoff (_ : BadgeRun) : BadgeOp → Prop
  | .setFetchBackoff .. => False
  | _ => True

theorem fetched_times_load_entry (cfg : CacheSettings) (now : Time)
    (fetched : EndpointId → Time) (entry : EndpointId × DiskEntry EndpointDetail)
    (h : FetchedTimes state) : FetchedTimes (state.loadEntry cfg now fetched entry) := by
  have hcached : ∀ endpointId cached, state.cache.details.get? endpointId = some cached →
      (state.loadEntry cfg now fetched entry).fetched endpointId = state.fetched endpointId := by
    intro endpointId cached hold
    exact if_neg fun hnew => hnew.2 (Dict.mem_keys_iff.mpr ⟨cached, hold⟩)
  intro endpointId cached hentry hlive
  rcases load_entry_cases cfg now state.cache entry.1 entry.2 with
    ⟨hskip, _⟩ | ⟨value, fetchedAt, _, _, _, _, heq⟩
  · simp only [loadEntry] at hentry
    rw [hskip] at hentry
    rw [hcached endpointId cached hentry]
    exact h endpointId cached hentry hlive
  · simp only [loadEntry] at hentry
    rw [heq] at hentry
    simp only [Dict.get?_set] at hentry
    split at hentry
    · cases hentry
      cases hlive
    · have hold := get?_make_room hentry
      rw [hcached endpointId cached hold]
      exact h endpointId cached hold hlive

/-- The entry loop keeps the times, and its cache is that of `load_from_disk`. -/
theorem fetched_times_load_entries (cfg : CacheSettings) (now : Time)
    (fetched : EndpointId → Time) (entries : List (EndpointId × DiskEntry EndpointDetail))
    (h : FetchedTimes state) :
    FetchedTimes (entries.foldl (loadEntry cfg now fetched) state) ∧
      (entries.foldl (loadEntry cfg now fetched) state).cache =
        loadEntries cfg now entries state.cache := by
  induction entries generalizing state with
  | nil => exact ⟨h, rfl⟩
  | cons first rest ih => exact ih (fetched_times_load_entry cfg now fetched first h)

theorem fetched_times_step {op : BadgeOp} (hstep : state.step op = some after)
    (hgood : NoBackoff state op) (h : FetchedTimes state) : FetchedTimes after := by
  cases hstep
  cases op with
  | read cfg now ise lookups request => exact h
  | setFetchBackoff cfg now endpointId => cases hgood
  | putDetail cfg now endpointId value =>
      intro other entry hentry hlive
      simp only [perform, putDetail] at hentry ⊢
      cases hon : cfg.cacheEnabled with
      | false =>
          simp only [hon, Bool.false_eq_true, ↓reduceIte, and_false] at hentry ⊢
          exact h other entry hentry hlive
      | true =>
          simp only [hon, ↓reduceIte, and_true, Dict.get?_set] at hentry ⊢
          split at hentry
          · rename_i hother
            cases hentry
            exact (if_pos hother).symm
          · rename_i hother
            rw [if_neg hother]
            exact h other entry (get?_make_room hentry) hlive
  | loadFromDisk cfg now file fetched =>
      obtain ⟨emas, hrestored⟩ := restore_tier_emas_frame (savedEmas file) state.cache
      obtain ⟨groups, hload⟩ := load_from_disk_eq cfg now state.cache file
      have hstart : FetchedTimes
          { state with cache := (restoreTierEmas (savedEmas file) state.cache).1 } := by
        rw [hrestored]
        exact h
      obtain ⟨hloaded, hcache⟩ :=
        fetched_times_load_entries cfg now fetched (entriesRead state.cache file) hstart
      intro endpointId entry hentry hlive
      refine hloaded endpointId entry ?_ hlive
      rw [hcache]
      simp only [perform, loadFromDisk] at hentry
      rw [hload] at hentry
      exact hentry

/-- Every value on a page of cached entries that is older than its TTL has the badge. -/
def PagesShown (state : BadgeRun) : Prop :=
  ∀ (cfg : CacheSettings) (now : Time) (ise : IseServer) (lookups : Lookups) (isPskEditor : Bool)
    (effectiveRoles : Option (List String)),
    ∀ served ∈ (state.portal cfg now ise).serveSnapshot lookups effectiveRoles isPskEditor,
      (state.portal cfg now ise).needsBadge state.fetched served = true →
        served.detail.cacheStale = true

/-- So they do after a run without back-offs. -/
theorem page_shown_without_backoff (ops : List BadgeOp)
    (hops : Guarded step NoBackoff {} ops) : Always step PagesShown {} ops := by
  have htimes : Always step FetchedTimes {} ops :=
    always_of_guarded (fun _ _ _ hstep hgood h => fetched_times_step hstep hgood h) hops
      (fun _ _ hentry => by cases hentry)
  refine htimes.mono fun state h cfg now ise lookups isPskEditor effectiveRoles served hserved => ?_
  obtain ⟨endpointId, entry, hentry, hpage⟩ := PortalState.mem_serve_snapshot hserved
  have hflag : served.detail.cacheStale = (state.portal cfg now ise).badge served := by
    rw [hpage]
    exact PortalState.cache_stale_mask_for isPskEditor _
  rw [hflag]
  refine (PortalState.covered_iff served).mpr ?_
  rw [hpage]
  show _ ∨ entry.fromDisk = true ∨ _
  cases hdisk : entry.fromDisk with
  | true => exact Or.inr (Or.inl rfl)
  | false =>
      have hfetched : entry.fetchedAt = state.fetched endpointId :=
        h endpointId entry hentry hdisk
      rcases le_or_gt ((state.portal cfg now ise).trueAge state.fetched endpointId)
        ((state.portal cfg now ise).effectiveTtl entry) with hfresh | hold
      · exact Or.inl hfresh
      · refine Or.inr (Or.inr ?_)
        rw [hfetched]
        exact hold

end BadgeRun

/-! ## A fetch that fails -/

section Examples

open BadgeRun

local instance badgeText : PyText := asciiText

local instance badgeCodec : DetailCodec := plainJson

/-- ISE while it does not answer. -/
def silentIse : IseServer where
  endpoints _ := none
  refusal _ := some { statusCode := 0, message := "timeout" }

/-- The edit dialog asks for a fresh value, ISE does not answer, and the cached one is shown as if
it were fresh. -/
theorem badge_missing :
    ¬ Always step Shown {}
      [.putDetail {} 100 "ep-1" { id := "ep-1", name := "printer" },
        .read {} 2000 silentIse { setOrder := fun _ => [] }
          (.getEndpoint "ep-1" none false true)] := by
  intro h
  have hread := h.last rfl (true, { id := "ep-1", name := "printer" }) (by decide) rfl
  cases hread

/-- A value is cached and read. -/
theorem page_shown_without_backoff_cached :
    Always step PagesShown {}
      [.putDetail {} 100 "ep-1" { id := "ep-1", name := "printer" },
        .read {} 2000 silentIse { setOrder := fun _ => [] }
          (.getEndpoint "ep-1" none false true)] :=
  page_shown_without_backoff _ (guarded_of_forall (by simp))

end Examples

end IsePortal
