import Mathlib.Data.List.Dedup
import IsePortal.Library.Dict
import IsePortal.Library.Paging
import IsePortal.Library.Runs

/-!
# Names of profiler profiles

The name cache of `app/ise/profiler.py`. `_load_all` asks ISE for one page of profiles after the
other, until a page is empty or the cache is as large as ISE's total; meanwhile single names are
stored, and fetched by `resolve_name_lazy`, which caches `""` when its fetch fails.
`profile_names_complete` says when the names that have been loaded are there to be resolved.
-/

namespace IsePortal.ProfileNames

open Library

/-- An entry of ISE's collection `profilerprofile`. -/
structure Profile where
  id : String
  name : String
  deriving DecidableEq

/-- `_cache`, `_lazy_pending`, and the page `_load_all` waits for, `none` once it has ended. -/
structure State where
  cache : Dict String String
  pending : List String := []
  page : Option Nat := some 1

/-- `resolve_name_sync` -/
def State.resolveNameSync (state : State) (profileId : String) : String :=
  if profileId = "" then "" else (state.cache.get? profileId).getD ""

/-- The steps: ISE answers the request for a page, `resolve_name_lazy` is called, its fetch ends, or
`store` is called. -/
inductive Step where
  | pageAnswered
  | lazyCalled (profileId : String)
  | lazyEnded (profileId : String) (fails : Bool)
  | stored (profileId name : String)

/-- The names of one page are cached. -/
def cachePage (cache : Dict String String) (resources : List Profile) : Dict String String :=
  resources.foldl (fun cache r => if r.id = "" then cache else cache.set r.id r.name) cache

/-- The rest of an iteration of `_load_all`, from the answer on. -/
def State.loadPage (state : State) (page : Nat) (resources : List Profile) (total : Nat) : State :=
  let cache := cachePage state.cache resources
  { state with
    cache := cache
    page := if resources = [] ∨ total ≤ cache.size then none else some (page + 1) }

/-- `resolve_name_lazy`, up to its fetch: an id that is cached or being fetched is not fetched. -/
def State.lazyCall (state : State) (profileId : String) : State :=
  if profileId = "" ∨ (state.cache.get? profileId).isSome ∨ profileId ∈ state.pending then
    state
  else
    { state with pending := profileId :: state.pending }

/-- `resolve_name_lazy`, from the answer to its fetch on, `none` where the fetch has failed. -/
def State.lazyEnd (state : State) (profileId : String) (answer : Option String) : State :=
  { state with
    cache := state.cache.set profileId (answer.getD "")
    pending := state.pending.filter (· ≠ profileId) }

/-- `store` -/
def State.store (state : State) (profileId name : String) : State :=
  if profileId = "" ∨ name = "" then
    state
  else
    { state with cache := state.cache.set profileId name }

/-- What ISE answers when a single profile is fetched: a profile it does not have is not found. -/
def fetched (profiles : List Profile) (profileId : String) : Option String :=
  (profiles.find? fun profile => profile.id = profileId).map Profile.name

/-- One step, while ISE has these profiles. -/
def step (profiles : List Profile) (state : State) : Step → Option State
  | .pageAnswered =>
      state.page.map fun page =>
        state.loadPage page (pageOf 100 profiles page) profiles.length
  | .lazyCalled profileId => some (state.lazyCall profileId)
  | .lazyEnded profileId fails =>
      if profileId ∈ state.pending then
        some (state.lazyEnd profileId (if fails then none else fetched profiles profileId))
      else
        none
  | .stored profileId name => some (state.store profileId name)

/-- The profiles whose pages have come: all of them once `_load_all` has ended. -/
def State.loaded (profiles : List Profile) (state : State) : List Profile :=
  match state.page with
  | none => profiles
  | some page => profiles.take ((page - 1) * 100)

/-- A profile resolves to its name. -/
def State.Resolves (state : State) (profile : Profile) : Prop :=
  state.resolveNameSync profile.id = profile.name

/-- Every profile that has been loaded resolves to its name. -/
def State.NamesComplete (profiles : List Profile) (state : State) : Prop :=
  ∀ profile ∈ state.loaded profiles, state.Resolves profile

/-- How many ids are known with those of a page. -/
def State.known (state : State) (resources : List Profile) : Nat :=
  (state.cache.keys ++ resources.map Profile.id).dedup.length

/-- The step spoils no name: the profiles of a page have ids, and when as many ids are known with
them as ISE has profiles the later profiles already resolve; no fetch of a loaded profile fails, and
no other name is stored for one. -/
def State.Harmless (profiles : List Profile) (state : State) : Step → Prop
  | .pageAnswered =>
      ∀ page, state.page = some page →
        (∀ profile ∈ pageOf 100 profiles page, profile.id ≠ "") ∧
          (profiles.length ≤ state.known (pageOf 100 profiles page) →
            ∀ profile ∈ profiles.drop (page * 100), state.Resolves profile)
  | .lazyCalled _ => True
  | .lazyEnded profileId fails =>
      fails = true → ∀ profile ∈ state.loaded profiles, profile.id ≠ profileId
  | .stored profileId name =>
      profileId = "" ∨ name = "" ∨
        ∀ profile ∈ state.loaded profiles, profile.id = profileId → profile.name = name

/-! ## The cache -/

variable {profiles resources : List Profile} {profile : Profile} {state after : State}

theorem get?_cachePage_of_not_mem {cache : Dict String String} {key : String}
    (h : key ∉ resources.map Profile.id) :
    (cachePage cache resources).get? key = cache.get? key := by
  induction resources generalizing cache with
  | nil => rfl
  | cons r rest ih =>
      simp only [List.map_cons, List.mem_cons, not_or] at h
      rw [cachePage, List.foldl_cons]
      refine (ih h.2).trans ?_
      split
      · rfl
      · exact Dict.get?_set_ne _ _ h.1

theorem get?_cachePage {cache : Dict String String} (hids : (resources.map Profile.id).Nodup)
    (hmem : profile ∈ resources) (hid : profile.id ≠ "") :
    (cachePage cache resources).get? profile.id = some profile.name := by
  induction resources generalizing cache with
  | nil => cases hmem
  | cons r rest ih =>
      rw [List.map_cons, List.nodup_cons] at hids
      rw [cachePage, List.foldl_cons]
      rcases List.mem_cons.mp hmem with rfl | hrest
      · rw [if_neg hid]
        exact (get?_cachePage_of_not_mem hids.1).trans (by rw [Dict.get?_set, if_pos rfl])
      · exact ih hids.2 hrest

theorem mem_keys_cachePage {cache : Dict String String} {key : String}
    (hids : ∀ r ∈ resources, r.id ≠ "") :
    key ∈ (cachePage cache resources).keys ↔ key ∈ cache.keys ∨ key ∈ resources.map Profile.id := by
  induction resources generalizing cache with
  | nil => simp [cachePage]
  | cons r rest ih =>
      rw [cachePage, List.foldl_cons, if_neg (hids r List.mem_cons_self)]
      refine (ih fun other hother => hids other (List.mem_cons_of_mem r hother)).trans ?_
      rw [Dict.mem_keys_set, List.map_cons, List.mem_cons]
      tauto

/-- What the cache holds after a page are the known ids. -/
theorem size_cachePage (hids : ∀ r ∈ resources, r.id ≠ "") :
    (cachePage state.cache resources).size = state.known resources := by
  have hperm : ((cachePage state.cache resources).keys).Perm
      (state.cache.keys ++ resources.map Profile.id).dedup := by
    have hkeys : (cachePage state.cache resources).keys.Nodup := Dict.nodup _
    refine (List.perm_ext_iff_of_nodup hkeys (List.nodup_dedup _)).mpr fun key => ?_
    rw [mem_keys_cachePage hids, List.mem_dedup, List.mem_append]
  have hlength := hperm.length_eq
  rwa [Dict.keys, List.length_map] at hlength

/-- For a profile with a name: it resolves when it has an id and its name is cached. -/
theorem resolves_iff (hname : profile.name ≠ "") :
    state.Resolves profile ↔
      profile.id ≠ "" ∧ state.cache.get? profile.id = some profile.name := by
  unfold State.Resolves State.resolveNameSync
  split
  case isTrue h => simp [h, hname.symm]
  case isFalse h =>
      cases state.cache.get? profile.id with
      | none => simp [hname.symm]
      | some name => simp [h]

/-- Whether a profile resolves depends on its entry in the cache. -/
theorem resolves_congr (h : after.cache.get? profile.id = state.cache.get? profile.id) :
    after.Resolves profile ↔ state.Resolves profile := by
  unfold State.Resolves State.resolveNameSync
  rw [h]

/-! ## One step -/

/-- ISE's collection: ids that occur once, and names. -/
structure Stable (profiles : List Profile) : Prop where
  ids : (profiles.map Profile.id).Nodup
  names : ∀ profile ∈ profiles, profile.name ≠ ""

theorem mem_of_mem_loaded (h : profile ∈ state.loaded profiles) : profile ∈ profiles := by
  unfold State.loaded at h
  split at h
  · exact h
  · exact List.mem_of_mem_take h

namespace Stable

variable (hstable : Stable profiles)
include hstable

theorem eq_of_id_eq {other : Profile} (hprofile : profile ∈ profiles) (hother : other ∈ profiles)
    (hid : profile.id = other.id) : profile = other :=
  List.inj_on_of_nodup_map hstable.ids hprofile hother hid

theorem fetched_of_mem (hprofile : profile ∈ profiles) :
    fetched profiles profile.id = some profile.name := by
  unfold fetched
  cases hfind : profiles.find? fun other => other.id = profile.id with
  | none => simpa using List.find?_eq_none.mp hfind profile hprofile
  | some other =>
      have hid : other.id = profile.id := by simpa using List.find?_some hfind
      rw [hstable.eq_of_id_eq (List.mem_of_find?_eq_some hfind) hprofile hid, Option.map_some]

/-- A profile that is not on a page is cached as before. -/
theorem resolves_cachePage_of_ne {page : Nat} (hprofile : profile ∈ profiles)
    (hafter : after.cache = cachePage state.cache (pageOf 100 profiles page))
    (hpage : profile ∉ pageOf 100 profiles page) :
    after.Resolves profile ↔ state.Resolves profile := by
  refine resolves_congr ?_
  rw [hafter]
  refine get?_cachePage_of_not_mem fun hid => hpage ?_
  obtain ⟨other, hother, heq⟩ := List.mem_map.mp hid
  have hmem : other ∈ profiles := List.mem_of_mem_drop (List.mem_of_mem_take hother)
  exact hstable.eq_of_id_eq hmem hprofile heq ▸ hother

/-- A profile of a page is cached under its name, if it has an id. -/
theorem resolves_cachePage {page : Nat} (hmem : profile ∈ pageOf 100 profiles page)
    (hafter : after.cache = cachePage state.cache (pageOf 100 profiles page)) :
    after.Resolves profile ↔ profile.id ≠ "" := by
  have hprofile : profile ∈ profiles := List.mem_of_mem_drop (List.mem_of_mem_take hmem)
  have hids : ((pageOf 100 profiles page).map Profile.id).Nodup :=
    hstable.ids.sublist (((List.take_sublist _ _).trans (List.drop_sublist _ _)).map _)
  rw [resolves_iff (hstable.names profile hprofile), and_iff_left_iff_imp, hafter]
  exact get?_cachePage hids hmem

/-- A later profile is not on this page. -/
theorem not_mem_pageOf {page : Nat} (hpage : 1 ≤ page)
    (hlater : profile ∈ profiles.drop (page * 100)) : profile ∉ pageOf 100 profiles page := by
  intro hmem
  have hnodup : profiles.Nodup := hstable.ids.of_map
  have hearlier : profile ∈ profiles.take (page * 100) := by
    rw [← take_append_pageOf hpage]
    exact List.mem_append_right _ hmem
  exact List.disjoint_take_drop hnodup (le_refl _) hearlier hlater

/-- The profiles up to a page resolve after it when they did before and those of the page have
ids. -/
theorem resolves_upTo {page : Nat} (hpage : 1 ≤ page) (hstate : state.page = some page)
    (hafter : after.cache = cachePage state.cache (pageOf 100 profiles page))
    (hcomplete : state.NamesComplete profiles)
    (hids : ∀ other ∈ pageOf 100 profiles page, other.id ≠ "")
    (hmem : profile ∈ profiles.take (page * 100)) : after.Resolves profile := by
  by_cases hthis : profile ∈ pageOf 100 profiles page
  · exact (hstable.resolves_cachePage hthis hafter).mpr (hids profile hthis)
  · rw [← take_append_pageOf hpage] at hmem
    have hearlier := (List.mem_append.mp hmem).resolve_right hthis
    refine (hstable.resolves_cachePage_of_ne (List.mem_of_mem_take hearlier) hafter hthis).mpr ?_
    exact hcomplete profile (by rw [State.loaded, hstate]; exact hearlier)

theorem namesComplete_loadPage_iff {page : Nat} (hpage : 1 ≤ page) (hstate : state.page = some page)
    (hcomplete : state.NamesComplete profiles) :
    (state.loadPage page (pageOf 100 profiles page) profiles.length).NamesComplete profiles ↔
      state.Harmless profiles .pageAnswered := by
  generalize hafter : state.loadPage page (pageOf 100 profiles page) profiles.length = after
  have hcache : after.cache = cachePage state.cache (pageOf 100 profiles page) := hafter ▸ rfl
  have hnext : after.page =
      if pageOf 100 profiles page = [] ∨
          profiles.length ≤ (cachePage state.cache (pageOf 100 profiles page)).size then none
      else some (page + 1) := hafter ▸ rfl
  have hupTo : ∀ profile ∈ profiles.take (page * 100), profile ∈ after.loaded profiles := by
    intro profile hmem
    rw [State.loaded, hnext]
    split
    case h_1 => exact List.mem_of_mem_take hmem
    case h_2 next hsome =>
        split at hsome
        · cases hsome
        · cases hsome
          exact hmem
  constructor
  · intro hnames page' hpage'
    cases hstate.symm.trans hpage'
    have hids : ∀ profile ∈ pageOf 100 profiles page, profile.id ≠ "" := by
      intro profile hmem
      refine (hstable.resolves_cachePage hmem hcache).mp (hnames profile (hupTo profile ?_))
      rw [← take_append_pageOf hpage]
      exact List.mem_append_right _ hmem
    refine ⟨hids, fun hknown profile hlater => ?_⟩
    have hprofile : profile ∈ profiles := List.mem_of_mem_drop hlater
    have hended : after.page = none := by
      rw [hnext, size_cachePage hids, if_pos (.inr hknown)]
    have hresolves := hnames profile (by rw [State.loaded, hended]; exact hprofile)
    exact (hstable.resolves_cachePage_of_ne hprofile hcache
      (hstable.not_mem_pageOf hpage hlater)).mp hresolves
  · intro hharmless profile hloaded
    obtain ⟨hids, hlater⟩ := hharmless page hstate
    have hprofile := mem_of_mem_loaded hloaded
    rcases List.mem_append.mp ((List.take_append_drop (page * 100) profiles).symm ▸ hprofile) with
      hmem | hmem
    · exact hstable.resolves_upTo hpage hstate hcache hcomplete hids hmem
    · have hnot := hstable.not_mem_pageOf hpage hmem
      refine (hstable.resolves_cachePage_of_ne hprofile hcache hnot).mpr (hlater ?_ profile hmem)
      rw [State.loaded, hnext] at hloaded
      split at hloaded
      case h_1 hended =>
          have hstop := of_not_not fun hgoes => by
            rw [if_neg hgoes] at hended
            exact Option.some_ne_none _ hended
          refine (size_cachePage hids).symm ▸ hstop.resolve_left fun hempty => ?_
          -- No profile comes after an empty page.
          have hshort : profiles.take ((page - 1) * 100) = profiles :=
            take_of_empty (by decide) hempty
          have hlength := congrArg List.length hshort
          simp only [List.length_take] at hlength
          have hnone : profiles.drop (page * 100) = [] := List.drop_eq_nil_of_le (by omega)
          rw [hnone] at hmem
          cases hmem
      case h_2 next hsome =>
          split at hsome
          · cases hsome
          · cases hsome
            exact absurd hmem fun hlate =>
              List.disjoint_take_drop hstable.ids.of_map (le_refl _) hloaded hlate

/-- Caching another name under an id leaves the loaded names complete when it is the name of the
profile with that id, if that one is loaded. -/
theorem namesComplete_set_iff (profileId name : String) (pending : List String)
    (hcomplete : state.NamesComplete profiles) :
    State.NamesComplete profiles
        { state with cache := state.cache.set profileId name, pending := pending } ↔
      ∀ profile ∈ state.loaded profiles, profile.id = profileId → profile.name = name := by
  unfold State.NamesComplete
  refine forall₂_congr fun profile hmem => ?_
  change profile ∈ state.loaded profiles at hmem
  have hname := hstable.names profile (mem_of_mem_loaded hmem)
  have hbefore := (resolves_iff hname).mp (hcomplete profile hmem)
  by_cases hid : profile.id = profileId
  · have hne : profileId ≠ "" := hid ▸ hbefore.1
    rw [resolves_iff hname, Dict.get?_set, if_pos hid]
    simp [hid, hne, eq_comm]
  · refine iff_of_true ((resolves_congr ?_).mpr (hcomplete profile hmem)) fun h => absurd h hid
    exact Dict.get?_set_ne _ _ hid

theorem namesComplete_lazyEnd_iff (profileId : String) (fails : Bool)
    (hcomplete : state.NamesComplete profiles) :
    (state.lazyEnd profileId (if fails then none else fetched profiles profileId)).NamesComplete
        profiles ↔ state.Harmless profiles (.lazyEnded profileId fails) := by
  refine (hstable.namesComplete_set_iff profileId _ _ hcomplete).trans ?_
  unfold State.Harmless
  cases fails with
  | true =>
      simp only [if_true, Option.getD_none, forall_const]
      refine forall₂_congr fun profile hmem => imp_congr_right fun _ => ?_
      exact iff_of_false (hstable.names profile (mem_of_mem_loaded hmem)) id
  | false =>
      refine iff_of_true (fun profile hmem hid => ?_) (fun h => absurd h (by decide))
      subst hid
      rw [if_neg (by decide), hstable.fetched_of_mem (mem_of_mem_loaded hmem), Option.getD_some]

theorem namesComplete_store_iff (profileId name : String)
    (hcomplete : state.NamesComplete profiles) :
    (state.store profileId name).NamesComplete profiles ↔
      state.Harmless profiles (.stored profileId name) := by
  unfold State.store State.Harmless
  split
  case isTrue h => exact iff_of_true hcomplete (h.imp_right .inl)
  case isFalse h =>
      refine (hstable.namesComplete_set_iff profileId name state.pending hcomplete).trans ?_
      push Not at h
      simp [h.1, h.2]

end Stable

theorem lazyCall_page (profileId : String) : (state.lazyCall profileId).page = state.page := by
  unfold State.lazyCall
  split <;> rfl

theorem store_page (profileId name : String) : (state.store profileId name).page = state.page := by
  unfold State.store
  split <;> rfl

theorem namesComplete_lazyCall (profileId : String) :
    (state.lazyCall profileId).NamesComplete profiles ↔ state.NamesComplete profiles := by
  unfold State.lazyCall
  split <;> exact Iff.rfl

/-- Pages are counted from 1. -/
def State.Counted (state : State) : Prop := ∀ page, state.page = some page → 1 ≤ page

theorem State.Counted.step {label : Step} (hstep : step profiles state label = some after)
    (h : state.Counted) : after.Counted := by
  cases label with
  | pageAnswered =>
      obtain ⟨page, hpage, rfl⟩ := Option.map_eq_some_iff.mp hstep
      intro next hnext
      simp only [State.loadPage] at hnext
      split at hnext
      · cases hnext
      · cases hnext
        exact Nat.le_add_left 1 page
  | lazyCalled profileId =>
      cases hstep
      intro page hpage
      exact h page (lazyCall_page profileId ▸ hpage)
  | lazyEnded profileId fails =>
      simp only [ProfileNames.step, Option.ite_none_right_eq_some] at hstep
      cases hstep.2
      exact h
  | stored profileId name =>
      cases hstep
      intro page hpage
      exact h page (store_page profileId name ▸ hpage)

/-- A step from a state whose loaded names are complete leaves them so exactly when it is
harmless. -/
theorem namesComplete_step_iff (hstable : Stable profiles) {label : Step}
    (hstep : step profiles state label = some after) (hcounted : state.Counted)
    (hcomplete : state.NamesComplete profiles) :
    after.NamesComplete profiles ↔ state.Harmless profiles label := by
  cases label with
  | pageAnswered =>
      obtain ⟨page, hpage, rfl⟩ := Option.map_eq_some_iff.mp hstep
      exact hstable.namesComplete_loadPage_iff (hcounted page hpage) hpage hcomplete
  | lazyCalled profileId =>
      cases hstep
      exact iff_of_true ((namesComplete_lazyCall profileId).mpr hcomplete) trivial
  | lazyEnded profileId fails =>
      simp only [step, Option.ite_none_right_eq_some] at hstep
      cases hstep.2
      exact hstable.namesComplete_lazyEnd_iff profileId fails hcomplete
  | stored profileId name =>
      cases hstep
      exact hstable.namesComplete_store_iff profileId name hcomplete

/-! ## Runs -/

/-- `_load_all` starts with any cache and any fetches in flight. When every step is harmless, every
profile resolves to its name once it has ended; and the loaded names are complete throughout the
run exactly then. -/
theorem profile_names_complete (hids : (profiles.map Profile.id).Nodup)
    (hnames : ∀ profile ∈ profiles, profile.name ≠ "") (cache : Dict String String)
    (pending : List String) (steps : List Step) :
    (Guarded (step profiles) (State.Harmless profiles) { cache, pending } steps →
      ∀ final, run (step profiles) { cache, pending } steps = some final → final.page = none →
        ∀ profile ∈ profiles, final.resolveNameSync profile.id = profile.name) ∧
    (Always (step profiles) (State.NamesComplete profiles) { cache, pending } steps ↔
      Guarded (step profiles) (State.Harmless profiles) { cache, pending } steps) := by
  have hstable : Stable profiles := ⟨hids, hnames⟩
  have hcounted : ({ cache, pending } : State).Counted := by
    rintro page ⟨⟩
    exact le_refl 1
  have hstart : ({ cache, pending } : State).NamesComplete profiles := by
    simp [State.NamesComplete, State.loaded]
  have hiff : Always (step profiles) (State.NamesComplete profiles) { cache, pending } steps ↔
      Guarded (step profiles) (State.Harmless profiles) { cache, pending } steps :=
    always_iff_guarded
    (fun _ _ _ hstep => State.Counted.step hstep)
    (fun _ _ _ hstep => namesComplete_step_iff hstable hstep) hcounted hstart
  refine ⟨fun hguarded final hrun hended profile hmem => ?_, hiff⟩
  have hfinal : final.NamesComplete profiles := (hiff.mpr hguarded).last hrun
  exact hfinal profile (by rw [State.loaded, hended]; exact hmem)

/-- A collection of one profile. -/
def printers : List Profile := [{ id := "p", name := "Printer" }]

/-- One page, while a lazy fetch of the same profile succeeds. -/
theorem profile_names_complete_printers :
    Always (step printers) (State.NamesComplete printers) { cache := .empty }
      [.lazyCalled "p", .pageAnswered, .lazyEnded "p" false] := by
  refine (profile_names_complete (by decide) (by decide) .empty []
    [.lazyCalled "p", .pageAnswered, .lazyEnded "p" false]).2.mpr ⟨trivial, ?_, ?_, trivial⟩
  · rintro page ⟨⟩
    exact ⟨by decide, fun _ profile hlater => by cases hlater⟩
  · exact fun hfails => absurd hfails (by decide)

/-- A lazy fetch starts, the page with its profile comes and ends the load, and then the fetch
fails: its `""` takes the place of the name. -/
theorem profile_name_overwritten :
    ¬ (∀ steps final, run (step printers) { cache := .empty } steps = some final →
      final.page = none → final.pending = [] →
      ∀ profile ∈ printers, final.resolveNameSync profile.id = profile.name) := by
  intro h
  have hlost := h [.lazyCalled "p", .pageAnswered, .lazyEnded "p" true] _ rfl rfl rfl
    { id := "p", name := "Printer" } List.mem_cons_self
  exact absurd hlost (by decide)

end IsePortal.ProfileNames
