import IsePortal.Library.Runs
import IsePortal.Platform.Bytes
import Mathlib.Logic.Function.Basic

/-!
# Files that are replaced

`atomic_write_json` and `atomic_write_text` of `app/core/atomic_json.py`, by any number of threads
and processes: each call writes a new temporary file, syncs it, sets its mode, and moves it over the
path. `atomic_write_runs`: what is found at a path, also by a reader that has opened it before and
after the power was lost.
-/

namespace IsePortal.AtomicJson

open Library

structure Inode where
  content : Bytes
  /-- `os.fsync` has returned, and nothing was written since. -/
  synced : Bool := false
  mode : Nat := 0o600

inductive Phase where
  | writing
  | synced
  | ready
  deriving DecidableEq

/-- A call that is not over. Its temporary file has a name no other file has. -/
structure Call where
  path : String
  payload : Bytes
  mode : Option Nat
  inode : Nat
  phase : Phase := .writing

/-- What was moved into place. -/
structure Version where
  inode : Nat
  payload : Bytes
  mode : Option Nat

/-- The disk. The last field tells what was moved to each path and not lost, the newest first. -/
structure State where
  names : String → Option Nat := fun _ => none
  inodes : Nat → Inode := fun _ => { content := [] }
  nextInode : Nat := 0
  calls : Nat → Option Call := fun _ => none
  versions : String → List Version := fun _ => []

inductive Action where
  | start (call : Nat) (path : String) (payload : Bytes) (mode : Option Nat)
  /-- The call has written so many bytes. -/
  | write (call count : Nat)
  | fsync (call : Nat)
  | chmod (call : Nat)
  | replace (call : Nat)
  /-- The call raises, wherever it is, or its process is killed. -/
  | fail (call : Nat)
  /-- The power is lost: so many of the last renames to each path, what was not synced, and the mode
  of these files. -/
  | powerLoss (renames : String → Nat) (garbage : Nat → Bytes) (chmodLost : Nat → Bool)

namespace State

/-- A step of a call on its temporary file. -/
def advance (s : State) (n : Nat) (call : Call) (phase : Phase) (inode : Inode) : State :=
  { s with
    inodes := Function.update s.inodes call.inode inode
    calls := Function.update s.calls n (some { call with phase := phase }) }

/-- `NamedTemporaryFile` -/
def start (s : State) (n : Nat) (path : String) (payload : Bytes) (mode : Option Nat) : State :=
  { s with
    inodes := Function.update s.inodes s.nextInode { content := [] }
    nextInode := s.nextInode + 1
    calls := Function.update s.calls n (some { path, payload, mode, inode := s.nextInode }) }

def finish (s : State) (n : Nat) : State := { s with calls := Function.update s.calls n none }

/-- `os.replace(tmp_name, path)` -/
def replace (s : State) (path : String) (version : Version) : State :=
  { s with
    names := Function.update s.names path (some version.inode)
    versions := Function.update s.versions path (version :: s.versions path) }

def powerLoss (s : State) (renames : String → Nat) (garbage : Nat → Bytes)
    (chmodLost : Nat → Bool) : State where
  names path := ((s.versions path).drop (renames path)).head?.map Version.inode
  inodes n :=
    let inode := s.inodes n
    if inode.synced then { inode with mode := if chmodLost n then 0o600 else inode.mode }
    else { content := garbage n }
  nextInode := s.nextInode
  versions path := (s.versions path).drop (renames path)

section Lookups

variable (s : State) (n m : Nat) (call : Call) (phase : Phase) (inode : Inode)
  (path other : String) (payload : Bytes) (mode : Option Nat) (version : Version)

@[grind =] theorem calls_advance : (s.advance n call phase inode).calls m =
    if m = n then some { call with phase := phase } else s.calls m :=
  Function.update_apply ..

@[grind =] theorem inodes_advance : (s.advance n call phase inode).inodes m =
    if m = call.inode then inode else s.inodes m :=
  Function.update_apply ..

@[grind =] theorem calls_start : (s.start n path payload mode).calls m =
    if m = n then some { path, payload, mode, inode := s.nextInode } else s.calls m :=
  Function.update_apply ..

@[grind =] theorem inodes_start : (s.start n path payload mode).inodes m =
    if m = s.nextInode then { content := [] } else s.inodes m :=
  Function.update_apply ..

@[grind =] theorem calls_finish : (s.finish n).calls m = if m = n then none else s.calls m :=
  Function.update_apply ..

@[grind =] theorem names_replace : (s.replace path version).names other =
    if other = path then some version.inode else s.names other :=
  Function.update_apply ..

@[grind =] theorem versions_replace : (s.replace path version).versions other =
    if other = path then version :: s.versions path else s.versions other := by
  show Function.update s.versions path _ other = _
  rw [Function.update_apply]

end Lookups

/-- What is read at a path. -/
def read (s : State) (path : String) : Option Bytes :=
  (s.names path).map fun inode => (s.inodes inode).content

end State

/-- A step of a call that has come this far. -/
def onCall (s : State) (n : Nat) (phase : Phase) (next : Call → State) : Option State :=
  (s.calls n).bind fun call => if call.phase = phase then some (next call) else none

def step (s : State) : Action → Option State
  | .start n path payload mode =>
      if (s.calls n).isNone then some (s.start n path payload mode) else none
  | .write n count => onCall s n .writing fun call =>
      s.advance n call .writing { content := call.payload.take count }
  | .fsync n => onCall s n .writing fun call =>
      s.advance n call .synced { content := call.payload, synced := true }
  | .chmod n => onCall s n .synced fun call =>
      s.advance n call .ready
        { content := call.payload, synced := true, mode := call.mode.getD 0o600 }
  | .replace n => onCall s n .ready fun call =>
      (s.finish n).replace call.path ⟨call.inode, call.payload, call.mode⟩
  | .fail n => some (s.finish n)
  | .powerLoss renames garbage chmodLost => some (s.powerLoss renames garbage chmodLost)

/-! ## What is found -/

/-- The file of a version is whole, with the mode asked for or that of a new file. -/
def Version.Intact (version : Version) (inode : Inode) : Prop :=
  inode.content = version.payload ∧
    ∀ mode, version.mode = some mode → inode.mode = mode ∨ inode.mode = 0o600

/-- The path has the last payload moved there, and who has opened it before has a whole one. -/
structure Whole (s : State) (path : String) : Prop where
  current : s.read path = (s.versions path).head?.map Version.payload
  opened : ∀ version ∈ s.versions path, version.Intact (s.inodes version.inode)

/-! ## What every step keeps -/

/-- The file of a call that has come this far. -/
def Fits (phase : Phase) (call : Call) (inode : Inode) : Prop :=
  (phase ≠ .writing → inode.content = call.payload ∧ inode.synced = true) ∧
    (phase = .ready → inode.mode = call.mode.getD 0o600)

/-- A file that was moved into place is whole, and no call writes to it any more. -/
structure Placed (s : State) (version : Version) : Prop where
  old : version.inode < s.nextInode
  intact : version.Intact (s.inodes version.inode)
  synced : (s.inodes version.inode).synced = true
  free : ∀ n call, s.calls n = some call → call.inode ≠ version.inode

structure Kept (s : State) : Prop where
  held : ∀ n call, s.calls n = some call →
    call.inode < s.nextInode ∧ Fits call.phase call (s.inodes call.inode)
  apart : ∀ m n first second, s.calls m = some first → s.calls n = some second →
    first.inode = second.inode → m = n
  placed : ∀ path, ∀ version ∈ s.versions path, Placed s version
  current : ∀ path, s.names path = (s.versions path).head?.map Version.inode

variable {s t : State} {n : Nat} {call : Call}

theorem onCall_eq_some {phase : Phase} {next : Call → State} (h : onCall s n phase next = some t) :
    ∃ call, s.calls n = some call ∧ call.phase = phase ∧ t = next call := by
  obtain ⟨call, hcall, hnext⟩ := Option.bind_eq_some_iff.mp h
  obtain ⟨hphase, ⟨⟩⟩ := Option.ite_none_right_eq_some.mp hnext
  exact ⟨call, hcall, hphase, rfl⟩

/-- What is found follows. -/
theorem Kept.whole (h : Kept s) (path : String) : Whole s path where
  current := by
    rw [State.read, h.current path, Option.map_map]
    cases hhead : (s.versions path).head? with
    | none => rfl
    | some version =>
        exact congrArg some (h.placed path version (List.mem_of_head? hhead)).intact.1
  opened version hmem := (h.placed path version hmem).intact

/-- A call goes on with its own file, which is not in place. -/
theorem Kept.advance (h : Kept s) (hcall : s.calls n = some call) {phase : Phase} {inode : Inode}
    (hfits : Fits phase call inode) : Kept (s.advance n call phase inode) := by
  have hnext : (s.advance n call phase inode).nextInode = s.nextInode := rfl
  have hold := (h.held n call hcall).1
  obtain ⟨hheld, hapart, hplaced, hcurrent⟩ := h
  refine ⟨fun m other hother => ?_, by grind, fun path version hversion => ?_, hcurrent⟩
  · grind [Fits]
  · obtain ⟨hlt, hintact, hsynced, hfree⟩ := hplaced path version hversion
    have hne := hfree n call hcall
    constructor <;> grind

/-- A new file is nobody else's. -/
theorem Kept.start (h : Kept s) (n : Nat) (path : String) (payload : Bytes) (mode : Option Nat) :
    Kept (s.start n path payload mode) := by
  have hnext : (s.start n path payload mode).nextInode = s.nextInode + 1 := rfl
  obtain ⟨hheld, hapart, hplaced, hcurrent⟩ := h
  refine ⟨fun m other hother => ?_, by grind, fun path version hversion => ?_, hcurrent⟩
  · grind [Fits]
  · obtain ⟨hlt, hintact, hsynced, hfree⟩ := hplaced path version hversion
    constructor <;> grind

/-- Calls are over. -/
theorem Kept.of_fewer (h : Kept s) {calls : Nat → Option Call}
    (hcalls : ∀ n call, calls n = some call → s.calls n = some call) :
    Kept { s with calls := calls } := by
  obtain ⟨hheld, hapart, hplaced, hcurrent⟩ := h
  refine ⟨by grind, by grind, fun path version hversion => ?_, hcurrent⟩
  obtain ⟨hlt, hintact, hsynced, hfree⟩ := hplaced path version hversion
  constructor <;> grind

theorem Kept.replace (h : Kept s) {path : String} {version : Version} (hnew : Placed s version) :
    Kept (s.replace path version) := by
  obtain ⟨hheld, hapart, hplaced, hcurrent⟩ := h
  refine ⟨hheld, hapart, fun other placed hmem => ?_, fun other => ?_⟩
  · have hkept : Placed s placed := by grind
    exact ⟨hkept.old, hkept.intact, hkept.synced, hkept.free⟩
  · grind

/-- What was synced outlasts the power. -/
theorem Kept.powerLoss (h : Kept s) (renames : String → Nat) (garbage : Nat → Bytes)
    (chmodLost : Nat → Bool) : Kept (s.powerLoss renames garbage chmodLost) := by
  refine ⟨nofun, nofun, fun path version hmem => ?_, fun _ => rfl⟩
  obtain ⟨hlt, hintact, hsynced, -⟩ := h.placed path version (List.mem_of_mem_drop hmem)
  have hinode : (s.powerLoss renames garbage chmodLost).inodes version.inode = _ := if_pos hsynced
  refine ⟨hlt, ?_, ?_, nofun⟩ <;> rw [hinode]
  · refine ⟨hintact.1, fun mode hmode => ?_⟩
    dsimp only
    split
    · exact .inr rfl
    · exact hintact.2 mode hmode
  · exact hsynced

theorem Kept.step {action : Action} (hstep : step s action = some t) (h : Kept s) : Kept t := by
  cases action with
  | start n path payload mode =>
      simp only [AtomicJson.step] at hstep
      split at hstep <;> cases hstep
      exact h.start n path payload mode
  | write n count =>
      obtain ⟨call, hcall, -, rfl⟩ := onCall_eq_some hstep
      exact h.advance hcall (by simp [Fits])
  | fsync n =>
      obtain ⟨call, hcall, -, rfl⟩ := onCall_eq_some hstep
      exact h.advance hcall (by simp [Fits])
  | chmod n =>
      obtain ⟨call, hcall, -, rfl⟩ := onCall_eq_some hstep
      exact h.advance hcall (by simp [Fits])
  | replace n =>
      obtain ⟨call, hcall, hready, rfl⟩ := onCall_eq_some hstep
      obtain ⟨hold, hwritten, hmode⟩ := h.held n call hcall
      rw [hready] at hwritten hmode
      have hfree : ∀ m other, (s.finish n).calls m = some other → other.inode ≠ call.inode := by
        have hapart := h.apart
        grind
      have hdone := hwritten (by simp)
      refine (h.of_fewer (by grind)).replace ⟨hold, ⟨hdone.1, fun mode hset => ?_⟩, hdone.2, hfree⟩
      have hset : call.mode = some mode := hset
      rw [hset] at hmode
      exact .inl (hmode rfl)
  | fail n =>
      cases hstep
      exact h.of_fewer (by grind)
  | powerLoss renames garbage chmodLost =>
      cases hstep
      exact h.powerLoss renames garbage chmodLost

/-- In every run of any calls at once, whichever of them fail or are killed and however often the
power is lost, a path has the whole payload of the last call whose rename to it was not lost. -/
theorem atomic_write_runs (actions : List Action) :
    Always step (fun s => ∀ path, Whole s path) {} actions := by
  have hstart : Kept ({} : State) := ⟨nofun, nofun, nofun, fun _ => rfl⟩
  exact (always_of_step (fun _ _ _ hstep h => h.step hstep) actions hstart).mono
    fun _ h => h.whole

end IsePortal.AtomicJson
