import IsePortal.Library.Paging
import IsePortal.Library.Runs
import IsePortal.Library.WriteBack
import IsePortal.Service.EndpointHelpers

/-!
# Clean-up of attribute values

`remove_value` and `sync_platform_from_mnt` of `app/services/custom_attribute_service.py`. Both walk
over the pages of ISE's listing and, for an endpoint they want to change, write back the whole block
of attributes they have read, each value as `str` gives it. Other requests update endpoints between
any two of their calls.
-/

namespace IsePortal

open Library

/-- The attributes of an endpoint in ISE: texts or null. -/
abbrev NullAttrs := Dict String (Option String)

/-- `str(v)` -/
def pyStr : Option String → String
  | none => "None"
  | some text => text

/-- `_extract_custom_attrs` -/
def extractCustomAttrs (stored : NullAttrs) : Attrs := stored.mapValues pyStr

/-- A block of attributes as a PUT sends it. -/
def putBlock (attrs : Attrs) : NullAttrs := attrs.mapValues some

/-- The endpoints of ISE with their attributes, and what the other requests alone have left. -/
abbrev IseAttrs := Shared EndpointId String (Option String)

/-- One entry of ISE's listing. -/
structure ListedEndpoint where
  id : EndpointId
  name : String := ""
  mac : String := ""
  deriving DecidableEq

/-- The steps: ISE answers a request for a page, ISE answers the GET of an endpoint, the portal goes
on with that answer and ISE takes the PUT if there is one, or another request updates an
endpoint. -/
inductive CleanupStep where
  | listed
  | read
  | go
  | update (endpointId : EndpointId) (attrs : Attrs)

/-- A read endpoint is changed: everything that was read is written back with the new value. -/
def setCustomAttributes (ise : IseAttrs) (endpointId : EndpointId) (snapshot : NullAttrs)
    (attr value : String) : Option IseAttrs :=
  ise.writeBack endpointId (putBlock ((extractCustomAttrs snapshot).set attr value))

/-! ## Removing a value -/

/-- The visit of an endpoint: whether its attribute was cleared, and whether it held the value, as a
text, when ISE took the PUT, or without one when ISE answered the GET. -/
structure CleanupVisit where
  id : EndpointId
  cleared : Bool
  held : Bool

/-- Where `remove_value` waits: for a page, for the GET of the first endpoint left on a page, or
with its answer. `count` is the number of endpoints of the page. -/
inductive RemovePhase where
  | listing (page : Nat)
  | asking (page count : Nat) (endpoint : ListedEndpoint) (rest : List ListedEndpoint)
  | answered (page count : Nat) (endpoint : ListedEndpoint) (rest : List ListedEndpoint)
      (snapshot : NullAttrs)
  | finished

/-- `remove_value` in flight. `visits` only serves the statements. -/
structure RemoveRun where
  ise : IseAttrs
  phase : RemovePhase := .listing 1
  scanned : Nat := 0
  cleared : Nat := 0
  visits : List CleanupVisit := []

namespace RemoveRun

/-- After a visit: the next endpoint of the page, the next page, or the end. -/
def advance (listing : List ListedEndpoint) (page count : Nat) (rest : List ListedEndpoint)
    (run : RemoveRun) : RemoveRun :=
  let scanned := run.scanned + 1
  let phase : RemovePhase :=
    match rest with
    | endpoint :: others => .asking page count endpoint others
    | [] =>
        if listing.length ≤ scanned ∨ count < 100 then .finished else .listing (page + 1)
  { run with scanned := scanned, phase := phase }

/-- One step of `remove_value(attr, value)` over a listing that does not change. -/
def step (listing : List ListedEndpoint) (attr value : String) (run : RemoveRun) :
    CleanupStep → Option RemoveRun
  | .update endpointId attrs =>
      (run.ise.change endpointId (putBlock attrs)).map fun ise => { run with ise := ise }
  | .listed =>
      match run.phase with
      | .listing page =>
          let resources := pageOf 100 listing page
          match resources with
          | [] => some { run with phase := .finished }
          | endpoint :: rest =>
              some { run with phase := .asking page resources.length endpoint rest }
      | _ => none
  | .read =>
      match run.phase with
      | .asking page count endpoint rest =>
          (run.ise.store.get? endpoint.id).map fun stored =>
            { run with phase := .answered page count endpoint rest stored }
      | _ => none
  | .go =>
      match run.phase with
      | .answered page count endpoint rest snapshot =>
          if (extractCustomAttrs snapshot).get? attr = some value then
            (setCustomAttributes run.ise endpoint.id snapshot attr "").map fun ise =>
              advance listing page count rest { run with
                ise := ise
                cleared := run.cleared + 1
                visits := run.visits ++
                  [{ id := endpoint.id, cleared := true
                     held := ((run.ise.store.get? endpoint.id).bind (·.get? attr)) =
                       some (some value) }] }
          else
            some (advance listing page count rest { run with
              visits := run.visits ++
                [{ id := endpoint.id, cleared := false
                   held := snapshot.get? attr = some (some value) }] })
      | _ => none

end RemoveRun

/-- What is written back is still so: each other attribute that was read is held as the text it was
read as. -/
def StillRead (ise : IseAttrs) (endpointId : EndpointId) (snapshot : NullAttrs)
    (attr : String) : Prop :=
  ∀ stored, ise.store.get? endpointId = some stored → ∀ name text, name ≠ attr →
    (extractCustomAttrs snapshot).get? name = some text → stored.get? name = some (some text)

/-- The condition of a step of `remove_value`: where a PUT is sent, what it writes back is still so,
and the endpoint still holds the value as a text. -/
def RemoveRun.Current (attr value : String) (run : RemoveRun) : CleanupStep → Prop
  | .go =>
      match run.phase with
      | .answered _ _ endpoint _ snapshot =>
          (extractCustomAttrs snapshot).get? attr = some value →
            StillRead run.ise endpoint.id snapshot attr ∧
              (run.ise.store.get? endpoint.id).bind (·.get? attr) = some (some value)
      | _ => True
  | _ => True

/-! ## Platform types from MnT -/

def platformTypeAttr : String := "PlatformType"

/-- What `sync_platform_from_mnt` depends on: the platforms MnT's sessions tell by MAC address, the
mapping to local labels, and whether existing values are overwritten. -/
structure PlatformSync where
  macToRaw : List (String × String)
  mapping : Dict String String
  overwrite : Bool := false

/-- An endpoint to visit and the label for it. -/
structure PlatformTarget where
  id : EndpointId
  label : String

/-- Where `sync_platform_from_mnt` waits. -/
inductive PlatformPhase where
  | listing (page : Nat)
  | asking (target : PlatformTarget) (rest : List PlatformTarget)
  | answered (target : PlatformTarget) (rest : List PlatformTarget) (snapshot : NullAttrs)
  | finished

/-- `sync_platform_from_mnt` in flight, with the endpoints its listing has brought. -/
structure PlatformRun where
  ise : IseAttrs
  phase : PlatformPhase := .listing 1
  listed : List ListedEndpoint := []

section Platform

variable [PyText]

/-- `mac_to_endpoint` -/
def macToEndpoint (listed : List ListedEndpoint) : Dict String ListedEndpoint :=
  listed.foldl (fun found endpoint =>
    let mac := PyText.upper (PyText.strip
      (if endpoint.name = "" then endpoint.mac else endpoint.name))
    if mac = "" then found else found.set mac endpoint) Dict.empty

/-- The endpoints that get past the checks before their GET: listed, with a mapped platform. -/
def platformTargets (sync : PlatformSync) (listed : List ListedEndpoint) :
    List PlatformTarget :=
  sync.macToRaw.filterMap fun (mac, raw) =>
    ((macToEndpoint listed).get? mac).bind fun endpoint =>
      let label := (sync.mapping.get? raw).getD ""
      if label = "" then none else some { id := endpoint.id, label := label }

omit [PyText] in
/-- The label is written for an endpoint with these attributes. -/
def writesPlatform (sync : PlatformSync) (ca : Attrs) (label : String) : Bool :=
  let existing := ca.attr platformTypeAttr
  !(existing ≠ "" && !sync.overwrite) && existing ≠ label

namespace PlatformRun

omit [PyText] in
/-- The next target, or the end. -/
def visit (targets : List PlatformTarget) : PlatformPhase :=
  match targets with
  | [] => .finished
  | target :: rest => .asking target rest

/-- One step of `sync_platform_from_mnt` over a listing that does not change. -/
def step (listing : List ListedEndpoint) (sync : PlatformSync) (run : PlatformRun) :
    CleanupStep → Option PlatformRun
  | .update endpointId attrs =>
      (run.ise.change endpointId (putBlock attrs)).map fun ise => { run with ise := ise }
  | .listed =>
      match run.phase with
      | .listing page =>
          let resources := pageOf 100 listing page
          let listed := run.listed ++ resources
          some { run with
            listed := listed
            phase :=
              if resources = [] ∨ listing.length ≤ (page - 1) * 100 + resources.length ∨
                  resources.length < 100 then visit (platformTargets sync listed)
              else .listing (page + 1) }
      | _ => none
  | .read =>
      match run.phase with
      | .asking target rest =>
          (run.ise.store.get? target.id).map fun stored =>
            { run with phase := .answered target rest stored }
      | _ => none
  | .go =>
      match run.phase with
      | .answered target rest snapshot =>
          if writesPlatform sync (extractCustomAttrs snapshot) target.label then
            (setCustomAttributes run.ise target.id snapshot platformTypeAttr target.label).map
              fun ise => { run with ise := ise, phase := visit rest }
          else some { run with phase := visit rest }
      | _ => none

omit [PyText] in
/-- The condition of a step of `sync_platform_from_mnt`: where a PUT is sent, what it writes back is
still so. -/
def Current (sync : PlatformSync) (run : PlatformRun) : CleanupStep → Prop
  | .go =>
      match run.phase with
      | .answered target _ snapshot =>
          writesPlatform sync (extractCustomAttrs snapshot) target.label = true →
            StillRead run.ise target.id snapshot platformTypeAttr
      | _ => True
  | _ => True

end PlatformRun

end Platform

end IsePortal
