import IsePortal.Library.Origins
import IsePortal.Platform.Text

/-!
# The network devices

`ise/network_devices.py`: the devices of ISE by address, with what their device groups say about
them. A background task lists the devices and then asks for each of them; what it has by then it
stores at once. A device whose answer fails is kept under the name of the list.

Every stored device carries the ISE its task asks.
-/

namespace IsePortal

open Library

/-- `DeviceInfo` -/
structure DeviceInfo where
  name : String := ""
  deviceType : String := ""
  deviceTypePath : String := ""
  location : String := ""
  deriving DecidableEq

/-- The answer of ISE about one device, as far as it is read. An item of `NetworkDeviceIPList` that
has no readable address raises and stands as `none`. -/
structure NetworkDevice where
  name : String := ""
  groups : List String := []
  ipList : List (Option String) := []

section Groups

variable [PyText]

/-- `[p for p in parts[2:] if p and not p.lower().startswith("all ")]` of a group. -/
def specificParts (group : String) : List String :=
  let parts := (group.toList.splitOn '#').map fun part => PyText.strip (String.ofList part)
  (parts.drop 2).filter fun part =>
    decide (part ≠ "") && !"all ".toList.isPrefixOf (PyText.lower part).toList

/-- The parts of the first group of this kind that has any. -/
def firstSpecific (kind : String) (groups : List String) : List String :=
  ((groups.filter fun group => kind.toList.isPrefixOf group.toList).map specificParts).find?
    (· ≠ []) |>.getD []

/-- `_device_type_from_groups` -/
def deviceTypeFromGroups (groups : List String) : String × String :=
  let specific := firstSpecific "Device Type#" groups
  (specific.getLast?.getD "", " > ".intercalate specific)

/-- `_location_from_groups` -/
def locationFromGroups (groups : List String) : String :=
  " > ".intercalate (firstSpecific "Location#" groups)

/-- The entry of a device. -/
def deviceInfo (listName : String) (nd : NetworkDevice) : DeviceInfo :=
  let deviceType := deviceTypeFromGroups nd.groups
  { name := if nd.name = "" then listName else nd.name
    deviceType := deviceType.1
    deviceTypePath := deviceType.2
    location := locationFromGroups nd.groups }

end Groups

/-- `_by_ip`, `_all_devices`, `_all_loaded` and `_loading`. -/
structure NetworkDevices (ω : Type) where
  byIp : Dict String (Sourced ω DeviceInfo) := Dict.empty
  allDevices : List (Sourced ω DeviceInfo) := []
  allLoaded : Bool := false
  loading : Bool := false

/-- A `_load_all` in flight: the ISE it asks, once it has started, and the devices it still has to
ask for, once it has listed them. -/
structure DeviceLoad (ω : Type) where
  id : Nat
  source : Option ω := none
  pending : Option (List (String × String)) := none

namespace NetworkDevices

variable {ω : Type} (devices : NetworkDevices ω)

/-- `get_device_info` -/
def getDeviceInfo (ip : String) : Option (Sourced ω DeviceInfo) :=
  if ip = "" then none else devices.byIp.get? ip

/-- What `invalidate` leaves. -/
def invalidate : NetworkDevices ω :=
  { byIp := Dict.empty, allDevices := [], allLoaded := false, loading := false }

/-- A device is entered. -/
def append (source : ω) (info : DeviceInfo) : NetworkDevices ω :=
  { devices with allDevices := devices.allDevices ++ [{ value := info, source := source }] }

variable [PyText]

/-- The loop over the addresses. Where it raises, the device is entered once more as a fallback. -/
def storeIps (source : ω) (listName : String) (info : DeviceInfo) :
    List (Option String) → NetworkDevices ω → NetworkDevices ω
  | [], devices => devices
  | none :: _, devices => devices.append source { name := listName }
  | some address :: rest, devices =>
      let ip := PyText.strip address
      storeIps source listName info rest
        (if ip = "" then devices
          else { devices with
            byIp := devices.byIp.set ip { value := info, source := source } })

/-- One pass of the second loop of `_load_all`; `none` is a request that raises, or an answer
that cannot be read. -/
def storeDevice (source : ω) (listName : String) : Option NetworkDevice → NetworkDevices ω
  | none => devices.append source { name := listName }
  | some nd =>
      let info := deviceInfo listName nd
      storeIps source listName info nd.ipList (devices.append source info)

omit [PyText] in
/-- The source of every stored device meets the condition. -/
structure From (ok : ω → Prop) : Prop where
  byIp : devices.byIp.Each fun info => ok info.source
  allDevices : ∀ info ∈ devices.allDevices, ok info.source

variable {devices} {ok : ω → Prop}

omit [PyText] in
theorem From.append (h : devices.From ok) {source : ω} (hsource : ok source) (info : DeviceInfo) :
    (devices.append source info).From ok where
  byIp := h.byIp
  allDevices := by
    intro other hmem
    rcases List.mem_append.mp hmem with hold | hnew
    · exact h.allDevices other hold
    · rw [List.mem_singleton.mp hnew]
      exact hsource

theorem From.storeIps (h : devices.From ok) {source : ω} (hsource : ok source) (listName : String)
    (info : DeviceInfo) (addresses : List (Option String)) :
    (storeIps source listName info addresses devices).From ok := by
  induction addresses generalizing devices with
  | nil => exact h
  | cons address rest ih =>
      cases address with
      | none => exact h.append hsource _
      | some address =>
          refine ih ?_
          split
          · exact h
          · exact ⟨h.byIp.set hsource, h.allDevices⟩

end NetworkDevices

end IsePortal
