import MasterServer.State

/-!
# The instance manager

`InstanceManager` and `Instance` are not under `src/`: `MasterServer.cpp` only
calls them. Each definition here is modelled from the spec (§4.E, §4.F), and
says so. `requestZoneTransfer` is the code of the `REQUEST_ZONE_TRANSFER` case
of `HandlePacket`, kept here because the spec's redirection reuses it as "the
normal path".
-/

namespace MasterServer

open Master

/-- Modelled from the spec: `Instance::Shutdown` (not under `src/`) sends `SHUTDOWN`
to the instance. -/
def Instance.shutdown (i : Instance) : Effect := .shutdown i.handle i.sysAddr

/-- Modelled from the spec: `InstanceManager::FindInstance` (not under `src/`), the
lookup by `(mapID, instanceID)` of §4.E; the first match. -/
def findInstance (s : Master) (mapID instanceID : Nat) : Option Instance :=
  s.instances.find? fun i => i.mapID == mapID && i.instanceID == instanceID

/-- Modelled from the spec: `InstanceManager::GetInstanceBySysAddr` (not under `src/`). -/
def getInstanceBySysAddr (s : Master) (addr : SysAddr) : Option Instance :=
  s.instances.find? (·.sysAddr == addr)

/-- Modelled from the spec: `InstanceManager::FindPrivateInstance` (not under `src/`),
the lookup by password of §4.E. -/
def findPrivateInstance (s : Master) (password : List UInt8) : Option Instance :=
  s.instances.find? (·.privatePassword == some password)

/-- Modelled from the spec: `InstanceManager::FindInstancesByMapID` (not under `src/`). -/
def findInstancesByMapID (s : Master) (mapID : Nat) : List Instance :=
  s.instances.filter (·.mapID == mapID)

/-- Modelled from the spec: `InstanceManager::IsPortInUse` (not under `src/`). -/
def isPortInUse (s : Master) (port : Nat) : Bool := s.instances.any (·.port == port)

/-- Modelled from the spec: "choose a free port" — one above every port in use. -/
def getFreePort (s : Master) : Nat := (s.instances.map (·.port)).foldr max 0 + 1

/-- Modelled from the spec: "allocate a fresh `instanceID`" — one above every id in use. -/
def getFreeInstanceID (s : Master) : Nat := (s.instances.map (·.instanceID)).foldr max 0 + 1

theorem le_foldr_max {l : List Nat} {x : Nat} (h : x ∈ l) : x ≤ l.foldr max 0 := by
  induction l with
  | nil => cases h
  | cons y ys ih =>
    rcases List.mem_cons.mp h with rfl | h
    · exact Nat.le_max_left _ _
    · exact Nat.le_trans (ih h) (Nat.le_max_right _ _)

/-- Modelled from the spec (§4.F, launch): spawn a world for the map on a free port with
a fresh instance id and register it, not ready, with the default caps 12/12. -/
def launchInstance (s : Master) (mapID cloneID : Nat) (password : Option (List UInt8)) :
    Master × Instance :=
  let mk := fun h =>
    { newInstance h s.externalIP (getFreePort s) mapID (getFreeInstanceID s) cloneID 12 12 with
      privatePassword := password }
  let i := mk s.nextHandle
  ((s.addInstance mk).emit [.launchWorld i.handle i.ip i.port mapID i.instanceID cloneID i.hardCap], i)

/-- What zone resolution accepts: not shutting down, public, of the map, below its soft cap. -/
def Instance.serves (mapID : Nat) (i : Instance) : Bool :=
  !i.shuttingDown && i.privatePassword.isNone && i.mapID == mapID && decide (i.players < i.softCap)

/-- Modelled from the spec (§4.F zone resolution): `InstanceManager::GetInstance` (not
under `src/`) returns the first registered instance that serves the map, else launches
one. Its middle argument, `false` at every call site, is left out. -/
def getInstance (s : Master) (mapID cloneID : Nat) : Master × Instance :=
  match s.instances.find? (Instance.serves mapID) with
  | some i => (s, i)
  | none => launchInstance s mapID cloneID none

/-- Modelled from the spec (§4.F, two-phase affirmation, step 1): send `PREP_ZONE` to
the instance and hold the request in its `pendingAffirmations`. -/
def requestAffirmation (s : Master) (i : Instance) (r : TransferRequest) : Master :=
  (s.modify i.handle fun j => { j with pendingAffirmations := j.pendingAffirmations ++ [r] }).emit
    [.send i.sysAddr (.prepZone i.mapID r.requestID)]

/-- `HandlePacket`, `MSG_MASTER_REQUEST_ZONE_TRANSFER` after decoding (lines 433-448):
resolve an instance, queue the request while it is not ready, else request affirmation. -/
def requestZoneTransfer (s : Master) (zoneID zoneClone : Nat) (r : TransferRequest) : Master :=
  let (s, i) := getInstance s zoneID zoneClone
  if !i.ready then s.modify i.handle fun j => { j with pendingRequests := j.pendingRequests ++ [r] }
  else requestAffirmation s i r

/-- Modelled from the spec (§4.F, ready-gating): mark the instance ready and drain its
queue, each request entering the affirmation flow. -/
def readyInstance (s : Master) (i : Instance) : Master :=
  i.pendingRequests.foldl (fun s r => requestAffirmation s i r)
    (s.modify i.handle fun j => { j with ready := true, pendingRequests := [] })

/-- Modelled from the spec (§4.F, step 3): take the request with that id out of
`pendingAffirmations` and send `ZONE_TRANSFER_RESPONSE` to its requester. -/
def affirmTransfer (s : Master) (i : Instance) (requestID : UInt64) : Master :=
  match i.pendingAffirmations.find? (·.requestID == requestID) with
  | none => s
  | some r =>
    (s.modify i.handle fun j => { j with pendingAffirmations := j.pendingAffirmations.erase r }).emit
      [.send r.requester
        (.zoneTransferResponse r.requestID r.mythranShift i.mapID i.instanceID i.cloneID i.ip i.port)]

/-- Modelled from the spec (§4.F, affirmation timeout): the requests held in both queues
are consumed and each is resolved again for the same map and clone by the normal path. -/
def redirectPendingRequests (s : Master) (i : Instance) : Master :=
  (i.pendingAffirmations ++ i.pendingRequests).foldl
    (fun s r => requestZoneTransfer s i.mapID i.cloneID r)
    (s.modify i.handle fun j => { j with pendingAffirmations := [], pendingRequests := [] })

/-- Modelled from the spec (§4.F, private instances): launch a world and record its password. -/
def createPrivateInstance (s : Master) (mapID cloneID : Nat) (password : List UInt8) : Master :=
  (launchInstance s mapID cloneID (some password)).1

/-- Modelled from the spec (§4.C): `ObjectIDManager::GeneratePersistentID` (not under
`src/`) advances the 32-bit counter and returns it. -/
def generatePersistentID (s : Master) : Master × Nat :=
  let id := (s.currentPersistentID + 1) % 2 ^ 32
  ({ s with currentPersistentID := id }, id)

end MasterServer
