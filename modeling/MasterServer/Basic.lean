import Mathlib.Data.List.Basic
import Mathlib.Algebra.Group.Nat.Basic

/-!
# Master server: data model

The values `MasterServer.cpp` keeps and exchanges: peer addresses, pending
transfer requests, the `Instance` records of the instance manager, the packets
`HandlePacket` receives and what the master sends or launches. Integers read
from the wire keep their width (`UInt16`, `UInt32`, `UInt64`); the identifiers
stored in an `Instance` are naturals, narrowed where the code narrows them.
The instance manager is not under `src/`: its record follows the spec's data model.
-/

namespace MasterServer

/-- RakNet's `SystemAddress`, compared by value. -/
structure SysAddr where
  binaryAddress : UInt32
  port : UInt16
  deriving DecidableEq, Repr

/-- A default-constructed `SystemAddress`, as `chatServerMasterPeerSysAddr` starts. -/
def SysAddr.unassigned : SysAddr := ⟨0xFFFFFFFF, 0xFFFF⟩

/-- `ServerType` as `SERVER_INFO` reports it; the handler only compares with
`World` and `Chat`. -/
inductive ServerType where
  | master | auth | chat | world
  deriving DecidableEq, Repr

/-- A zone-transfer request held by an instance until it is answered (spec §3). -/
structure TransferRequest where
  requestID : UInt64
  mythranShift : Bool
  requester : SysAddr
  deriving DecidableEq, Repr

/-- An instance of the instance manager. `handle` stands for the `Instance*`
the registry owns; `privatePassword` is set for private zones only. -/
structure Instance where
  handle : Nat
  ip : String
  port : Nat
  mapID : Nat
  cloneID : Nat
  instanceID : Nat
  softCap : Nat
  hardCap : Nat
  sysAddr : SysAddr
  ready : Bool
  shuttingDown : Bool
  shutdownComplete : Bool
  players : Nat
  pendingRequests : List TransferRequest
  pendingAffirmations : List TransferRequest
  affirmationTimeout : Nat
  privatePassword : Option (List UInt8)
  deriving DecidableEq, Repr

/-- `new Instance(ip, port, mapID, instanceID, cloneID, softCap, hardCap)`: not
ready, not shutting down, no players, empty queues, timeout counter zero. -/
def newInstance (handle : Nat) (ip : String) (port mapID instanceID cloneID softCap hardCap : Nat) :
    Instance where
  handle := handle
  ip := ip
  port := port
  mapID := mapID
  cloneID := cloneID
  instanceID := instanceID
  softCap := softCap
  hardCap := hardCap
  sysAddr := .unassigned
  ready := false
  shuttingDown := false
  shutdownComplete := false
  players := 0
  pendingRequests := []
  pendingAffirmations := []
  affirmationTimeout := 0
  privatePassword := none

/-- The transport events `HandlePacket` tests `data[0]` against. -/
inductive Notification where
  | disconnection
  | connectionLost
  deriving DecidableEq, Repr

/-- The payload of a packet whose subsystem byte is `MASTER`, by kind byte, with
the fields as `HandlePacket` reads them. `getInstances` carries `none` for a zone
equal to `LWOMAPID_INVALID` (absent or invalid); `prepZone` carries the bits of
the `int` it reads. -/
inductive MasterMessage where
  | requestPersistentID (requestID : UInt64)
  | requestZoneTransfer (requestID : UInt64) (mythranShift : UInt8) (zoneID zoneClone : UInt32)
  | serverInfo (port zoneID instanceID : UInt32) (serverType : ServerType) (ip : String)
  | setSessionKey (sessionKey : UInt32) (username : String)
  | requestSessionKey (username : String)
  | playerAdded (zoneID instanceID : UInt16)
  | playerRemoved (zoneID instanceID : UInt16)
  | createPrivateZone (mapId cloneId : UInt32) (password : List UInt8)
  | requestPrivateZone (requestID : UInt64) (mythranShift : UInt8) (password : List UInt8)
  | worldReady (zoneID instanceID : UInt16)
  | prepZone (zoneID : UInt32)
  | affirmTransferResponse (requestID : UInt64)
  | shutdownResponse
  | shutdownUniverse
  | shutdownInstance (zoneID : UInt32) (instanceID : UInt16)
  | getInstances (objectID : UInt64) (zoneID : Option UInt16)
      (respondingZoneID respondingInstanceID : UInt16)
  | unknown (kind : UInt8)
  deriving DecidableEq, Repr

/-- A packet as `HandlePacket` dispatches on it: the sender, the transport event
`data[0]` names, and the master message `data[1]`/`data[3]` select. The three
tests are independent `if`s in the code, so both parts may be present. -/
structure Packet where
  systemAddress : SysAddr
  notification : Option Notification
  master : Option MasterMessage
  deriving DecidableEq, Repr

/-- What the master sends to a peer. -/
inductive OutMessage where
  | persistentIDResponse (requestID : UInt64) (objID : Nat)
  | zoneTransferResponse (requestID : UInt64) (mythranShift : Bool)
      (mapID instanceID cloneID : Nat) (ip : String) (port : Nat)
  | newSessionAlert (sessionKey : Nat) (username : String)
  | sessionKeyResponse (sessionKey : Nat) (username : String)
  | prepZone (zoneID : Nat) (requestID : UInt64)
  | respondInstances (objectID : UInt64) (zones : List (Nat × Nat × Nat))
  deriving DecidableEq, Repr

/-- Everything the master does outside its own memory. `shutdown h a` is
`Instance::Shutdown` on the instance with handle `h`: `SHUTDOWN` sent to `a`.
`nullDereference` is a call through an instance lookup that found nothing. -/
inductive Effect where
  | send (recipient : SysAddr) (msg : OutMessage)
  | broadcast (msg : OutMessage)
  | shutdown (handle : Nat) (recipient : SysAddr)
  | launchWorld (handle : Nat) (ip : String) (port mapID instanceID cloneID maxPlayers : Nat)
  | startChatServer
  | startAuthServer
  | nullDereference
  deriving DecidableEq, Repr

end MasterServer
