import MasterServer.InstanceManager

/-!
# `HandlePacket`

`MasterServer.cpp` lines 371-796, on a packet already split into its transport
event and its master message (`Packet`). Identifiers narrow as the parameter
types of the instance manager narrow them: a `uint32_t` zone passed as an
`LWOMAPID` keeps its low 16 bits. A password reaches the instance manager
through `c_str()`, so it ends at its first NUL byte.
-/

namespace MasterServer

open Master

/-- `std::string::c_str()` read back as a C string: the bytes before the first NUL. -/
def cStr (bytes : List UInt8) : List UInt8 := bytes.takeWhile (· ≠ 0)

/-- Lines 377-382 (and 392-398): the instance of a peer that went away is removed. -/
def removePeerInstance (s : Master) (addr : SysAddr) : Master :=
  match getInstanceBySysAddr s addr with
  | some i => s.removeInstance i.handle
  | none => s

/-- Lines 384-386 (and 400-402): the chat server is restarted when the peer was the
chat server and no universe shutdown is pending. -/
def restartChatServer (s : Master) (addr : SysAddr) : Master :=
  if addr = s.chatServerMasterPeerSysAddr ∧ s.shouldShutdown = false then
    s.emit [.startChatServer]
  else s

/-- The `ID_DISCONNECTION_NOTIFICATION` and `ID_CONNECTION_LOST` blocks, equal but for
logging. -/
def dropPeer (s : Master) (addr : SysAddr) : Master :=
  restartChatServer (removePeerInstance s addr) addr

/-- Lines 473-488 of `MSG_MASTER_SERVER_INFO`: an unknown port of a world is registered
as a new instance of clone 0; otherwise the instance found by `(zone, instance)` is
rebound to the sender. -/
def registerServer (s : Master) (addr : SysAddr) (theirPort theirZoneID theirInstanceID : Nat)
    (theirServerType : ServerType) (theirIP : String) : Master :=
  if theirServerType = .world ∧ isPortInUse s theirPort = false then
    s.addInstance fun h =>
      { newInstance h theirIP theirPort (theirZoneID % 2 ^ 16) (theirInstanceID % 2 ^ 16) 0 12 12 with
        sysAddr := addr }
  else
    match findInstance s (theirZoneID % 2 ^ 16) (theirInstanceID % 2 ^ 16) with
    | some i => s.modify i.handle fun j => { j with sysAddr := addr }
    | none => s

/-- Lines 490-496: a chat server's address is remembered. -/
def rememberChatServer (s : Master) (addr : SysAddr) (theirServerType : ServerType) : Master :=
  if theirServerType = .chat then { s with chatServerMasterPeerSysAddr := addr } else s

/-- `MSG_MASTER_SERVER_INFO`. -/
def serverInfo (s : Master) (addr : SysAddr) (theirPort theirZoneID theirInstanceID : Nat)
    (theirServerType : ServerType) (theirIP : String) : Master :=
  rememberChatServer
    (registerServer s addr theirPort theirZoneID theirInstanceID theirServerType theirIP)
    addr theirServerType

/-- Lines 512-527 of `MSG_MASTER_SET_SESSION_KEY`: the first entry of the user is erased
and `NEW_SESSION_ALERT` broadcast. -/
def displaceSession (s : Master) (sessionKey : Nat) (username : String) : Master :=
  match s.activeSessions.entries.find? (·.2 == username) with
  | some it =>
    { s with activeSessions := s.activeSessions.erase it.1 }.emit
      [.broadcast (.newSessionAlert sessionKey username)]
  | none => s

/-- `MSG_MASTER_SET_SESSION_KEY`: displace the user's session, then `insert` the new key. -/
def setSessionKey (s : Master) (sessionKey : Nat) (username : String) : Master :=
  let s := displaceSession s sessionKey username
  { s with activeSessions := s.activeSessions.insert sessionKey username }

/-- `MSG_MASTER_REQUEST_SESSION_KEY`: answer with the first entry of the user, if any. -/
def requestSessionKey (s : Master) (addr : SysAddr) (username : String) : Master :=
  match s.activeSessions.entries.find? (·.2 == username) with
  | some key => s.emit [.send addr (.sessionKeyResponse key.1 key.2)]
  | none => s

/-- `MSG_MASTER_PLAYER_ADDED` / `MSG_MASTER_PLAYER_REMOVED`: adjust the player count
of the instance found by `(zone, instance)`. -/
def changePlayers (s : Master) (zoneID instanceID : Nat) (f : Nat → Nat) : Master :=
  match findInstance s zoneID instanceID with
  | some i => s.modify i.handle fun j => { j with players := f j.players }
  | none => s

/-- `MSG_MASTER_GET_INSTANCES`: list the instances (of one map, or all) to the
responding instance, whose lookup result is used without a null check. -/
def getInstances (s : Master) (objectID : UInt64) (zoneID : Option Nat)
    (respondingZoneID respondingInstanceID : Nat) : Master :=
  match findInstance s respondingZoneID respondingInstanceID with
  | none => s.emit [.nullDereference]
  | some r =>
    let instances := match zoneID with
      | none => s.instances
      | some z => findInstancesByMapID s z
    s.emit [.send r.sysAddr
      (.respondInstances objectID (instances.map fun i => (i.mapID, i.cloneID, i.instanceID)))]

/-- The `switch (packet->data[3])` of `HandlePacket`, for a packet from `addr`. -/
def handleMasterMessage (s : Master) (addr : SysAddr) : MasterMessage → Master
  | .requestPersistentID requestID =>
    let (s, objID) := generatePersistentID s
    s.emit [.send addr (.persistentIDResponse requestID objID)]
  | .requestZoneTransfer requestID mythranShift zoneID zoneClone =>
    requestZoneTransfer s (zoneID.toNat % 2 ^ 16) zoneClone.toNat ⟨requestID, mythranShift != 0, addr⟩
  | .serverInfo port zoneID instanceID serverType ip =>
    serverInfo s addr port.toNat zoneID.toNat instanceID.toNat serverType ip
  | .setSessionKey sessionKey username => setSessionKey s sessionKey.toNat username
  | .requestSessionKey username => requestSessionKey s addr username
  | .playerAdded zoneID instanceID => changePlayers s zoneID.toNat instanceID.toNat (· + 1)
  | .playerRemoved zoneID instanceID => changePlayers s zoneID.toNat instanceID.toNat (· - 1)
  | .createPrivateZone mapId cloneId password =>
    createPrivateInstance s (mapId.toNat % 2 ^ 16) cloneId.toNat (cStr password)
  | .requestPrivateZone requestID mythranShift password =>
    match findPrivateInstance s (cStr password) with
    | none => s
    | some i => s.emit [.send addr (.zoneTransferResponse requestID (mythranShift != 0)
        i.mapID i.instanceID i.cloneID i.ip i.port)]
  | .worldReady zoneID instanceID =>
    match findInstance s zoneID.toNat instanceID.toNat with
    | none => s
    | some i => readyInstance s i
  | .prepZone zoneID => (getInstance s (zoneID.toNat % 2 ^ 16) 0).1
  | .affirmTransferResponse requestID =>
    match getInstanceBySysAddr s addr with
    | none => s
    | some i => affirmTransfer s i requestID
  | .shutdownResponse =>
    match getInstanceBySysAddr s addr with
    | none => s
    | some i => s.modify i.handle fun j => { j with shuttingDown := true }
  | .shutdownUniverse => { s with shouldShutdown := true }
  | .shutdownInstance zoneID instanceID =>
    match findInstance s (zoneID.toNat % 2 ^ 16) instanceID.toNat with
    | none => s
    | some i => s.emit [i.shutdown]
  | .getInstances objectID zoneID respondingZoneID respondingInstanceID =>
    getInstances s objectID (zoneID.map UInt16.toNat) respondingZoneID.toNat respondingInstanceID.toNat
  | .unknown _ => s

/-- The blocks of `HandlePacket` testing `data[0]`. -/
def handleNotification (s : Master) (addr : SysAddr) : Option Notification → Master
  | some .disconnection => dropPeer s addr
  | some .connectionLost => dropPeer s addr
  | none => s

/-- `HandlePacket`: the transport blocks on `data[0]`, then the master `switch`. -/
def handlePacket (s : Master) (p : Packet) : Master :=
  match p.master with
  | some m => handleMasterMessage (handleNotification s p.systemAddress p.notification)
      p.systemAddress m
  | none => handleNotification s p.systemAddress p.notification

end MasterServer
