import MasterServer.Wire
import MasterServer.ControlLoop

/-!
# Decoding a packet

`HandlePacket` on the bytes of a packet (lines 371-796): the three header tests, and for a
master message the reads of its case, in the source's order and with the source's
initializers. `handleRaw` is `HandlePacket` as the loop calls it. No read's result is
checked, and the header tests read `data[1]` and `data[3]` whatever the packet's length.
-/

namespace MasterServer

open BitStream

/-- The password loops (lines 603-607 and 629-632), with `n` iterations left at counter
`i`: each reads one `char` into a fresh uninitialized `character` and appends it, read
or not. -/
def readPassword (j : Junk) : (n i : Nat) → BitStream → List UInt8 × BitStream
  | 0, _, bs => ([], bs)
  | n + 1, i, bs =>
    let character := bs.readInto 1 (j.char i)
    let rest := readPassword j n (i + 1) character.2
    (character.1.toUInt8 :: rest.1, rest.2)

/-- The reads of each case of the `switch`, after the header. A field declared with an
initializer holds it when its read fails; the `n`-th field declared without one holds
the junk `j.uninit n`. -/
def decodeKind (c : Codes) (j : Junk) (data : List UInt8) : MasterKind → MasterMessage
  | .requestPersistentID =>
    let (requestID, _) := (header data).readInto 8 0
    .requestPersistentID requestID.toUInt64
  | .requestZoneTransfer =>
    let (requestID, bs) := (header data).readInto 8 0
    let (mythranShift, bs) := bs.readInto 1 0
    let (zoneID, bs) := bs.readInto 4 0
    let (zoneClone, _) := bs.readInto 4 0
    .requestZoneTransfer requestID.toUInt64 mythranShift.toUInt8 zoneID.toUInt32
      zoneClone.toUInt32
  | .serverInfo =>
    let (theirPort, bs) := (header data).readInto 4 0
    let (theirZoneID, bs) := bs.readInto 4 0
    let (theirInstanceID, bs) := bs.readInto 4 0
    let (theirServerType, _) := bs.readInto 4 (j.uninit 0)
    .serverInfo theirPort.toUInt32 theirZoneID.toUInt32 theirInstanceID.toUInt32
      (c.serverTypeOf theirServerType.toUInt32) (readString data 24)
  | .setSessionKey =>
    let (sessionKey, _) := (header data).readInto 4 0
    .setSessionKey sessionKey.toUInt32 (readString data 12)
  | .requestSessionKey => .requestSessionKey (readString data 8)
  | .playerAdded =>
    let (theirZoneID, bs) := (header data).readInto 2 0
    let (theirInstanceID, _) := bs.readInto 2 0
    .playerAdded theirZoneID.toUInt16 theirInstanceID.toUInt16
  | .playerRemoved =>
    let (theirZoneID, bs) := (header data).readInto 2 0
    let (theirInstanceID, _) := bs.readInto 2 0
    .playerRemoved theirZoneID.toUInt16 theirInstanceID.toUInt16
  | .createPrivateZone =>
    let (mapId, bs) := (header data).readInto 4 (j.uninit 0)
    let (cloneId, bs) := bs.readInto 4 (j.uninit 1)
    let (len, bs) := bs.readInto 4 (j.uninit 2)
    let (password, _) := readPassword j (len % 2 ^ 32) 0 bs
    .createPrivateZone mapId.toUInt32 cloneId.toUInt32 password
  | .requestPrivateZone =>
    let (requestID, bs) := (header data).readInto 8 0
    let (mythranShift, bs) := bs.readInto 1 0
    let (len, bs) := bs.readInto 4 (j.uninit 0)
    let (password, _) := readPassword j (len % 2 ^ 32) 0 bs
    .requestPrivateZone requestID.toUInt64 mythranShift.toUInt8 password
  | .worldReady =>
    let (zoneID, bs) := (header data).readInto 2 (j.uninit 0)
    let (instanceID, _) := bs.readInto 2 (j.uninit 1)
    .worldReady zoneID.toUInt16 instanceID.toUInt16
  | .prepZone =>
    let (zoneID, _) := (header data).readInto 4 (j.uninit 0)
    .prepZone zoneID.toUInt32
  | .affirmTransferResponse =>
    let (requestID, _) := (header data).readInto 8 (j.uninit 0)
    .affirmTransferResponse requestID.toUInt64
  | .shutdownResponse => .shutdownResponse
  | .shutdownUniverse => .shutdownUniverse
  | .shutdownInstance =>
    let (zoneID, bs) := (header data).readInto 4 (j.uninit 0)
    let (instanceID, _) := bs.readInto 2 (j.uninit 1)
    .shutdownInstance zoneID.toUInt32 instanceID.toUInt16
  | .getInstances =>
    let (objectID, bs) := (header data).readInto 8 (j.uninit 0)
    let (present, bs) := bs.readBit j
    let (zoneID, bs) := if present then bs.readInto 2 c.invalidMapID.toNat
      else (c.invalidMapID.toNat, bs)
    let (respondingZoneID, bs) := bs.readInto 2 (j.uninit 1)
    let (respondingInstanceID, _) := bs.readInto 2 (j.uninit 2)
    .getInstances objectID.toUInt64
      (if zoneID.toUInt16 = c.invalidMapID then none else some zoneID.toUInt16)
      respondingZoneID.toUInt16 respondingInstanceID.toUInt16

/-- The `switch (packet->data[3])`: a kind byte no case names reaches `default`. -/
def decodeMaster (c : Codes) (j : Junk) (data : List UInt8) (kind : UInt8) : MasterMessage :=
  match c.kindOf? kind with
  | some k => decodeKind c j data k
  | none => .unknown kind

/-- The header tests of `HandlePacket` (lines 372, 389 and 405): `data[0]` against the
two transport events, and `data[1]` against `MASTER`, which selects the `switch` on
`data[3]`. -/
def decodePacket (c : Codes) (j : Junk) (p : RawPacket) : Packet where
  systemAddress := p.systemAddress
  notification :=
    if p.byte j 0 = c.disconnectionNotification then some .disconnection
    else if p.byte j 0 = c.connectionLost then some .connectionLost
    else none
  master := if p.byte j 1 = c.master then some (decodeMaster c j p.data (p.byte j 3)) else none

/-- The indices of `packet->data` the header tests read: `data[0]` twice, `data[1]`, and
`data[3]` when `data[1]` is `MASTER`. -/
def headerReads (c : Codes) (j : Junk) (p : RawPacket) : List Nat :=
  [0, 0, 1] ++ if p.byte j 1 = c.master then [3] else []

/-- `HandlePacket` on a packet as it arrives. -/
def handleRaw (c : Codes) (j : Junk) (s : Master) (p : RawPacket) : Master :=
  handlePacket s (decodePacket c j p)

/-- The header tests stay inside the packet exactly when it has `data[1]`, and `data[3]`
as well when `data[1]` reads as `MASTER`. -/
theorem headerReads_in_bounds_iff (c : Codes) (j : Junk) (p : RawPacket) :
    (∀ i ∈ headerReads c j p, i < p.data.length) ↔
      2 ≤ p.data.length ∧ (p.byte j 1 = c.master → 4 ≤ p.data.length) := by
  unfold headerReads
  split <;> simp_all <;> omega

/-- A transport notification is one byte long, and the master test after it reads
`data[1]`, past the end. Where the bytes after the buffer read as `MASTER` and
`SHUTDOWN_UNIVERSE`, the notification also shuts the universe down. -/
theorem notification_reads_past_end (c : Codes) (j : Junk) (s : Master) (a : SysAddr) :
    let p : RawPacket := ⟨a, [c.disconnectionNotification]⟩
    p.data.length = 1 ∧ 1 ∈ headerReads c j p ∧
      (j.past 1 = c.master → j.past 3 = c.kind .shutdownUniverse →
        (handleRaw c j s p).shouldShutdown = true) := by
  refine ⟨rfl, List.mem_append_left _ (by decide), fun h1 h3 => ?_⟩
  have hm : (decodePacket c j ⟨a, [c.disconnectionNotification]⟩).master =
      some .shutdownUniverse := by
    show (if j.past 1 = c.master then some (decodeMaster c j _ (j.past 3)) else none) = _
    rw [if_pos h1, h3, decodeMaster, Codes.kindOf?_kind]
    rfl
  show (handlePacket s _).shouldShutdown = true
  rw [handlePacket, hm]
  rfl

end MasterServer
