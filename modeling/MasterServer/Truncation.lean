import MasterServer.PrivateZones
import MasterServer.Codec

/-!
# Truncated packets

No case of `HandlePacket` looks at what `BitStream::Read` returns: a field whose read fails
keeps its initializer, or the junk of a local declared without one, and the case goes on
with it. A packet that is only its header is handled as the message of those values.
-/

namespace MasterServer

open BitStream PrivateZones

/-- The password a loop builds when no byte is left: one junk `character` for each of the
`len` iterations, `len` read as a `uint32_t`. -/
def junkPassword (j : Junk) (len : Nat) : List UInt8 :=
  (List.range' 0 (len % 2 ^ 32)).map fun k => (j.char k).toUInt8

/-- The message a case builds when every read after the header fails: each field at its
initializer, or at the junk of its uninitialized local. `ReadBit` reads on past the end,
and either way `GET_INSTANCES` is left with `LWOMAPID_INVALID`, no map. -/
def initialMessage (c : Codes) (j : Junk) : MasterKind → MasterMessage
  | .requestPersistentID => .requestPersistentID 0
  | .requestZoneTransfer => .requestZoneTransfer 0 0 0 0
  | .serverInfo => .serverInfo 0 0 0 (c.serverTypeOf (j.uninit 0).toUInt32) ""
  | .setSessionKey => .setSessionKey 0 ""
  | .requestSessionKey => .requestSessionKey ""
  | .playerAdded => .playerAdded 0 0
  | .playerRemoved => .playerRemoved 0 0
  | .createPrivateZone =>
    .createPrivateZone (j.uninit 0).toUInt32 (j.uninit 1).toUInt32 (junkPassword j (j.uninit 2))
  | .requestPrivateZone => .requestPrivateZone 0 0 (junkPassword j (j.uninit 0))
  | .worldReady => .worldReady (j.uninit 0).toUInt16 (j.uninit 1).toUInt16
  | .prepZone => .prepZone (j.uninit 0).toUInt32
  | .affirmTransferResponse => .affirmTransferResponse (j.uninit 0).toUInt64
  | .shutdownResponse => .shutdownResponse
  | .shutdownUniverse => .shutdownUniverse
  | .shutdownInstance => .shutdownInstance (j.uninit 0).toUInt32 (j.uninit 1).toUInt16
  | .getInstances =>
    .getInstances (j.uninit 0).toUInt64 none (j.uninit 1).toUInt16 (j.uninit 2).toUInt16

/-- Every read after the header of a packet that is only its header fails. -/
theorem readInto_header_only {data : List UInt8} (hd : data.length = 8) {k : Nat} (hk : 0 < k)
    (x : Nat) : (header data).readInto k x = (x, header data) :=
  readInto_of_lt x (by simp [header_readOffset, hd]; omega)

theorem handleNotification_of_unknown {s : Master} {a : SysAddr}
    (hi : getInstanceBySysAddr s a = none) (hc : a ≠ s.chatServerMasterPeerSysAddr)
    (n : Option Notification) : handleNotification s a n = s := by
  rcases n with _ | _ | _ <;>
    simp [handleNotification, dropPeer, removePeerInstance, restartChatServer, hi, hc]

/-- A packet that is only its header decodes, for its kind, to the message of initializers. -/
theorem decodeKind_header_only (c : Codes) (j : Junk) {data : List UInt8} (hd : data.length = 8)
    (k : MasterKind) : decodeKind c j data k = initialMessage c j k := by
  have h0 : Nat.toUInt8 0 = 0 ∧ Nat.toUInt16 0 = 0 ∧ Nat.toUInt32 0 = 0 ∧ Nat.toUInt64 0 = 0 :=
    ⟨rfl, rfl, rfl, rfl⟩
  have hp : (header data).bits.length < (header data).readOffset + 8 := by
    simp [header_readOffset, hd]
  have hs : ∀ o, 8 ≤ o → readString data o = "" := fun o ho => by
    simp [readString, List.drop_of_length_le (hd ▸ ho : data.length ≤ o)]
  cases k <;> delta decodeKind initialMessage
  case getInstances =>
    simp [readInto_header_only hd, h0, BitStream.readBit,
      readInto_of_lt, header_readOffset, hd]
  all_goals simp only [readInto_header_only hd (Nat.succ_pos _),
    hs 24 (by decide), hs 12 (by decide), hs 8 le_rfl, h0, junkPassword,
    readPassword_of_exhausted j hp]

theorem decodePacket_header_only (c : Codes) (j : Junk) (a : SysAddr) (k : MasterKind)
    (b₀ b₂ b₄ b₅ b₆ b₇ : UInt8) :
    (decodePacket c j ⟨a, [b₀, c.master, b₂, c.kind k, b₄, b₅, b₆, b₇]⟩).master =
      some (initialMessage c j k) := by
  show (if c.master = c.master then some (decodeMaster c j _ (c.kind k)) else none) = _
  rw [if_pos rfl, decodeMaster, Codes.kindOf?_kind]
  exact congrArg some (@decodeKind_header_only c j [b₀, c.master, b₂, c.kind k, b₄, b₅, b₆, b₇] rfl k)

/-- **What a truncated packet does.** For every code table, every content of memory, every
other header byte and every state, a packet of a master kind that is only its 8-byte header
reaches the `switch` after the transport blocks and is handled as the message of
initializers of its kind. -/
theorem handleRaw_header_only (c : Codes) (j : Junk) (s : Master) (a : SysAddr) (k : MasterKind)
    (b₀ b₂ b₄ b₅ b₆ b₇ : UInt8) :
    let p : RawPacket := ⟨a, [b₀, c.master, b₂, c.kind k, b₄, b₅, b₆, b₇]⟩
    handleRaw c j s p =
      handleMasterMessage (handleNotification s a (decodePacket c j p).notification) a
        (initialMessage c j k) := by
  intro p
  rw [handleRaw, handlePacket, decodePacket_header_only]
  rfl

/-- A `REQUEST_ZONE_TRANSFER` that is only its 8-byte header, from a peer a master
started without prestart does not know: every field read fails and leaves its
initializer, so the handler resolves map 0 for request 0 and launches a world for it. -/
theorem zoneTransfer_header_only_launches (c : Codes) (j : Junk) (b₀ b₂ b₄ b₅ b₆ b₇ : UInt8) :
    let p : RawPacket :=
      ⟨⟨7, 7⟩, [b₀, c.master, b₂, c.kind .requestZoneTransfer, b₄, b₅, b₆, b₇]⟩
    let s : Master := handleRaw c j (startup "10.0.0.1" false) p
    Reachable s ∧ (decodePacket c j p).master = some (.requestZoneTransfer 0 0 0 0) ∧
      s.effects = [.launchWorld 0 "10.0.0.1" 1 0 1 0 12] ∧
      s.instances.map (·.pendingRequests) = [[⟨0, false, ⟨7, 7⟩⟩]] := by
  have hm := decodePacket_header_only c j ⟨7, 7⟩ .requestZoneTransfer b₀ b₂ b₄ b₅ b₆ b₇
  have hs : handleRaw c j (startup "10.0.0.1" false)
      ⟨⟨7, 7⟩, [b₀, c.master, b₂, c.kind .requestZoneTransfer, b₄, b₅, b₆, b₇]⟩ =
      handleMasterMessage (startup "10.0.0.1" false) ⟨7, 7⟩ (.requestZoneTransfer 0 0 0 0) := by
    rw [handleRaw, handlePacket, hm]
    show handleMasterMessage (handleNotification _ ⟨7, 7⟩ _) ⟨7, 7⟩ (.requestZoneTransfer 0 0 0 0) = _
    rw [handleNotification_of_unknown (s := startup "10.0.0.1" false) (a := ⟨7, 7⟩) (by decide)
      (by decide)]
  exact ⟨.step (.startup _ _) (.dispatch _ _), hm, by rw [hs]; decide, by rw [hs]; decide⟩

/-- Under the sample code table, with zero bytes past the buffer and zero locals. -/
theorem truncated_zoneTransfer_launches :
    let p : RawPacket := ⟨⟨7, 7⟩, [0, 2, 0, 2, 0, 0, 0, 0]⟩
    let s : Master :=
      handleRaw Codec.sampleCodes ⟨fun _ => 0, fun _ => 0, fun _ => 0⟩ (startup "10.0.0.1" false) p
    Reachable s ∧
      (decodePacket Codec.sampleCodes ⟨fun _ => 0, fun _ => 0, fun _ => 0⟩ p).master =
        some (.requestZoneTransfer 0 0 0 0) ∧
      s.effects = [.launchWorld 0 "10.0.0.1" 1 0 1 0 12] ∧
      s.instances.map (·.pendingRequests) = [[⟨0, false, ⟨7, 7⟩⟩]] :=
  zoneTransfer_header_only_launches Codec.sampleCodes ⟨fun _ => 0, fun _ => 0, fun _ => 0⟩ 0 0 0 0 0 0

end MasterServer
