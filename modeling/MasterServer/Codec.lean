import MasterServer.Decode

/-!
# The codec round trip

What a peer writes for each master message, laid out as the packet table of the spec has
it (§6), and the theorem that the reads of `HandlePacket` give that message back. On
every packet whose bits after an eight-byte header begin with a message's encoding,
whatever follows them and whatever the junk, `handleRaw` is `handleMasterMessage` of that
message: what the decoded model proves holds of the bytes well-behaved peers send.
-/

namespace MasterServer.Codec

open BitStream

/-- The case of the master `switch` that decodes a message; `unknown` reaches `default`. -/
def kindOf : MasterMessage → Option MasterKind
  | .requestPersistentID _ => some .requestPersistentID
  | .requestZoneTransfer .. => some .requestZoneTransfer
  | .serverInfo .. => some .serverInfo
  | .setSessionKey .. => some .setSessionKey
  | .requestSessionKey _ => some .requestSessionKey
  | .playerAdded .. => some .playerAdded
  | .playerRemoved .. => some .playerRemoved
  | .createPrivateZone .. => some .createPrivateZone
  | .requestPrivateZone .. => some .requestPrivateZone
  | .worldReady .. => some .worldReady
  | .prepZone _ => some .prepZone
  | .affirmTransferResponse _ => some .affirmTransferResponse
  | .shutdownResponse => some .shutdownResponse
  | .shutdownUniverse => some .shutdownUniverse
  | .shutdownInstance .. => some .shutdownInstance
  | .getInstances .. => some .getInstances
  | .unknown _ => none

/-- Modelled from the spec (§6): the optional zone of `GET_INSTANCES`, a presence bit
and, when it is set, the zone. -/
def zoneBits : Option UInt16 → List Bool
  | some zoneID => true :: bitsOf (toListLE zoneID.toNat 2)
  | none => [false]

/-- Modelled from the spec (§6): the bits a peer writes after the header. Integers are
little-endian in their width, a string is its bytes and a NUL, a password is its
`uint32_t` length and its bytes. -/
def payloadBits (c : Codes) : MasterMessage → List Bool
  | .requestPersistentID requestID => bitsOf (toListLE requestID.toNat 8)
  | .requestZoneTransfer requestID mythranShift zoneID zoneClone =>
    bitsOf (toListLE requestID.toNat 8 ++ toListLE mythranShift.toNat 1 ++
      toListLE zoneID.toNat 4 ++ toListLE zoneClone.toNat 4)
  | .serverInfo port zoneID instanceID serverType ip =>
    bitsOf (toListLE port.toNat 4 ++ toListLE zoneID.toNat 4 ++ toListLE instanceID.toNat 4 ++
      toListLE (c.serverType serverType).toNat 4 ++ stringBytes ip ++ [0])
  | .setSessionKey sessionKey username =>
    bitsOf (toListLE sessionKey.toNat 4 ++ stringBytes username ++ [0])
  | .requestSessionKey username => bitsOf ([] ++ stringBytes username ++ [0])
  | .playerAdded zoneID instanceID | .playerRemoved zoneID instanceID
  | .worldReady zoneID instanceID =>
    bitsOf (toListLE zoneID.toNat 2 ++ toListLE instanceID.toNat 2)
  | .createPrivateZone mapId cloneId password =>
    bitsOf (toListLE mapId.toNat 4 ++ toListLE cloneId.toNat 4 ++
      toListLE password.length 4) ++ bitsOf password
  | .requestPrivateZone requestID mythranShift password =>
    bitsOf (toListLE requestID.toNat 8 ++ toListLE mythranShift.toNat 1 ++
      toListLE password.length 4) ++ bitsOf password
  | .prepZone zoneID => bitsOf (toListLE zoneID.toNat 4)
  | .affirmTransferResponse requestID => bitsOf (toListLE requestID.toNat 8)
  | .shutdownResponse | .shutdownUniverse | .unknown _ => []
  | .shutdownInstance zoneID instanceID =>
    bitsOf (toListLE zoneID.toNat 4 ++ toListLE instanceID.toNat 2)
  | .getInstances objectID zoneID respondingZoneID respondingInstanceID =>
    bitsOf (toListLE objectID.toNat 8) ++ zoneBits zoneID ++
      bitsOf (toListLE respondingZoneID.toNat 2 ++ toListLE respondingInstanceID.toNat 2)

/-- The messages the encoding carries faithfully: strings of bytes other than NUL,
passwords whose length fits their prefix, and zones other than `LWOMAPID_INVALID`, which
reads as no zone. -/
def encodable (c : Codes) : MasterMessage → Bool
  | .serverInfo _ _ _ _ ip => wireChars ip
  | .setSessionKey _ username | .requestSessionKey username => wireChars username
  | .createPrivateZone _ _ password | .requestPrivateZone _ _ password =>
    decide (password.length < 2 ^ 32)
  | .getInstances _ zoneID _ _ => zoneID != some c.invalidMapID
  | _ => true

/-- The eight bytes a peer writes before a master message of kind `k`: `data[0]` is no
transport event, `data[1]` is the `MASTER` connection type and `data[3]` the kind. -/
structure Header (c : Codes) (k : MasterKind) where
  bytes : List UInt8
  length_eq : bytes.length = 8
  not_transport : bytes[0]? ≠ some c.disconnectionNotification ∧
    bytes[0]? ≠ some c.connectionLost
  connectionType : bytes[1]? = some c.master
  kind_eq : bytes[3]? = some (c.kind k)

/-- The password loop reads back the bytes at the cursor, one per iteration. -/
theorem readPassword_left (j : Junk) :
    ∀ (pw : List UInt8) (i : Nat) {bs : BitStream} {r : List Bool},
      bs.left = bitsOf pw ++ r → (readPassword j pw.length i bs).1 = pw
  | [], _, _, _, _ => rfl
  | b :: pw, i, bs, r, h => by
    have h1 : bs.left = bitsOf [b] ++ (bitsOf pw ++ r) := by
      rw [h, ← List.append_assoc, ← bitsOf_append]; rfl
    have e := readInto_of_left h1 Nat.one_pos (j.char i)
    have h2 := left_skip h1
    simp only [List.length_singleton] at e h2
    simp only [List.length_cons, readPassword, e, readPassword_left j pw (i + 1) h2, ofListLE_cons,
      ofListLE_nil, mul_zero, add_zero, toUInt8_toNat]

/-- A length prefix that fits its `uint32_t` reads back as the length. -/
theorem lengthPrefix_toListLE {n : Nat} (h : n < 2 ^ 32) : ofListLE (toListLE n 4) % 2 ^ 32 = n := by
  rw [ofListLE_toListLE, Nat.mod_mod_of_dvd _ (by norm_num), Nat.mod_eq_of_lt h]

/-- A string the payload carries after the bytes `f` reads back at its offset. -/
theorem readString_of_payload {data f : List UInt8} {s : String} {r : List Bool}
    (h8 : 8 ≤ data.length) (hs : wireChars s = true)
    (hd : bitsOf (data.drop 8) = bitsOf (f ++ stringBytes s ++ [0]) ++ r) :
    readString data (8 + f.length) = s := by
  obtain ⟨d', hd'⟩ := bitsOf_eq_append hd
  have e : data = data.take 8 ++ f ++ stringBytes s ++ 0 :: d' :=
    calc data = data.take 8 ++ data.drop 8 := (List.take_append_drop 8 data).symm
      _ = _ := by rw [hd']; simp
  have hl : (data.take 8 ++ f).length = 8 + f.length := by simp; omega
  rw [e, ← hl]
  exact readString_stringBytes hs _ _

/-- **The `switch` reads back every encoded message.** On every packet of at least eight
bytes whose bits after the header begin with the encoding of a message of kind `k`, the
case `k` decodes that message, whatever follows and whatever the junk. -/
theorem decodeKind_payloadBits (c : Codes) (j : Junk) {data : List UInt8} {m : MasterMessage}
    {k : MasterKind} {r : List Bool} (h8 : 8 ≤ data.length) (hk : kindOf m = some k)
    (hm : encodable c m = true) (hd : bitsOf (data.drop 8) = payloadBits c m ++ r) :
    decodeKind c j data k = m := by
  have hl : (header data).left = payloadBits c m ++ r := (header_left h8).trans hd
  cases m <;> cases hk <;> simp only [payloadBits, bitsOf_append, List.append_assoc] at hl <;>
    delta decodeKind
  case shutdownResponse | shutdownUniverse => rfl
  case requestPersistentID requestID | affirmTransferResponse requestID =>
    obtain ⟨_, e1, -⟩ := readInto_toListLE (by decide) hl 0
    obtain ⟨_, e1', -⟩ := readInto_toListLE (by decide) hl (j.uninit 0)
    simp only [e1, e1', ofListLE_toListLE_u64]
  case prepZone zoneID =>
    obtain ⟨_, e1, -⟩ := readInto_toListLE (by decide) hl (j.uninit 0)
    simp only [e1, ofListLE_toListLE_u32]
  case requestZoneTransfer requestID mythranShift zoneID zoneClone =>
    obtain ⟨_, e1, l1⟩ := readInto_toListLE (by decide) hl 0
    obtain ⟨_, e2, l2⟩ := readInto_toListLE (by decide) l1 0
    obtain ⟨_, e3, l3⟩ := readInto_toListLE (by decide) l2 0
    obtain ⟨_, e4, -⟩ := readInto_toListLE (by decide) l3 0
    simp only [e1, e2, e3, e4, ofListLE_toListLE_u64, ofListLE_toListLE_u8, ofListLE_toListLE_u32]
  case serverInfo port zoneID instanceID serverType ip =>
    have hs : readString data 24 = ip := by simpa using readString_of_payload h8 hm hd
    obtain ⟨_, e1, l1⟩ := readInto_toListLE (by decide) hl 0
    obtain ⟨_, e2, l2⟩ := readInto_toListLE (by decide) l1 0
    obtain ⟨_, e3, l3⟩ := readInto_toListLE (by decide) l2 0
    obtain ⟨_, e4, -⟩ := readInto_toListLE (by decide) l3 (j.uninit 0)
    simp only [e1, e2, e3, e4, hs, ofListLE_toListLE_u32, Codes.serverTypeOf_serverType]
  case setSessionKey sessionKey username =>
    have hs : readString data 12 = username := by simpa using readString_of_payload h8 hm hd
    obtain ⟨_, e1, -⟩ := readInto_toListLE (by decide) hl 0
    simp only [e1, hs, ofListLE_toListLE_u32]
  case requestSessionKey username =>
    have hs : readString data 8 = username := by simpa using readString_of_payload h8 hm hd
    simp only [hs]
  case playerAdded zoneID instanceID | playerRemoved zoneID instanceID
      | worldReady zoneID instanceID =>
    obtain ⟨_, e1, l1⟩ := readInto_toListLE (by decide) hl 0
    obtain ⟨_, e1', l1'⟩ := readInto_toListLE (by decide) hl (j.uninit 0)
    obtain ⟨_, e2, -⟩ := readInto_toListLE (by decide) l1 0
    obtain ⟨_, e2', -⟩ := readInto_toListLE (by decide) l1' (j.uninit 1)
    simp only [e1, e1', e2, e2', ofListLE_toListLE_u16]
  case shutdownInstance zoneID instanceID =>
    obtain ⟨_, e1, l1⟩ := readInto_toListLE (by decide) hl (j.uninit 0)
    obtain ⟨_, e2, -⟩ := readInto_toListLE (by decide) l1 (j.uninit 1)
    simp only [e1, e2, ofListLE_toListLE_u32, ofListLE_toListLE_u16]
  case createPrivateZone mapId cloneId password =>
    obtain ⟨_, e1, l1⟩ := readInto_toListLE (by decide) hl (j.uninit 0)
    obtain ⟨_, e2, l2⟩ := readInto_toListLE (by decide) l1 (j.uninit 1)
    obtain ⟨_, e3, l3⟩ := readInto_toListLE (by decide) l2 (j.uninit 2)
    simp only [e1, e2, e3, lengthPrefix_toListLE (of_decide_eq_true hm),
      readPassword_left j password 0 l3, ofListLE_toListLE_u32]
  case requestPrivateZone requestID mythranShift password =>
    obtain ⟨_, e1, l1⟩ := readInto_toListLE (by decide) hl 0
    obtain ⟨_, e2, l2⟩ := readInto_toListLE (by decide) l1 0
    obtain ⟨_, e3, l3⟩ := readInto_toListLE (by decide) l2 (j.uninit 0)
    simp only [e1, e2, e3, lengthPrefix_toListLE (of_decide_eq_true hm),
      readPassword_left j password 0 l3, ofListLE_toListLE_u64, ofListLE_toListLE_u8]
  case getInstances objectID zoneID respondingZoneID respondingInstanceID =>
    obtain ⟨_, e1, l1⟩ := readInto_toListLE (by decide) hl (j.uninit 0)
    cases zoneID <;> simp only [zoneBits, List.cons_append, List.nil_append] at l1
    case none =>
      obtain ⟨_, e2, l2⟩ := readBit_left l1 j
      obtain ⟨_, e3, l3⟩ := readInto_toListLE (by decide) l2 (j.uninit 1)
      obtain ⟨_, e4, -⟩ := readInto_toListLE (by decide) l3 (j.uninit 2)
      simp only [e1, e2, e3, e4, Bool.false_eq_true, ↓reduceIte, toUInt16_toNat,
        ofListLE_toListLE_u64, ofListLE_toListLE_u16]
    case some zoneID =>
      obtain ⟨_, e2, l2⟩ := readBit_left l1 j
      obtain ⟨_, e3, l3⟩ := readInto_toListLE (by decide) l2 c.invalidMapID.toNat
      obtain ⟨_, e4, l4⟩ := readInto_toListLE (by decide) l3 (j.uninit 1)
      obtain ⟨_, e5, -⟩ := readInto_toListLE (by decide) l4 (j.uninit 2)
      have hz : zoneID ≠ c.invalidMapID := by simpa [encodable] using hm
      simp only [e1, e2, e3, e4, e5, hz, ↓reduceIte, ofListLE_toListLE_u64, ofListLE_toListLE_u16]

section Packets

variable (c : Codes) (j : Junk) {k : MasterKind} (h : Header c k) (a : SysAddr)
  {m : MasterMessage} {rest : List UInt8} {r : List Bool}

/-- The header tests read the header's own bytes. -/
theorem Header.byte {i : Nat} (hi : i < 8) :
    (⟨a, h.bytes ++ rest⟩ : RawPacket).byte j i = h.bytes[i]?.getD (j.past i) := by
  rw [RawPacket.byte, List.getD_eq_getElem?_getD, List.getElem?_append_left (h.length_eq ▸ hi)]

/-- `data[0]` of a packet with a master header is neither transport event. -/
theorem Header.byte_zero_ne : (⟨a, h.bytes ++ rest⟩ : RawPacket).byte j 0 ≠
    c.disconnectionNotification ∧ (⟨a, h.bytes ++ rest⟩ : RawPacket).byte j 0 ≠ c.connectionLost := by
  obtain ⟨b, hb⟩ : ∃ b, h.bytes[0]? = some b :=
    ⟨_, List.getElem?_eq_getElem (by rw [h.length_eq]; decide)⟩
  have hn := h.not_transport
  rw [hb, Ne, Option.some_inj, Ne, Option.some_inj] at hn
  rwa [h.byte c j a (by decide), hb, Option.getD_some]

/-- **Every encoded packet decodes to the message it carries.** A header of kind `k`, then
the encoding of a message of that kind, then any bytes, is no transport event and carries
that master message, whatever the junk. -/
theorem decodePacket_encoded (hk : kindOf m = some k) (hm : encodable c m = true)
    (hd : bitsOf rest = payloadBits c m ++ r) :
    decodePacket c j ⟨a, h.bytes ++ rest⟩ = ⟨a, none, some m⟩ := by
  have h8 : 8 ≤ (h.bytes ++ rest).length := by simp [h.length_eq]
  have hd' : bitsOf ((h.bytes ++ rest).drop 8) = payloadBits c m ++ r := by
    rwa [List.drop_left' h.length_eq]
  obtain ⟨h0, h0'⟩ := @Header.byte_zero_ne c j k h a rest
  simp only [decodePacket, h0, h0', h.byte c j a (show 1 < 8 by decide),
    h.byte c j a (show 3 < 8 by decide), h.connectionType, h.kind_eq, Option.getD_some, ↓reduceIte,
    decodeMaster, Codes.kindOf?_kind, decodeKind_payloadBits c j h8 hk hm hd']

/-- **`HandlePacket` handles an encoded packet as the decoded model handles its message.**
So every theorem of the decoded handler holds of the packets peers send. -/
theorem handleRaw_encoded (s : Master) (hk : kindOf m = some k) (hm : encodable c m = true)
    (hd : bitsOf rest = payloadBits c m ++ r) :
    handleRaw c j s ⟨a, h.bytes ++ rest⟩ = handleMasterMessage s a m := by
  rw [handleRaw, decodePacket_encoded c j h a hk hm hd]; rfl

end Packets

/-- A code table: RakNet's two transport events at 19 and 20, `MASTER` at 2, the kinds
numbered from 1 in the order of the `switch`, the server types from 0. -/
def sampleCodes : Codes where
  disconnectionNotification := 19
  connectionLost := 20
  master := 2
  kind k := (k.toCtorIdx + 1).toUInt8
  serverType t := t.toCtorIdx.toUInt32
  invalidMapID := 0xFFFF
  transport_ne := by decide
  kind_injective a b h := by
    have hk : ∀ k : MasterKind, (k.toCtorIdx + 1).toUInt8.toNat - 1 = k.toCtorIdx := by
      intro k; cases k <;> rfl
    dsimp only at h
    rw [← MasterKind.ofNat_toCtorIdx a, ← MasterKind.ofNat_toCtorIdx b, ← hk a, ← hk b, h]
  serverType_injective a b h := by
    cases a <;> cases b <;> first | rfl | exact absurd h (by decide)

/-- A `REQUEST_ZONE_TRANSFER` for zone 1000, encoded after its header, is handled as the
decoded message. -/
theorem handleRaw_encoded_zoneTransfer :
    handleRaw sampleCodes ⟨fun _ => 0, fun _ => 0, fun _ => 0⟩ (startup "" true)
        ⟨⟨1, 1⟩, [0, 2, 0, 2, 0, 0, 0, 0] ++
          (toListLE 7 8 ++ toListLE 0 1 ++ toListLE 1000 4 ++ toListLE 0 4)⟩ =
      handleMasterMessage (startup "" true) ⟨1, 1⟩ (.requestZoneTransfer 7 0 1000 0) :=
  handleRaw_encoded sampleCodes _ (k := .requestZoneTransfer)
    ⟨[0, 2, 0, 2, 0, 0, 0, 0], rfl, by decide, rfl, rfl⟩ _ _ rfl rfl (List.append_nil _).symm

end MasterServer.Codec
