import MasterServer.ControlLoop
import MasterServer.Wire

/-!
# The replies `HandlePacket` writes

`SET_SESSION_KEY` broadcasts `NEW_SESSION_ALERT` (lines 516-523) and `GET_INSTANCES` sends
`RESPOND_INSTANCES` (lines 763-786), both written byte by byte. Read back as the spec's
packet table says, each gives the values the master sent as the C++ types of its fields keep
them, while its list is shorter than 2^32.
-/

namespace MasterServer.Reply

open BitStream

/-- Lines 518-522: after the header, `Write(sessionKey)` of the `uint32_t`,
`Write<uint32_t>(username.size())`, then each `char` of the username. -/
def newSessionAlertPayload (sessionKey : Nat) (username : String) : List UInt8 :=
  toListLE sessionKey 4 ++ toListLE username.length 4 ++ stringBytes username

/-- Lines 781-783, for one instance: its `LWOMAPID`, `LWOCLONEID` and `LWOINSTANCEID`. -/
def zoneBytes (zone : Nat × Nat × Nat) : List UInt8 :=
  toListLE zone.1 2 ++ toListLE zone.2.1 4 ++ toListLE zone.2.2 2

/-- Lines 767-784: after the header, `Write(objectID)`, the `uint32_t` count of the
instances, then each instance. -/
def respondInstancesPayload (objectID : UInt64) (zones : List (Nat × Nat × Nat)) :
    List UInt8 :=
  toListLE objectID.toNat 8 ++ toListLE zones.length 4 ++ zones.flatMap zoneBytes

/-- What the fields of one instance keep of its map, clone and instance id. -/
def narrow (zone : Nat × Nat × Nat) : Nat × Nat × Nat :=
  (zone.1 % 2 ^ 16, zone.2.1 % 2 ^ 32, zone.2.2 % 2 ^ 16)

/-- A `Read` of a `k`-byte value as a peer chains its reads: the value and the stream
after it, or nothing when fewer than `k` bytes are left. -/
def readField (bs : BitStream) (k : Nat) : Option (Nat × BitStream) :=
  match bs.read k with
  | (some v, bs) => some (v, bs)
  | (none, _) => none

/-- `n` reads of a `char`. -/
def readBytes (bs : BitStream) : Nat → Option (List UInt8)
  | 0 => some []
  | n + 1 => do
    let (b, bs) ← readField bs 1
    let bytes ← readBytes bs n
    pure (b.toUInt8 :: bytes)

/-- Modelled from the spec (§6, `NEW_SESSION_ALERT`: `sessionKey, len:u32, username
bytes`): a peer's reads after the header. -/
def readNewSessionAlert (data : List UInt8) : Option (Nat × String) := do
  let (sessionKey, bs) ← readField (header data) 4
  let (len, bs) ← readField bs 4
  let bytes ← readBytes bs len
  pure (sessionKey, String.mk (bytes.map fun b => Char.ofNat b.toNat))

/-- `n` reads of an instance's map, clone and instance id. -/
def readZones (bs : BitStream) : Nat → Option (List (Nat × Nat × Nat))
  | 0 => some []
  | n + 1 => do
    let (mapID, bs) ← readField bs 2
    let (cloneID, bs) ← readField bs 4
    let (instanceID, bs) ← readField bs 2
    let zones ← readZones bs n
    pure ((mapID, cloneID, instanceID) :: zones)

/-- Modelled from the spec (§6, `RESPOND_INSTANCES`: the objectID, a `u32` count, then
that many `(mapID, cloneID, instanceID)` triples): a peer's reads after the header. -/
def readRespondInstances (data : List UInt8) : Option (UInt64 × List (Nat × Nat × Nat)) := do
  let (objectID, bs) ← readField (header data) 8
  let (count, bs) ← readField bs 4
  let zones ← readZones bs count
  pure (objectID.toUInt64, zones)

section Fields

variable {bs : BitStream} {r : List Bool}

/-- A field whose bytes are all there reads as their little-endian value. -/
theorem readField_of_left {f : List UInt8} (hf : 0 < f.length) (h : bs.left = bitsOf f ++ r) :
    ∃ bs', readField bs f.length = some (ofListLE f, bs') ∧ bs'.left = r := by
  have hl := congrArg List.length h
  simp only [left, List.length_drop, List.length_append, bitsOf_length] at hl
  refine ⟨_, ?_, left_skip h⟩
  rw [readField, read_of_le (by omega), show bs.bits.drop bs.readOffset = _ from h,
    leValue_bitsOf]

/-- A field written in `k` bytes reads back as the value modulo `256 ^ k`. -/
theorem readField_toListLE {v k : Nat} (hk : 0 < k) (h : bs.left = bitsOf (toListLE v k) ++ r) :
    ∃ bs', readField bs k = some (v % 256 ^ k, bs') ∧ bs'.left = r := by
  obtain ⟨bs', e, hl⟩ := readField_of_left (by rwa [toListLE_length]) h
  rw [toListLE_length, ofListLE_toListLE] at e
  exact ⟨bs', e, hl⟩

end Fields

/-- The reads of `n` bytes return the next `n` bytes. -/
theorem readBytes_of_left :
    ∀ (bytes : List UInt8) {bs : BitStream} {r : List Bool},
      bs.left = bitsOf bytes ++ r → readBytes bs bytes.length = some bytes
  | [], _, _, _ => rfl
  | b :: bytes, bs, r, h => by
    obtain ⟨bs', e, hl⟩ := readField_of_left (f := [b]) (r := bitsOf bytes ++ r) Nat.one_pos
      (by rw [h, bitsOf_cons, bitsOf_cons, bitsOf_nil, List.append_nil, List.append_assoc])
    change readField bs 1 = _ at e
    simp only [List.length_cons, readBytes, e, readBytes_of_left bytes hl, ofListLE_cons,
      ofListLE_nil, mul_zero, add_zero, toUInt8_toNat, Option.bind_eq_bind, Option.some_bind]
    rfl

/-- The reads of `n` instances return the next `n` instances, narrowed. -/
theorem readZones_of_left :
    ∀ (zones : List (Nat × Nat × Nat)) {bs : BitStream} {r : List Bool},
      bs.left = bitsOf (zones.flatMap zoneBytes) ++ r →
        readZones bs zones.length = some (zones.map narrow)
  | [], _, _, _ => rfl
  | (mapID, cloneID, instanceID) :: zones, bs, r, h => by
    simp only [List.flatMap_cons, zoneBytes, bitsOf_append, List.append_assoc] at h
    obtain ⟨_, e₁, h₁⟩ := readField_toListLE (by decide) h
    obtain ⟨_, e₂, h₂⟩ := readField_toListLE (by decide) h₁
    obtain ⟨_, e₃, h₃⟩ := readField_toListLE (by decide) h₂
    simp only [List.length_cons, readZones, e₁, e₂, e₃, readZones_of_left zones h₃,
      Option.bind_eq_bind, Option.some_bind, List.map_cons]
    rfl

/-- **`NEW_SESSION_ALERT` reads back.** After any 8-byte header, and whatever follows, a
peer reads the session key modulo 2^32 and the username, when the username has fewer
than 2^32 characters and each is a byte. -/
theorem readNewSessionAlert_payload (hdr rest : List UInt8) (hh : hdr.length = 8)
    (sessionKey : Nat) (username : String) (hlen : username.length < 2 ^ 32)
    (hc : ∀ ch ∈ username.toList, ch.toNat < 256) :
    readNewSessionAlert (hdr ++ newSessionAlertPayload sessionKey username ++ rest) =
      some (sessionKey % 2 ^ 32, username) := by
  set data := hdr ++ newSessionAlertPayload sessionKey username ++ rest with hdata
  have h : (header data).left = bitsOf (newSessionAlertPayload sessionKey username ++ rest) := by
    rw [header_left (by simp [data, hh]), hdata, List.append_assoc, List.drop_left' hh]
  clear_value data
  simp only [newSessionAlertPayload, bitsOf_append, List.append_assoc] at h
  obtain ⟨_, e₁, h₁⟩ := readField_toListLE (by decide) h
  obtain ⟨_, e₂, h₂⟩ := readField_toListLE (by decide) h₁
  have hb : (stringBytes username).length = username.length := List.length_map _ _
  have e₃ := readBytes_of_left _ h₂
  rw [hb] at e₃
  have hchars : (stringBytes username).map (fun b => Char.ofNat b.toNat) = username.toList := by
    rw [stringBytes, List.map_map]
    refine (List.map_congr_left fun ch hch => ?_).trans (List.map_id _)
    simp only [Function.comp_apply, toNat_toUInt8, Nat.mod_eq_of_lt (hc ch hch),
      Char.ofNat_toNat, id_eq]
  simp only [readNewSessionAlert, e₁, e₂, Nat.mod_eq_of_lt (show username.length < 256 ^ 4 from hlen),
    e₃, hchars, Option.bind_eq_bind, Option.some_bind]
  rfl

/-- The alert that displaces a session of "alice" for the key 100. -/
theorem readNewSessionAlert_alice :
    readNewSessionAlert ([0, 0, 0, 0, 0, 0, 0, 0] ++ newSessionAlertPayload 100 "alice" ++ []) =
      some (100 % 2 ^ 32, "alice") :=
  readNewSessionAlert_payload [0, 0, 0, 0, 0, 0, 0, 0] [] rfl 100 "alice" (by decide) (by decide)

/-- **What the holder of a displaced session reads.** In every state, `SET_SESSION_KEY`
appends at most one effect, the `NEW_SESSION_ALERT` broadcast of a displaced session, and its
bytes, after any 8-byte header, read back as the new key modulo 2^32 and the username, when
the username has fewer than 2^32 characters and each is a byte. -/
theorem setSessionKey_alert_reads_back (s : Master) (sessionKey : Nat) (username : String)
    (hlen : username.length < 2 ^ 32) (hc : ∀ ch ∈ username.toList, ch.toNat < 256)
    (hdr rest : List UInt8) (hh : hdr.length = 8) :
    ∃ es, (setSessionKey s sessionKey username).effects = s.effects ++ es ∧ es.length ≤ 1 ∧
      ∀ k u, Effect.broadcast (.newSessionAlert k u) ∈ es →
        readNewSessionAlert (hdr ++ newSessionAlertPayload k u ++ rest) =
          some (sessionKey % 2 ^ 32, username) := by
  unfold setSessionKey displaceSession
  split
  · refine ⟨_, rfl, le_rfl, fun k u he => ?_⟩
    obtain ⟨rfl, rfl⟩ : k = sessionKey ∧ u = username := by simpa using he
    exact readNewSessionAlert_payload hdr rest hh k u hlen hc
  · exact ⟨[], by simp, by simp, fun _ _ h => nomatch h⟩

/-- **`RESPOND_INSTANCES` reads back.** After any 8-byte header, and whatever follows, a
peer reads the object id and every instance narrowed, in order, when fewer than 2^32
instances are listed. -/
theorem readRespondInstances_payload (hdr rest : List UInt8) (hh : hdr.length = 8)
    (objectID : UInt64) (zones : List (Nat × Nat × Nat)) (hn : zones.length < 2 ^ 32) :
    readRespondInstances (hdr ++ respondInstancesPayload objectID zones ++ rest) =
      some (objectID, zones.map narrow) := by
  set data := hdr ++ respondInstancesPayload objectID zones ++ rest with hdata
  have h : (header data).left = bitsOf (respondInstancesPayload objectID zones ++ rest) := by
    rw [header_left (by simp [data, hh]), hdata, List.append_assoc, List.drop_left' hh]
  clear_value data
  simp only [respondInstancesPayload, bitsOf_append, List.append_assoc] at h
  obtain ⟨_, e₁, h₁⟩ := readField_toListLE (by decide) h
  obtain ⟨_, e₂, h₂⟩ := readField_toListLE (by decide) h₁
  have e₃ := readZones_of_left zones h₂
  simp only [readRespondInstances, e₁, e₂, Nat.mod_eq_of_lt (show zones.length < 256 ^ 4 from hn),
    Nat.mod_eq_of_lt (show objectID.toNat < 256 ^ 8 from objectID.val.isLt), e₃,
    toUInt64_toNat, Option.bind_eq_bind, Option.some_bind]
  rfl

/-- **What the responder of `GET_INSTANCES` reads.** In every state, `GET_INSTANCES`
whose responding zone and instance are registered sends that instance one reply, and its
bytes, after any 8-byte header, read back as the object id and the narrowed ids of the
instances of the asked map (of every instance when no map is asked), in the registry's
order, while fewer than 2^32 instances are registered. -/
theorem getInstances_reads_back (s : Master) (objectID : UInt64) (zoneID : Option Nat)
    (respondingZoneID respondingInstanceID : Nat) {r : Instance}
    (hr : findInstance s respondingZoneID respondingInstanceID = some r)
    (hn : s.instances.length < 2 ^ 32) (hdr rest : List UInt8) (hh : hdr.length = 8) :
    ∃ zones, (getInstances s objectID zoneID respondingZoneID respondingInstanceID).effects =
        s.effects ++ [.send r.sysAddr (.respondInstances objectID zones)] ∧
      readRespondInstances (hdr ++ respondInstancesPayload objectID zones ++ rest) =
        some (objectID, ((zoneID.map (findInstancesByMapID s)).getD s.instances).map
          fun i => narrow (i.mapID, i.cloneID, i.instanceID)) := by
  let listed := (zoneID.map (findInstancesByMapID s)).getD s.instances
  have hlen : listed.length < 2 ^ 32 := by
    cases zoneID
    · exact hn
    · exact lt_of_le_of_lt (List.length_filter_le _ _) hn
  refine ⟨listed.map fun i => (i.mapID, i.cloneID, i.instanceID), ?_, ?_⟩
  · simp only [getInstances, hr]
    cases zoneID <;> rfl
  · rw [readRespondInstances_payload hdr rest hh objectID _ (by rwa [List.length_map]),
      List.map_map]
    rfl

/-- `GET_INSTANCES` for every map, answered to the prestarted instance of zone 0. -/
theorem getInstances_reads_back_prestarted :
    let r : Instance := { newInstance 0 "" 1 0 1 0 12 12 with ready := true }
    ∃ zones, (getInstances (startup "" true) 5 none 0 1).effects =
        (startup "" true).effects ++ [.send r.sysAddr (.respondInstances 5 zones)] ∧
      readRespondInstances ([0, 0, 0, 0, 0, 0, 0, 0] ++ respondInstancesPayload 5 zones ++ []) =
        some (5, (((none : Option Nat).map (findInstancesByMapID (startup "" true))).getD
          (startup "" true).instances).map fun i => narrow (i.mapID, i.cloneID, i.instanceID)) :=
  getInstances_reads_back (startup "" true) 5 none 0 1 rfl (by decide) [0, 0, 0, 0, 0, 0, 0, 0] [] rfl

end MasterServer.Reply
