import MasterServer.Decode

/-!
# Private zones

`MSG_MASTER_CREATE_PRIVATE_ZONE` and `MSG_MASTER_REQUEST_PRIVATE_ZONE` (lines 590-647)
read a `uint32_t` length and then one `char` per iteration of a loop that counts to it,
whether the packet holds that many bytes or not. The password they build reaches the
instance manager through `c_str()`, which ends it at its first NUL.
-/

namespace MasterServer.PrivateZones

open BitStream

section Loop

variable (j : Junk)

/-- With no byte left, every read of the loop fails, and each iteration appends the junk
of its uninitialized `character`. -/
theorem readPassword_of_exhausted {bs : BitStream} (h : bs.bits.length < bs.readOffset + 8) :
    ∀ n i, readPassword j n i bs = ((List.range' i n).map fun k => (j.char k).toUInt8, bs)
  | 0, _ => rfl
  | n + 1, i => by
    simp [readPassword, readInto_of_lt _ (show bs.bits.length < bs.readOffset + 8 * 1 by omega),
      readPassword_of_exhausted h n (i + 1), List.range'_succ]

/-- The loop from byte `q` of the packet, `n` iterations from counter `i`: the bytes the
packet still holds, as many as it runs for, then the junk of one `character` for each
iteration past the end. -/
theorem readPassword_run {data : List UInt8} :
    ∀ n i q, q ≤ data.length →
      (readPassword j n i ⟨bitsOf data, 8 * q⟩).1 = (data.drop q).take n ++
        (List.range' (i + (data.length - q)) (n - (data.length - q))).map
          fun k => (j.char k).toUInt8
  | 0, _, _, _ => by simp [readPassword]
  | n + 1, i, q, h => by
    rcases Nat.lt_or_ge q data.length with hq | hq
    · have hr := readPassword_run n (i + 1) (q + 1) hq
      rw [show i + 1 + (data.length - (q + 1)) = i + (data.length - q) by omega,
        show n - (data.length - (q + 1)) = n + 1 - (data.length - q) by omega] at hr
      simp only [readPassword, readInto_aligned _ (show q + 1 ≤ data.length by omega), hr,
        List.drop_eq_getElem_cons hq, List.take_succ_cons, List.take_zero, ofListLE_cons,
        ofListLE_nil, mul_zero, add_zero, toUInt8_toNat, List.cons_append]
    · rw [readPassword_of_exhausted j (by simp; omega)]
      simp [List.drop_eq_nil_of_le hq, show data.length - q = 0 by omega]

end Loop

/-- `CREATE_PRIVATE_ZONE` on every packet that holds its header and its three fields: map
and clone are the values sent, and the password is the bytes after the prefix, as many
as the prefix says and the packet holds, then the junk of one `character` for each
iteration past the end. -/
theorem decodeKind_createPrivateZone (c : Codes) (j : Junk) {hdr m cl lb tail : List UInt8}
    (hh : hdr.length = 8) (hm : m.length = 4) (hc : cl.length = 4) (hl : lb.length = 4) :
    decodeKind c j (hdr ++ m ++ cl ++ lb ++ tail) .createPrivateZone =
      .createPrivateZone (ofListLE m).toUInt32 (ofListLE cl).toUInt32
        (tail.take (ofListLE lb) ++ (List.range' tail.length (ofListLE lb - tail.length)).map
          fun k => (j.char k).toUInt8) := by
  have hlt : ofListLE lb < 2 ^ 32 := lt_of_lt_of_eq (ofListLE_lt lb) (by rw [hl]; rfl)
  generalize hd : hdr ++ m ++ cl ++ lb ++ tail = data
  have hlen : data.length = 8 + 4 + 4 + 4 + tail.length := by
    subst hd; simp [hh, hm, hc, hl]; omega
  have h8 : data.drop 8 = m ++ (cl ++ (lb ++ tail)) := by
    subst hd; simp only [List.append_assoc]; exact List.drop_left' hh
  have h12 : data.drop (8 + 4) = cl ++ (lb ++ tail) := by
    rw [← List.drop_drop, h8, List.drop_left' hm]
  have h16 : data.drop (8 + 4 + 4) = lb ++ tail := by
    rw [← List.drop_drop, h12, List.drop_left' hc]
  have h20 : data.drop (8 + 4 + 4 + 4) = tail := by
    rw [← List.drop_drop, h16, List.drop_left' hl]
  delta decodeKind
  simp only [header_of_le (show 8 ≤ data.length by omega),
    readInto_aligned _ (show 8 + 4 ≤ data.length by omega),
    readInto_aligned _ (show 8 + 4 + 4 ≤ data.length by omega),
    readInto_aligned _ (show 8 + 4 + 4 + 4 ≤ data.length by omega)]
  rw [h8, h12, h16, List.take_left' hm, List.take_left' hc, List.take_left' hl,
    Nat.mod_eq_of_lt hlt, readPassword_run j _ 0 _ (by omega), h20, hlen, Nat.add_sub_cancel_left,
    Nat.zero_add]

/-- `REQUEST_PRIVATE_ZONE` on every packet that holds its header and its three fields, with
the password as in `decodeKind_createPrivateZone`. -/
theorem decodeKind_requestPrivateZone (c : Codes) (j : Junk) {hdr r lb tail : List UInt8}
    (ms : UInt8) (hh : hdr.length = 8) (hr : r.length = 8) (hl : lb.length = 4) :
    decodeKind c j (hdr ++ r ++ [ms] ++ lb ++ tail) .requestPrivateZone =
      .requestPrivateZone (ofListLE r).toUInt64 ms
        (tail.take (ofListLE lb) ++ (List.range' tail.length (ofListLE lb - tail.length)).map
          fun k => (j.char k).toUInt8) := by
  have hlt : ofListLE lb < 2 ^ 32 := lt_of_lt_of_eq (ofListLE_lt lb) (by rw [hl]; rfl)
  generalize hd : hdr ++ r ++ [ms] ++ lb ++ tail = data
  have hlen : data.length = 8 + 8 + 1 + 4 + tail.length := by
    subst hd; simp [hh, hr, hl]; omega
  have h8 : data.drop 8 = r ++ ([ms] ++ (lb ++ tail)) := by
    subst hd; simp only [List.append_assoc]; exact List.drop_left' hh
  have h16 : data.drop (8 + 8) = [ms] ++ (lb ++ tail) := by
    rw [← List.drop_drop, h8, List.drop_left' hr]
  have h17 : data.drop (8 + 8 + 1) = lb ++ tail := by
    rw [← List.drop_drop, h16]; rfl
  have h21 : data.drop (8 + 8 + 1 + 4) = tail := by
    rw [← List.drop_drop, h17, List.drop_left' hl]
  delta decodeKind
  simp only [header_of_le (show 8 ≤ data.length by omega),
    readInto_aligned _ (show 8 + 8 ≤ data.length by omega),
    readInto_aligned _ (show 8 + 8 + 1 ≤ data.length by omega),
    readInto_aligned _ (show 8 + 8 + 1 + 4 ≤ data.length by omega)]
  rw [h8, h16, h17, List.take_left' hr, show ([ms] ++ (lb ++ tail)).take 1 = [ms] from rfl,
    List.take_left' hl, Nat.mod_eq_of_lt hlt, readPassword_run j _ 0 _ (by omega), h21, hlen,
    Nat.add_sub_cancel_left, Nat.zero_add]
  simp

/-- A `CREATE_PRIVATE_ZONE` of 20 bytes whose length prefix reads `2 ^ 31`: no byte
follows the prefix, yet the loop runs `2 ^ 31` times, so its `int` counter goes past
`INT_MAX = 2 ^ 31 - 1`, and every character it appends is the junk of an uninitialized
`char`. -/
theorem createPrivateZone_loop_overruns (c : Codes) (j : Junk) (a : SysAddr)
    (b₀ b₂ b₄ b₅ b₆ b₇ : UInt8) :
    let p : RawPacket := ⟨a, [b₀, c.master, b₂, c.kind .createPrivateZone, b₄, b₅, b₆, b₇,
      0, 0, 0, 0, 0, 0, 0, 0, 0, 0, 0, 128]⟩
    let pw : List UInt8 := (List.range (2 ^ 31)).map fun k => (j.char k).toUInt8
    (decodePacket c j p).master = some (.createPrivateZone 0 0 pw) ∧
      (p.data.drop 20).length = 0 ∧ 2 ^ 31 - 1 < pw.length := by
  refine ⟨?_, rfl, by simp⟩
  show (if c.master = c.master then some (decodeMaster c j _ (c.kind .createPrivateZone))
    else none) = _
  rw [if_pos rfl, decodeMaster, Codes.kindOf?_kind]
  have h0 : ofListLE [0, 0, 0, 0] = 0 := rfl
  have hv : ofListLE [0, 0, 0, 128] = 2 ^ 31 := rfl
  have h := @decodeKind_createPrivateZone c j [b₀, c.master, b₂, c.kind .createPrivateZone, b₄,
    b₅, b₆, b₇] [0, 0, 0, 0] [0, 0, 0, 0] [0, 0, 0, 128] [] rfl rfl rfl rfl
  rw [h0, hv, List.take_nil, List.nil_append, List.length_nil, Nat.sub_zero,
    ← List.range_eq_range'] at h
  exact congrArg some h

/-- After `CREATE_PRIVATE_ZONE` with password `p`, the lookup `REQUEST_PRIVATE_ZONE` makes
with password `q` finds the created instance exactly when `p` and `q` agree up to their
first NUL, as long as no instance before it had `q`'s cut as its password. -/
theorem createPrivateZone_found_iff (s : Master) (a : SysAddr) (mapId cloneId : UInt32)
    (p q : List UInt8) (hq : findPrivateInstance s (cStr q) = none) :
    let s' : Master := handleMasterMessage s a (.createPrivateZone mapId cloneId p)
    (findPrivateInstance s' (cStr q)).map (·.handle) = some s.nextHandle ↔ cStr q = cStr p := by
  show ((s.instances ++ [_]).find? _).map _ = _ ↔ _
  rw [List.find?_append, show s.instances.find? _ = none from hq]
  by_cases h : cStr q = cStr p
  · simp [newInstance, h]
  · simp [newInstance, h, Ne.symm h]

/-- A private zone created with the password bytes `61 00 78` ("a\0x") is opened by a
request with `61 00 79` ("a\0y"): the decoder hands each handler the three bytes its
packet carries after the prefix, and both reach the instance manager cut to "a". -/
theorem privateZone_opened_by_other_password :
    let s : Master := handlePacket (startup "10.0.0.1" false)
      ⟨⟨7, 7⟩, none, some (.createPrivateZone 1200 0 [97, 0, 120])⟩
    let s' : Master := handlePacket s
      ⟨⟨8, 8⟩, none, some (.requestPrivateZone 9 0 [97, 0, 121])⟩
    (∀ (c : Codes) (j : Junk) (hdr : List UInt8), hdr.length = 8 →
      decodeKind c j (hdr ++ [176, 4, 0, 0] ++ [0, 0, 0, 0] ++ [3, 0, 0, 0] ++ [97, 0, 120])
          .createPrivateZone = .createPrivateZone 1200 0 [97, 0, 120] ∧
        decodeKind c j (hdr ++ [9, 0, 0, 0, 0, 0, 0, 0] ++ [0] ++ [3, 0, 0, 0] ++ [97, 0, 121])
          .requestPrivateZone = .requestPrivateZone 9 0 [97, 0, 121]) ∧
      Reachable s' ∧ s'.effects = s.effects ++
        [.send ⟨8, 8⟩ (.zoneTransferResponse 9 false 1200 1 0 "10.0.0.1" 1)] := by
  refine ⟨fun c j hdr hh => ⟨?_, ?_⟩, .step (.step (.startup _ _) (.dispatch _ _)) (.dispatch _ _),
    by decide⟩
  · rw [@decodeKind_createPrivateZone c j hdr [176, 4, 0, 0] [0, 0, 0, 0] [3, 0, 0, 0]
      [97, 0, 120] hh rfl rfl rfl]
    rfl
  · rw [@decodeKind_requestPrivateZone c j hdr [9, 0, 0, 0, 0, 0, 0, 0] [3, 0, 0, 0]
      [97, 0, 121] 0 hh rfl rfl]
    rfl

end MasterServer.PrivateZones
