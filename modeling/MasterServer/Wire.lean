import MasterServer.HandlePacket
import Mathlib.Tactic.Ring

/-!
# Packets on the wire

`HandlePacket` tests `data[0]` against RakNet's transport events, `data[1]` against the
`MASTER` subsystem and switches on `data[3]`; each case reads its fields with a
`RakNet::BitStream` after the 8-byte header. None of these is under `src/`: the codes are
parameters, the reads follow the spec (§6) and `BitStream`, and what the packet does not
determine comes from a `Junk` oracle.
-/

namespace MasterServer

/-- The kinds of master message the `switch` of `HandlePacket` names, in its order. -/
inductive MasterKind where
  | requestPersistentID | requestZoneTransfer | serverInfo | setSessionKey
  | requestSessionKey | playerAdded | playerRemoved | createPrivateZone
  | requestPrivateZone | worldReady | prepZone | affirmTransferResponse
  | shutdownResponse | shutdownUniverse | shutdownInstance | getInstances
  deriving DecidableEq, Repr

/-- Every kind, in the order of the `switch`. -/
def MasterKind.all : List MasterKind :=
  [.requestPersistentID, .requestZoneTransfer, .serverInfo, .setSessionKey,
    .requestSessionKey, .playerAdded, .playerRemoved, .createPrivateZone,
    .requestPrivateZone, .worldReady, .prepZone, .affirmTransferResponse,
    .shutdownResponse, .shutdownUniverse, .shutdownInstance, .getInstances]

theorem MasterKind.mem_all (k : MasterKind) : k ∈ MasterKind.all := by
  cases k <;> decide

/-- Every `ServerType`. -/
def ServerType.all : List ServerType := [.master, .auth, .chat, .world]

theorem ServerType.mem_all (t : ServerType) : t ∈ ServerType.all := by
  cases t <;> decide

/-- Searching a list for what an injective code gives `a` finds `a`. -/
theorem find?_code {α β : Type} [DecidableEq β] {f : α → β} (hf : Function.Injective f)
    {a : α} : ∀ {l : List α}, a ∈ l → l.find? (f · = f a) = some a
  | b :: l, hl => by
    by_cases hb : b = a
    · simp [hb]
    · have hne : f b ≠ f a := fun h => hb (hf h)
      simp [hne, find?_code hf (List.mem_of_ne_of_mem (Ne.symm hb) hl)]

/-- The numbers `HandlePacket` compares against, defined in headers that are not under
`src/`: RakNet's two transport events, the `MASTER` subsystem, the code of each master
message, the `ServerType` values and `LWOMAPID_INVALID`. Case labels of one `switch`
are distinct, as C++ requires, and so are the enumerators of `ServerType`. -/
structure Codes where
  disconnectionNotification : UInt8
  connectionLost : UInt8
  master : UInt8
  kind : MasterKind → UInt8
  serverType : ServerType → UInt32
  invalidMapID : UInt16
  transport_ne : disconnectionNotification ≠ connectionLost
  kind_injective : Function.Injective kind
  serverType_injective : Function.Injective serverType

namespace Codes

variable (c : Codes)

/-- The case of the `switch` a kind byte selects, if any. -/
def kindOf? (b : UInt8) : Option MasterKind := MasterKind.all.find? (c.kind · = b)

@[simp] theorem kindOf?_kind (k : MasterKind) : c.kindOf? (c.kind k) = some k :=
  find?_code c.kind_injective (MasterKind.mem_all k)

/-- A `ServerType` as `SERVER_INFO` carries it. A value that is none of the enumerators
is one the handler treats as it treats `Master`: it compares only with `World` and
`Chat`. -/
def serverTypeOf (v : UInt32) : ServerType :=
  (ServerType.all.find? (c.serverType · = v)).getD .master

@[simp] theorem serverTypeOf_serverType (t : ServerType) :
    c.serverTypeOf (c.serverType t) = t := by
  rw [serverTypeOf, find?_code c.serverType_injective (ServerType.mem_all t)]
  rfl

end Codes

/-- RakNet's `Packet` as `HandlePacket` reads it: the sender and the bytes of `data`,
`length` of them. -/
structure RawPacket where
  systemAddress : SysAddr
  data : List UInt8
  deriving DecidableEq, Repr

/-- What the code reads that the packet does not determine: the bytes after the end of
`data` (by index), the initial value of the `n`-th local a case declares without
initializer, and the `char` of the `i`-th iteration of a password loop. -/
structure Junk where
  past : Nat → UInt8
  uninit : Nat → Nat
  char : Nat → Nat

/-- `packet->data[i]`: a byte of the packet, or past its end the byte after the buffer. -/
def RawPacket.byte (p : RawPacket) (j : Junk) (i : Nat) : UInt8 := p.data.getD i (j.past i)

/-- The bits of a byte, most significant first, as `BitStream` numbers them. -/
def byteBits (b : UInt8) : List Bool := (List.range 8).reverse.map b.toNat.testBit

@[simp] theorem byteBits_length (b : UInt8) : (byteBits b).length = 8 := by
  simp [byteBits]

/-- The bits of a byte list. -/
def bitsOf (data : List UInt8) : List Bool := data.flatMap byteBits

@[simp] theorem bitsOf_nil : bitsOf [] = [] := rfl

@[simp] theorem bitsOf_cons (b : UInt8) (data : List UInt8) :
    bitsOf (b :: data) = byteBits b ++ bitsOf data := rfl

@[simp] theorem bitsOf_append (a b : List UInt8) : bitsOf (a ++ b) = bitsOf a ++ bitsOf b :=
  List.flatMap_append ..

@[simp] theorem bitsOf_length (data : List UInt8) : (bitsOf data).length = 8 * data.length := by
  induction data with
  | nil => rfl
  | cons b data ih => simp [ih]; omega

/-- Dropping whole bytes of bits drops the bytes. -/
theorem bitsOf_drop (data : List UInt8) (n : Nat) :
    (bitsOf data).drop (8 * n) = bitsOf (data.drop n) := by
  induction data generalizing n with
  | nil => simp
  | cons b data ih =>
    cases n with
    | zero => rfl
    | succ n =>
      rw [bitsOf_cons, show 8 * (n + 1) = 8 + 8 * n by omega, ← List.drop_drop,
        List.drop_left' (byteBits_length b), ih]
      rfl

/-- The number the bits of a byte stand for, most significant first. -/
def bitsValue (l : List Bool) : Nat := l.foldl (fun acc b => 2 * acc + b.toNat) 0

/-- `k` bytes of bits as `Read` assembles them on a little-endian host: the first byte
is the least significant. -/
def leValue (bits : List Bool) : Nat → Nat
  | 0 => 0
  | k + 1 => bitsValue (bits.take 8) + 256 * leValue (bits.drop 8) k

/-- The little-endian value of a byte list. -/
def ofListLE : List UInt8 → Nat
  | [] => 0
  | b :: l => b.toNat + 256 * ofListLE l

@[simp] theorem ofListLE_nil : ofListLE [] = 0 := rfl

@[simp] theorem ofListLE_cons (b : UInt8) (l : List UInt8) :
    ofListLE (b :: l) = b.toNat + 256 * ofListLE l := rfl

theorem ofListLE_lt (l : List UInt8) : ofListLE l < 256 ^ l.length := by
  induction l with
  | nil => simp
  | cons b l ih =>
    have hb : b.toNat < 256 := b.val.isLt
    rw [ofListLE_cons, List.length_cons, Nat.pow_succ]
    omega

@[simp] theorem toUInt8_toNat (b : UInt8) : b.toNat.toUInt8 = b := by
  apply UInt8.eq_of_val_eq
  simp [Nat.toUInt8, UInt8.ofNat, UInt8.toNat]

theorem foldl_bitsValue (acc : Nat) (l : List Bool) :
    l.foldl (fun a b => 2 * a + b.toNat) acc = acc * 2 ^ l.length + bitsValue l := by
  induction l generalizing acc with
  | nil => simp [bitsValue]
  | cons b l ih =>
    simp only [bitsValue, List.foldl_cons, ih (2 * acc + b.toNat), ih (2 * 0 + b.toNat),
      List.length_cons, Nat.pow_succ]
    ring

theorem bitsValue_cons (b : Bool) (l : List Bool) :
    bitsValue (b :: l) = b.toNat * 2 ^ l.length + bitsValue l := by
  rw [bitsValue, List.foldl_cons, foldl_bitsValue]; simp

/-- The low `w` bits of `n`, most significant first, stand for `n` modulo `2 ^ w`. -/
theorem bitsValue_testBit (n w : Nat) :
    bitsValue ((List.range w).reverse.map n.testBit) = n % 2 ^ w := by
  induction w with
  | zero => simp [bitsValue, Nat.mod_one]
  | succ w ih =>
    rw [List.range_succ, List.reverse_append, List.reverse_singleton, List.singleton_append,
      List.map_cons, bitsValue_cons, ih, List.length_map, List.length_reverse, List.length_range,
      Nat.mod_pow_succ, Nat.testBit_to_div_mod]
    rcases Nat.mod_two_eq_zero_or_one (n / 2 ^ w) with h | h <;> simp [h]
    ring

@[simp] theorem bitsValue_byteBits (b : UInt8) : bitsValue (byteBits b) = b.toNat := by
  rw [byteBits, bitsValue_testBit]
  exact Nat.mod_eq_of_lt b.val.isLt

/-- Read back `Read`'s way, the bits of a byte list give its little-endian value,
whatever follows them. -/
theorem leValue_bitsOf (l : List UInt8) (rest : List Bool) :
    leValue (bitsOf l ++ rest) l.length = ofListLE l := by
  induction l with
  | nil => rfl
  | cons b l ih =>
    simp only [bitsOf_cons, List.append_assoc, List.length_cons, leValue, ofListLE,
      List.take_left' (byteBits_length b), List.drop_left' (byteBits_length b), ih,
      bitsValue_byteBits]

theorem byteBits_injective : Function.Injective byteBits := fun a b h =>
  UInt8.toNat.inj (by rw [← bitsValue_byteBits a, h, bitsValue_byteBits])

/-- Bits that begin with the bits of `Q` come from bytes that begin with `Q`. -/
theorem bitsOf_eq_append {Q : List UInt8} {r : List Bool} :
    ∀ {d : List UInt8}, bitsOf d = bitsOf Q ++ r → ∃ d', d = Q ++ d' := by
  induction Q with
  | nil => exact fun _ => ⟨_, rfl⟩
  | cons q Q ih =>
    intro d h
    match d, h with
    | [], h =>
      have := congrArg List.length h
      simp at this; omega
    | e :: d, h =>
      rw [bitsOf_cons, bitsOf_cons, List.append_assoc] at h
      obtain ⟨he, hd⟩ := List.append_inj h (by simp)
      obtain ⟨d', rfl⟩ := ih hd
      exact ⟨d', by rw [byteBits_injective he]; rfl⟩

/-- The `k` bytes of `v`, least significant first, as `Write` puts a value on the wire. -/
def toListLE (v : Nat) : Nat → List UInt8
  | 0 => []
  | k + 1 => (v % 256).toUInt8 :: toListLE (v / 256) k

@[simp] theorem toListLE_length (v k : Nat) : (toListLE v k).length = k := by
  induction k generalizing v <;> simp [toListLE, *]

@[simp] theorem toNat_toUInt8 (n : Nat) : n.toUInt8.toNat = n % 256 := by
  simp [Nat.toUInt8, UInt8.toNat, UInt8.ofNat, Fin.ofNat]

theorem ofListLE_toListLE (v k : Nat) : ofListLE (toListLE v k) = v % 256 ^ k := by
  induction k generalizing v with
  | zero => simp [toListLE, Nat.mod_one]
  | succ k ih => rw [toListLE, ofListLE_cons, ih, Nat.pow_succ', Nat.mod_mul, toNat_toUInt8,
      Nat.mod_mod]

@[simp] theorem toUInt16_toNat (v : UInt16) : v.toNat.toUInt16 = v := by
  apply UInt16.eq_of_val_eq
  simp [Nat.toUInt16, UInt16.ofNat, UInt16.toNat]

@[simp] theorem toUInt32_toNat (v : UInt32) : v.toNat.toUInt32 = v := by
  apply UInt32.eq_of_val_eq
  simp [Nat.toUInt32, UInt32.ofNat, UInt32.toNat]

@[simp] theorem toUInt64_toNat (v : UInt64) : v.toNat.toUInt64 = v := by
  apply UInt64.eq_of_val_eq
  simp [Nat.toUInt64, UInt64.ofNat, UInt64.toNat]

/-- Each field width reads back the value written in it. -/
@[simp] theorem ofListLE_toListLE_u8 (v : UInt8) :
    (ofListLE (toListLE v.toNat 1)).toUInt8 = v := by
  rw [ofListLE_toListLE, Nat.mod_eq_of_lt (show v.toNat < 256 ^ 1 from v.val.isLt), toUInt8_toNat]

@[simp] theorem ofListLE_toListLE_u16 (v : UInt16) :
    (ofListLE (toListLE v.toNat 2)).toUInt16 = v := by
  rw [ofListLE_toListLE, Nat.mod_eq_of_lt (show v.toNat < 256 ^ 2 from v.val.isLt), toUInt16_toNat]

@[simp] theorem ofListLE_toListLE_u32 (v : UInt32) :
    (ofListLE (toListLE v.toNat 4)).toUInt32 = v := by
  rw [ofListLE_toListLE, Nat.mod_eq_of_lt (show v.toNat < 256 ^ 4 from v.val.isLt), toUInt32_toNat]

@[simp] theorem ofListLE_toListLE_u64 (v : UInt64) :
    (ofListLE (toListLE v.toNat 8)).toUInt64 = v := by
  rw [ofListLE_toListLE, Nat.mod_eq_of_lt (show v.toNat < 256 ^ 8 from v.val.isLt), toUInt64_toNat]

/-- `RakNet::BitStream` reading a packet in place: the bits of its bytes and the read
offset in bits. -/
structure BitStream where
  bits : List Bool
  readOffset : Nat

namespace BitStream

/-- `BitStream(packet->data, packet->length, false)`. -/
def ofData (data : List UInt8) : BitStream := ⟨bitsOf data, 0⟩

/-- `Read` of a `k`-byte value: with fewer than `8 k` bits left it fails and moves
nothing; otherwise it returns the `k` bytes at the read offset and moves past them. -/
def read (bs : BitStream) (k : Nat) : Option Nat × BitStream :=
  if bs.readOffset + 8 * k ≤ bs.bits.length then
    (some (leValue (bs.bits.drop bs.readOffset) k), { bs with readOffset := bs.readOffset + 8 * k })
  else (none, bs)

/-- `Read` into a variable holding `x`: a failed read leaves `x` in it. -/
def readInto (bs : BitStream) (k x : Nat) : Nat × BitStream :=
  let (r, bs) := bs.read k
  (r.getD x, bs)

/-- `ReadBit`, which has no failure result: past the end of the packet it reads the bit of
the byte after the buffer. -/
def readBit (bs : BitStream) (j : Junk) : Bool × BitStream :=
  (bs.bits.getD bs.readOffset ((j.past (bs.readOffset / 8)).toNat.testBit (7 - bs.readOffset % 8)),
    { bs with readOffset := bs.readOffset + 1 })

/-- `uint64_t header = inStream.Read(header);`, the first read of every case. -/
def header (data : List UInt8) : BitStream := ((ofData data).read 8).2

variable {bs : BitStream} {k : Nat}

theorem read_of_le (h : bs.readOffset + 8 * k ≤ bs.bits.length) :
    bs.read k = (some (leValue (bs.bits.drop bs.readOffset) k),
      { bs with readOffset := bs.readOffset + 8 * k }) := if_pos h

theorem read_of_lt (h : bs.bits.length < bs.readOffset + 8 * k) : bs.read k = (none, bs) :=
  if_neg (Nat.not_le.mpr h)

theorem readInto_of_le (x : Nat) (h : bs.readOffset + 8 * k ≤ bs.bits.length) :
    bs.readInto k x = (leValue (bs.bits.drop bs.readOffset) k,
      { bs with readOffset := bs.readOffset + 8 * k }) := by
  simp [readInto, read_of_le h]

theorem readInto_of_lt (x : Nat) (h : bs.bits.length < bs.readOffset + 8 * k) :
    bs.readInto k x = (x, bs) := by
  simp [readInto, read_of_lt h]

/-- The bits after the read offset. -/
def left (bs : BitStream) : List Bool := bs.bits.drop bs.readOffset

/-- A `Read` whose bits are all there returns the value of the bytes they spell. -/
theorem readInto_of_left {f : List UInt8} {r : List Bool} (h : bs.left = bitsOf f ++ r)
    (hf : 0 < f.length) (x : Nat) : bs.readInto f.length x =
      (ofListLE f, { bs with readOffset := bs.readOffset + 8 * f.length }) := by
  have hl := congrArg List.length h
  simp only [left, List.length_drop, List.length_append, bitsOf_length] at hl
  rw [readInto_of_le x (by omega), show bs.bits.drop bs.readOffset = _ from h, leValue_bitsOf]

theorem left_skip {f : List UInt8} {r : List Bool} (h : bs.left = bitsOf f ++ r) :
    ({ bs with readOffset := bs.readOffset + 8 * f.length } : BitStream).left = r := by
  show bs.bits.drop (bs.readOffset + 8 * f.length) = r
  rw [← List.drop_drop, show bs.bits.drop bs.readOffset = _ from h,
    List.drop_left' (bitsOf_length f)]

/-- The read of a field written by `toListLE`, in the form decoders chain: after it, the
bits left are what followed the field. -/
theorem readInto_toListLE {v : Nat} {r : List Bool} (hk : 0 < k)
    (h : bs.left = bitsOf (toListLE v k) ++ r) (x : Nat) :
    ∃ bs', bs.readInto k x = (ofListLE (toListLE v k), bs') ∧ bs'.left = r := by
  have e := readInto_of_left h (by simpa using hk) x
  rw [toListLE_length] at e
  exact ⟨_, e, toListLE_length v k ▸ left_skip h⟩

/-- `ReadBit` with a bit left returns it. -/
theorem readBit_left {b : Bool} {r : List Bool} (h : bs.left = b :: r) (j : Junk) :
    ∃ bs', bs.readBit j = (b, bs') ∧ bs'.left = r := by
  have hb : bs.bits[bs.readOffset]? = some b := by
    rw [← List.head?_drop, show bs.bits.drop bs.readOffset = _ from h]; rfl
  refine ⟨{ bs with readOffset := bs.readOffset + 1 }, ?_, ?_⟩
  · simp [readBit, List.getD_eq_getElem?_getD, hb]
  · show bs.bits.drop (bs.readOffset + 1) = r
    rw [← List.drop_drop, show bs.bits.drop bs.readOffset = _ from h]; rfl

/-- A read at a byte boundary returns the little-endian value of the next `k` bytes. -/
theorem readInto_aligned {data : List UInt8} {q k : Nat} (x : Nat) (hq : q + k ≤ data.length) :
    (⟨bitsOf data, 8 * q⟩ : BitStream).readInto k x =
      (ofListLE ((data.drop q).take k), ⟨bitsOf data, 8 * (q + k)⟩) := by
  have hl : ((data.drop q).take k).length = k := by
    rw [List.length_take, List.length_drop]; omega
  have h := leValue_bitsOf ((data.drop q).take k) (bitsOf ((data.drop q).drop k))
  rw [← bitsOf_append, List.take_append_drop, hl] at h
  rw [readInto_of_le x (by show 8 * q + 8 * k ≤ (bitsOf data).length; rw [bitsOf_length]; omega),
    bitsOf_drop, h, Nat.mul_add]

/-- A read keeps the bits. -/
theorem read_bits (bs : BitStream) (k : Nat) : (bs.read k).2.bits = bs.bits := by
  unfold read; split <;> rfl

@[simp] theorem header_bits (data : List UInt8) : (header data).bits = bitsOf data :=
  read_bits _ 8

theorem header_of_le {data : List UInt8} (h : 8 ≤ data.length) :
    header data = ⟨bitsOf data, 8 * 8⟩ := by
  rw [header, ofData, read_of_le (by simp; omega)]

theorem header_left {data : List UInt8} (h : 8 ≤ data.length) :
    (header data).left = bitsOf (data.drop 8) := by
  rw [header_of_le h]; exact bitsOf_drop data 8

/-- The header read leaves the offset after the first 8 bytes of a packet that has them,
and at 0 in a shorter one. -/
theorem header_readOffset (data : List UInt8) :
    (header data).readOffset = if 8 ≤ data.length then 64 else 0 := by
  unfold header read ofData
  split <;> split <;> simp_all <;> omega

end BitStream

/-- Modelled from the spec (§6, `string@n`): `PacketUtils::ReadString` (not under
`src/`) reads the bytes from offset `n` up to the first NUL or the end of the packet. -/
def readString (data : List UInt8) (offset : Nat) : String :=
  String.mk (((data.drop offset).takeWhile (· ≠ 0)).map fun b => Char.ofNat b.toNat)

/-- The characters a string can carry as bytes: bytes other than NUL. -/
def wireChars (s : String) : Bool := s.toList.all fun ch => 0 < ch.toNat && ch.toNat < 256

/-- The bytes of a string whose characters are bytes. -/
def stringBytes (s : String) : List UInt8 := s.toList.map fun ch => ch.toNat.toUInt8

/-- `ReadString` reads back a string written as its bytes and a NUL. -/
theorem readString_stringBytes {s : String} (hs : wireChars s = true) (pre rest : List UInt8) :
    readString (pre ++ stringBytes s ++ 0 :: rest) pre.length = s := by
  have hc : ∀ ch ∈ s.toList, 0 < ch.toNat ∧ ch.toNat < 256 := by simpa [wireChars] using hs
  have hnz : ∀ b ∈ stringBytes s, decide (b ≠ 0) = true := by
    simp only [stringBytes, List.mem_map, decide_eq_true_eq]
    rintro _ ⟨ch, hch, rfl⟩ h0
    have := congrArg UInt8.toNat h0
    simp only [toNat_toUInt8, Nat.mod_eq_of_lt (hc ch hch).2] at this
    exact absurd this (Nat.pos_iff_ne_zero.mp (hc ch hch).1)
  have hm : (s.toList.map fun ch => Char.ofNat ch.toNat.toUInt8.toNat) = s.toList := by
    conv_rhs => rw [← List.map_id s.toList]
    refine List.map_congr_left fun ch hch => ?_
    rw [toNat_toUInt8, Nat.mod_eq_of_lt (hc ch hch).2, Char.ofNat_toNat]; rfl
  rw [readString, List.append_assoc, List.drop_left' rfl, List.takeWhile_append_of_pos hnz]
  simp only [List.takeWhile_cons, ne_eq, not_true_eq_false, decide_False, Bool.false_eq_true,
    ↓reduceIte, List.append_nil, stringBytes, List.map_map, Function.comp_def, hm]
  rfl

end MasterServer
