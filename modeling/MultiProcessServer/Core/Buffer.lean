/-
  MultiProcessServer.Core.Buffer
  ──────────────────────────────
  `core/buffer/Buffer`: the receive buffer of every connection, a
  `std::string` with a read cursor, together with the capacity policy both
  stream decoders use when they push a received chunk into it.

  Capacities are decided by the string's allocator, so they are a parameter
  (`StringAlloc`) with the documented laws of `reserve` and `append`.
  The machine is little endian, as the `__LITTLE_ENDIAN` branch of
  `Socket.h` has it.
-/
import MultiProcessServer.Lib.Endian
import Mathlib.Data.List.TakeDrop

namespace MultiProcessServer

open Endian

/-! ## §1. `std::string` storage and byte order. -/

/-- What the allocator of `std::string` decides.  `reserve c n` and
`append c n` are the capacities after reserving `n`, and after an append
that makes the string `n` long, from capacity `c`.  `released b` is the
32-bit word a dangling reference into the released storage block number `b`
reads: nothing is promised about it. -/
structure StringAlloc where
  /-- Capacity of an empty `std::string`. -/
  initial : Nat
  reserve : Nat → Nat → Nat
  append : Nat → Nat → Nat
  released : Nat → UInt32
  le_reserve : ∀ c n, n ≤ reserve c n
  le_append : ∀ c n, n ≤ append c n
  reserve_grows : ∀ c n, c ≤ reserve c n
  append_grows : ∀ c n, c ≤ append c n
  reserve_keeps : ∀ c n, n ≤ c → reserve c n = c
  append_keeps : ∀ c n, n ≤ c → append c n = c

/-- `_M_create` of libstdc++: a string that has to grow at least doubles. -/
def libstdcxxGrow (c n : Nat) : Nat := if n ≤ c then c else max n (2 * c)

/-- libstdc++, whose empty string holds 15 characters in place. -/
def StringAlloc.libstdcxx : StringAlloc where
  initial := 15
  reserve := libstdcxxGrow
  append := libstdcxxGrow
  released := fun _ => 0
  le_reserve := by intro c n; unfold libstdcxxGrow; split <;> omega
  le_append := by intro c n; unfold libstdcxxGrow; split <;> omega
  reserve_grows := by intro c n; unfold libstdcxxGrow; split <;> omega
  append_grows := by intro c n; unfold libstdcxxGrow; split <;> omega
  reserve_keeps := by intro c n h; exact if_pos h
  append_keeps := by intro c n h; exact if_pos h

/-- `n` bytes of memory; bytes beyond the modelled ones read as zero. -/
def loadBytes (n : Nat) (mem : List UInt8) : List UInt8 := mem.takeD n 0

@[simp] theorem length_loadBytes (n : Nat) (mem : List UInt8) :
    (loadBytes n mem).length = n := List.takeD_length n mem 0

theorem loadBytes_eq_take {n : Nat} {mem : List UInt8} (h : n ≤ mem.length) :
    loadBytes n mem = mem.take n := List.takeD_eq_take _ h

theorem loadBytes_append {n : Nat} {xs : List UInt8} (ys : List UInt8)
    (h : xs.length = n) : loadBytes n (xs ++ ys) = xs := by
  subst h
  rw [loadBytes_eq_take (by simp), List.take_left]

/-- The unsigned integers loaded from the start of some memory. -/
def loadU8 (mem : List UInt8) : UInt8 := mem.headD 0

def loadU16 (mem : List UInt8) : UInt16 := UInt16.ofNat (ofLE (loadBytes 2 mem))

def loadU32 (mem : List UInt8) : UInt32 := UInt32.ofNat (ofLE (loadBytes 4 mem))

def loadU64 (mem : List UInt8) : UInt64 := UInt64.ofNat (ofLE (loadBytes 8 mem))

theorem loadU16_leBytes (v : UInt16) (t : List UInt8) :
    loadU16 (leBytes 2 v.toNat ++ t) = v := by
  rw [loadU16, loadBytes_append t (length_leBytes 2 _),
    ofLE_leBytes_of_lt (show v.toNat < 256 ^ 2 from v.toNat_lt), UInt16.ofNat_toNat]

theorem loadU32_leBytes (v : UInt32) (t : List UInt8) :
    loadU32 (leBytes 4 v.toNat ++ t) = v := by
  rw [loadU32, loadBytes_append t (length_leBytes 4 _),
    ofLE_leBytes_of_lt (show v.toNat < 256 ^ 4 from v.toNat_lt), UInt32.ofNat_toNat]

theorem loadU64_leBytes (v : UInt64) (t : List UInt8) :
    loadU64 (leBytes 8 v.toNat ++ t) = v := by
  rw [loadU64, loadBytes_append t (length_leBytes 8 _),
    ofLE_leBytes_of_lt (show v.toNat < 256 ^ 8 from v.toNat_lt), UInt64.ofNat_toNat]

/-- The unsigned integers in network order at the start of some memory. -/
def netU16 (mem : List UInt8) : UInt16 := UInt16.ofNat (ofBE (loadBytes 2 mem))

def netU32 (mem : List UInt8) : UInt32 := UInt32.ofNat (ofBE (loadBytes 4 mem))

def netU64 (mem : List UInt8) : UInt64 := UInt64.ofNat (ofBE (loadBytes 8 mem))

theorem loadBytes_append_of_le {n : Nat} {mem : List UInt8} (t : List UInt8)
    (h : n ≤ mem.length) : loadBytes n (mem ++ t) = loadBytes n mem := by
  rw [loadBytes_eq_take h, loadBytes_eq_take (by simp; omega), List.take_append_of_le_length h]

theorem netU16_append {mem : List UInt8} (t : List UInt8) (h : 2 ≤ mem.length) :
    netU16 (mem ++ t) = netU16 mem := by
  rw [netU16, loadBytes_append_of_le t h, netU16]

theorem netU64_append {mem : List UInt8} (t : List UInt8) (h : 8 ≤ mem.length) :
    netU64 (mem ++ t) = netU64 mem := by
  rw [netU64, loadBytes_append_of_le t h, netU64]

theorem netU16_beBytes (v : UInt16) (t : List UInt8) :
    netU16 (beBytes 2 v.toNat ++ t) = v := by
  rw [netU16, loadBytes_append t (length_beBytes 2 _),
    ofBE_beBytes_of_lt (show v.toNat < 256 ^ 2 from v.toNat_lt), UInt16.ofNat_toNat]

theorem netU32_beBytes (v : UInt32) (t : List UInt8) :
    netU32 (beBytes 4 v.toNat ++ t) = v := by
  rw [netU32, loadBytes_append t (length_beBytes 4 _),
    ofBE_beBytes_of_lt (show v.toNat < 256 ^ 4 from v.toNat_lt), UInt32.ofNat_toNat]

theorem netU64_beBytes (v : UInt64) (t : List UInt8) :
    netU64 (beBytes 8 v.toNat ++ t) = v := by
  rw [netU64, loadBytes_append t (length_beBytes 8 _),
    ofBE_beBytes_of_lt (show v.toNat < 256 ^ 8 from v.toNat_lt), UInt64.ofNat_toNat]

theorem beBytes_netU16 {mem : List UInt8} (h : 2 ≤ mem.length) :
    beBytes 2 (netU16 mem).toNat = mem.take 2 := by
  have hlt : ofBE (mem.take 2) < 2 ^ 16 := by simpa [h] using ofBE_lt (mem.take 2)
  rw [netU16, loadBytes_eq_take h, UInt16.toNat_ofNat_of_lt' hlt,
    beBytes_ofBE_of_length (by simp [h])]

theorem beBytes_netU32 {mem : List UInt8} (h : 4 ≤ mem.length) :
    beBytes 4 (netU32 mem).toNat = mem.take 4 := by
  have hlt : ofBE (mem.take 4) < 2 ^ 32 := by simpa [h] using ofBE_lt (mem.take 4)
  rw [netU32, loadBytes_eq_take h, UInt32.toNat_ofNat_of_lt' hlt,
    beBytes_ofBE_of_length (by simp [h])]

theorem beBytes_netU64 {mem : List UInt8} (h : 8 ≤ mem.length) :
    beBytes 8 (netU64 mem).toNat = mem.take 8 := by
  have hlt : ofBE (mem.take 8) < 2 ^ 64 := by simpa [h] using ofBE_lt (mem.take 8)
  rw [netU64, loadBytes_eq_take h, UInt64.toNat_ofNat_of_lt' hlt,
    beBytes_ofBE_of_length (by simp [h])]

/-- `ntohs` on a little-endian machine: the two bytes swapped. -/
def networkToHost16 (value : UInt16) : UInt16 :=
  UInt16.ofNat (ofLE (leBytes 2 value.toNat).reverse)

/-- `ntohl` on a little-endian machine: the four bytes reversed. -/
def networkToHost32 (value : UInt32) : UInt32 :=
  UInt32.ofNat (ofLE (leBytes 4 value.toNat).reverse)

/-- `(((uint64_t)ntohl(value)) << 32 | ntohl(value >> 32))`. -/
def networkToHost64 (value : UInt64) : UInt64 :=
  (networkToHost32 value.toUInt32).toUInt64 <<< 32
    ||| (networkToHost32 (value >>> 32).toUInt32).toUInt64

theorem networkToHost16_load {bs : List UInt8} (h : bs.length = 2) :
    networkToHost16 (UInt16.ofNat (ofLE bs)) = UInt16.ofNat (ofBE bs) := by
  have hlt : ofLE bs < 2 ^ 16 := by simpa [h] using ofLE_lt bs
  rw [networkToHost16, UInt16.toNat_ofNat_of_lt' hlt, leBytes_ofLE_of_length h, ofBE]

theorem networkToHost32_load {bs : List UInt8} (h : bs.length = 4) :
    networkToHost32 (UInt32.ofNat (ofLE bs)) = UInt32.ofNat (ofBE bs) := by
  have hlt : ofLE bs < 2 ^ 32 := by simpa [h] using ofLE_lt bs
  rw [networkToHost32, UInt32.toNat_ofNat_of_lt' hlt, leBytes_ofLE_of_length h, ofBE]

/-- **The two 32-bit swaps of `networkToHost64` read eight bytes in network
order.** -/
theorem networkToHost64_load {lo hi : List UInt8} (hlo : lo.length = 4)
    (hhi : hi.length = 4) :
    networkToHost64 (UInt64.ofNat (ofLE (lo ++ hi))) = UInt64.ofNat (ofBE (lo ++ hi)) := by
  have hl : ofLE lo < 2 ^ 32 := by simpa [hlo] using ofLE_lt lo
  have hh : ofLE hi < 2 ^ 32 := by simpa [hhi] using ofLE_lt hi
  have hl' : ofBE lo < 2 ^ 32 := by simpa [hlo] using ofBE_lt lo
  have hh' : ofBE hi < 2 ^ 32 := by simpa [hhi] using ofBE_lt hi
  have hle : ofLE (lo ++ hi) = ofLE lo + 2 ^ 32 * ofLE hi := by
    rw [ofLE_append, hlo, show (2 : Nat) ^ 32 = 256 ^ 4 from rfl]
  have hbe : ofBE (lo ++ hi) = ofBE hi + 2 ^ 32 * ofBE lo := by
    unfold ofBE
    rw [List.reverse_append, ofLE_append, List.length_reverse, hhi]
    rfl
  have hlow : (UInt64.ofNat (ofLE (lo ++ hi))).toUInt32 = UInt32.ofNat (ofLE lo) := by
    apply UInt32.toNat_inj.mp
    simp only [UInt64.toNat_toUInt32, UInt64.toNat_ofNat', UInt32.toNat_ofNat', hle]
    omega
  have hhigh : (UInt64.ofNat (ofLE (lo ++ hi)) >>> 32).toUInt32
      = UInt32.ofNat (ofLE hi) := by
    apply UInt32.toNat_inj.mp
    simp only [UInt64.toNat_toUInt32, UInt64.toNat_shiftRight, UInt64.toNat_ofNat',
      UInt32.toNat_ofNat', hle, Nat.shiftRight_eq_div_pow,
      show (32 : UInt64).toNat % 64 = 32 from rfl]
    omega
  rw [networkToHost64, hlow, hhigh, networkToHost32_load hlo, networkToHost32_load hhi]
  apply UInt64.toNat_inj.mp
  have hshift : ((UInt32.ofNat (ofBE lo)).toUInt64 <<< 32).toNat = ofBE lo <<< 32 := by
    simp only [UInt64.toNat_shiftLeft, UInt32.toNat_toUInt64, UInt32.toNat_ofNat_of_lt' hl']
    rw [show (32 : UInt64).toNat % 64 = 32 from rfl, Nat.shiftLeft_eq]
    omega
  rw [UInt64.toNat_or, hshift, UInt32.toNat_toUInt64, UInt32.toNat_ofNat_of_lt' hh',
    ← Nat.shiftLeft_add_eq_or_of_lt hh', Nat.shiftLeft_eq, UInt64.toNat_ofNat_of_lt', hbe]
  · omega
  · rw [hbe]
    show _ < 2 ^ 64
    omega

/-! ## §2. The buffer. -/

/-- `class Buffer`.  `assertFailed` records a violated `assert` of the read
functions; it is no part of the source's state. -/
structure Buffer where
  buffer : List UInt8
  capacity : Nat
  readIndex : Nat
  assertFailed : Bool := false
  deriving DecidableEq, Repr

namespace Buffer

/-- `MAX_SIZE_ONCE_READ`: the most one `GetDataFromFd` reads. -/
def MAX_SIZE_ONCE_READ : Nat := 5 * 1024

/-- `MAX_BUFFER_SIZE` of both decoders. -/
def MAX_BUFFER_SIZE : Nat := 500 * 1024

variable (a : StringAlloc) (b : Buffer)

/-- `Buffer::Buffer`: an empty string with `MAX_SIZE_ONCE_READ` reserved. -/
def new : Buffer where
  buffer := []
  capacity := a.reserve a.initial MAX_SIZE_ONCE_READ
  readIndex := 0

/-- `GetBuffer()`: the bytes from the read cursor on. -/
def getBuffer : List UInt8 := b.buffer.drop b.readIndex

/-- `ReadableBytes()`.  The source subtracts in `size_t`; it never wraps
because every state keeps `readIndex ≤ buffer.length` (`WF`). -/
def readableBytes : Nat := b.buffer.length - b.readIndex

def getCapacity : Nat := b.capacity

def getLeftCapacity : Nat := b.capacity - b.buffer.length

/-- `AutoRemove`: erase what has been read. -/
def autoRemove : Buffer := { b with buffer := b.buffer.drop b.readIndex, readIndex := 0 }

def reserve (n : Nat) : Buffer := { b with capacity := a.reserve b.capacity n }

def append (data : List UInt8) : Buffer :=
  { b with
    buffer := b.buffer ++ data
    capacity := a.append b.capacity (b.buffer.length + data.length) }

def skip (n : Nat) : Buffer := { b with readIndex := b.readIndex + n }

/-- `ReadInterger<T>` with `sizeof(T) = n`: `assert`, `memcpy`, `Skip`. -/
def readInteger (n : Nat) : Nat × Buffer :=
  (ofLE (loadBytes n b.getBuffer),
    { b.skip n with assertFailed := b.assertFailed || decide (b.readableBytes < n) })

/-- `ReadInt8`; as in the other readers the signed result goes bit by bit
into an unsigned field of the caller. -/
def readInt8 : UInt8 × Buffer :=
  (UInt8.ofNat (b.readInteger 1).1, (b.readInteger 1).2)

def readInt16 : UInt16 × Buffer :=
  (networkToHost16 (UInt16.ofNat (b.readInteger 2).1), (b.readInteger 2).2)

def readInt32 : UInt32 × Buffer :=
  (networkToHost32 (UInt32.ofNat (b.readInteger 4).1), (b.readInteger 4).2)

def readInt64 : UInt64 × Buffer :=
  (networkToHost64 (UInt64.ofNat (b.readInteger 8).1), (b.readInteger 8).2)

/-- `ReadBuffer(dst, n)`. -/
def readBuffer (n : Nat) : List UInt8 × Buffer :=
  (loadBytes n b.getBuffer,
    { b.skip n with assertFailed := b.assertFailed || decide (b.readableBytes < n) })

/-- The common body of `ipc::decoder_t::PushBuffer` and
`jt1078::decoder_t::PushBuffer`; `none` is `kBufferFull`. -/
def pushBuffer (data : List UInt8) : Option Buffer :=
  let nCapacity := b.getCapacity
  let nLeftCapacity := b.getLeftCapacity
  let nNewBufferLen := data.length
  let nCurBufferLen := b.readableBytes
  if nNewBufferLen + nCurBufferLen > MAX_BUFFER_SIZE then
    none
  else if nNewBufferLen + nCurBufferLen > nCapacity then
    let nNewCapacity := min (nCapacity * 2) MAX_BUFFER_SIZE
    some ((b.autoRemove.reserve a nNewCapacity).append a data)
  else if nNewBufferLen > nLeftCapacity then
    some (b.autoRemove.append a data)
  else
    some (b.append a data)

/-! ## §3. The unread bytes. -/

/-- The cursor lies inside the string, and no `assert` has failed. -/
structure WF : Prop where
  readIndex_le : b.readIndex ≤ b.buffer.length
  no_assert : b.assertFailed = false

variable {a b}

@[simp] theorem length_getBuffer : b.getBuffer.length = b.readableBytes := by
  simp [getBuffer, readableBytes]

@[simp] theorem getBuffer_skip (n : Nat) : (b.skip n).getBuffer = b.getBuffer.drop n := by
  simp [getBuffer, skip, List.drop_drop]

@[simp] theorem readableBytes_skip (n : Nat) :
    (b.skip n).readableBytes = b.readableBytes - n := by
  simp [readableBytes, skip, Nat.sub_sub]

@[simp] theorem getBuffer_autoRemove : b.autoRemove.getBuffer = b.getBuffer := by
  simp [getBuffer, autoRemove]

@[simp] theorem getBuffer_reserve (n : Nat) : (b.reserve a n).getBuffer = b.getBuffer := rfl

theorem getBuffer_append (h : b.readIndex ≤ b.buffer.length) (data : List UInt8) :
    (b.append a data).getBuffer = b.getBuffer ++ data := by
  simp only [getBuffer, append, List.drop_append_of_le_length h]

theorem new_wf : (new a).WF := ⟨Nat.zero_le _, rfl⟩

@[simp] theorem getBuffer_new : (new a).getBuffer = [] := rfl

theorem WF.skip (h : b.WF) {n : Nat} (hn : n ≤ b.readableBytes) : (b.skip n).WF := by
  have hle := h.readIndex_le
  refine ⟨?_, h.no_assert⟩
  simp only [Buffer.skip, readableBytes] at hn ⊢
  omega

theorem WF.autoRemove (h : b.WF) : b.autoRemove.WF := ⟨Nat.zero_le _, h.no_assert⟩

theorem WF.reserve (h : b.WF) (n : Nat) : (b.reserve a n).WF := ⟨h.readIndex_le, h.no_assert⟩

theorem WF.append (h : b.WF) (data : List UInt8) : (b.append a data).WF := by
  refine ⟨?_, h.no_assert⟩
  simp only [Buffer.append, List.length_append]
  exact Nat.le_add_right_of_le h.readIndex_le

/-- `PushBuffer` rejects exactly what would exceed `MAX_BUFFER_SIZE`. -/
theorem pushBuffer_eq_none_iff (data : List UInt8) :
    b.pushBuffer a data = none ↔ MAX_BUFFER_SIZE < data.length + b.readableBytes := by
  simp only [pushBuffer]
  split
  next h => simpa using h
  next h =>
      constructor
      · intro hnone
        split at hnone
        · simp at hnone
        · split at hnone <;> simp at hnone
      · intro hlt
        exact absurd hlt h

/-- An invariant of the buffer's operations is one of `PushBuffer`, and what it
accepts is appended to the unread bytes: the branch decides where the bytes
lie, never which bytes are unread. -/
theorem pushBuffer_rule {I : Buffer → Prop} (hindex : ∀ {b}, I b → b.readIndex ≤ b.buffer.length)
    (hremove : ∀ {b}, I b → I b.autoRemove) (hreserve : ∀ {b} n, I b → I (b.reserve a n))
    (happend : ∀ {b} data, I b → I (b.append a data)) (h : I b) {data : List UInt8}
    (hfit : data.length + b.readableBytes ≤ MAX_BUFFER_SIZE) :
    ∃ b', b.pushBuffer a data = some b' ∧ I b' ∧ b'.getBuffer = b.getBuffer ++ data := by
  simp only [pushBuffer, if_neg (Nat.not_lt.mpr hfit)]
  split
  · -- more than the whole capacity: compact, grow, append
    have hmoved := hreserve (min (b.getCapacity * 2) MAX_BUFFER_SIZE) (hremove h)
    refine ⟨_, rfl, happend data hmoved, ?_⟩
    rw [getBuffer_append (hindex hmoved), getBuffer_reserve, getBuffer_autoRemove]
  · split
    · -- more than the room behind the stored bytes: compact, append
      refine ⟨_, rfl, happend data (hremove h), ?_⟩
      rw [getBuffer_append (hindex (hremove h)), getBuffer_autoRemove]
    · -- there is room: append, the consumed bytes stay in front
      exact ⟨_, rfl, happend data h, getBuffer_append (hindex h) data⟩

/-- **What `PushBuffer` accepts is appended to the unread bytes**, whichever
of its capacity branches moves or reallocates the data. -/
theorem pushBuffer_spec (h : b.WF) {data : List UInt8}
    (hfit : data.length + b.readableBytes ≤ MAX_BUFFER_SIZE) :
    ∃ b', b.pushBuffer a data = some b' ∧ b'.WF ∧ b'.getBuffer = b.getBuffer ++ data :=
  pushBuffer_rule WF.readIndex_le WF.autoRemove (fun n h => h.reserve n)
    (fun data h => h.append data) h hfit

/-! ## §4. Reading from a buffer. -/

@[simp] theorem skip_skip (m n : Nat) : (b.skip m).skip n = b.skip (m + n) := by
  simp [skip, Nat.add_assoc]

/-- The state after a read of `n` available bytes. -/
theorem readInteger_snd (h : b.WF) {n : Nat} (hn : n ≤ b.readableBytes) :
    (b.readInteger n).2 = b.skip n := by
  simp only [readInteger, Buffer.skip, h.no_assert, Bool.false_or,
    decide_eq_false (Nat.not_lt.mpr hn)]

theorem readableBytes_readInteger (n : Nat) :
    (b.readInteger n).2.readableBytes = b.readableBytes - n := @readableBytes_skip b n

@[simp] theorem readableBytes_readInt8 :
    b.readInt8.2.readableBytes = b.readableBytes - 1 := by
  simp only [readInt8, readableBytes_readInteger]

@[simp] theorem readableBytes_readInt16 :
    b.readInt16.2.readableBytes = b.readableBytes - 2 := by
  simp only [readInt16, readableBytes_readInteger]

@[simp] theorem readableBytes_readInt32 :
    b.readInt32.2.readableBytes = b.readableBytes - 4 := by
  simp only [readInt32, readableBytes_readInteger]

@[simp] theorem readableBytes_readInt64 :
    b.readInt64.2.readableBytes = b.readableBytes - 8 := by
  simp only [readInt64, readableBytes_readInteger]

@[simp] theorem readableBytes_readBuffer (n : Nat) :
    (b.readBuffer n).2.readableBytes = b.readableBytes - n := @readableBytes_skip b n

theorem readInt8_eq (h : b.WF) (hn : 1 ≤ b.readableBytes) :
    b.readInt8 = (loadU8 b.getBuffer, b.skip 1) := by
  rw [readInt8, readInteger_snd h hn]
  cases hb : b.getBuffer with
  | nil => simp [readInteger, hb, loadBytes, ofLE, loadU8]
  | cons x xs => simp [readInteger, hb, loadBytes, ofLE, loadU8]

theorem readInt16_eq (h : b.WF) (hn : 2 ≤ b.readableBytes) :
    b.readInt16 = (netU16 b.getBuffer, b.skip 2) := by
  rw [readInt16, readInteger_snd h hn, readInteger,
    networkToHost16_load (length_loadBytes _ _), netU16]

theorem readInt32_eq (h : b.WF) (hn : 4 ≤ b.readableBytes) :
    b.readInt32 = (netU32 b.getBuffer, b.skip 4) := by
  rw [readInt32, readInteger_snd h hn, readInteger,
    networkToHost32_load (length_loadBytes _ _), netU32]

theorem readInt64_eq (h : b.WF) (hn : 8 ≤ b.readableBytes) :
    b.readInt64 = (netU64 b.getBuffer, b.skip 8) := by
  have hsplit := @networkToHost64_load ((loadBytes 8 b.getBuffer).take 4)
    ((loadBytes 8 b.getBuffer).drop 4) (by simp) (by simp)
  rw [List.take_append_drop] at hsplit
  rw [readInt64, readInteger_snd h hn, readInteger, hsplit, netU64]

theorem readBuffer_eq (h : b.WF) {n : Nat} (hn : n ≤ b.readableBytes) :
    b.readBuffer n = (loadBytes n b.getBuffer, b.skip n) := by
  simp only [readBuffer, Buffer.skip, h.no_assert, Bool.false_or,
    decide_eq_false (Nat.not_lt.mpr hn)]

end Buffer

end MultiProcessServer
