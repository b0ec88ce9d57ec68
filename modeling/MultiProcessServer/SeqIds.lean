/-
  MultiProcessServer.SeqIds
  ─────────────────────────
  The sequence ids a session puts on what it sends: `Subscriber::GetIpcPktSeqId`
  and the `GetNewSendIpcPktSeqId` of `PcSession` and `Jt1078Client`, over a run
  of any length.

  The three are one function.  `INVALID_PKT_SEQ_ID` is the state "nothing sent
  yet", and the test for it looks at the id before, not at the id it is about
  to hand out: on a 32-bit counter it changes nothing, and the reserved id goes
  out as any other once the counter gets there.

  Main result: `seqIds_valid_iff`.
-/
import MultiProcessServer.ForwardServer.Subscriber
import MultiProcessServer.PcServer.PcSession
import MultiProcessServer.Jt1078Client.Jt1078Client

namespace MultiProcessServer

open Ipc (INVALID_PKT_SEQ_ID nextPktSeqId)

/-! ## §1. The three functions. -/

/-- `PcSession` with the two counters its model leaves out: `SendPacket` sends
packets that carry their id already. -/
structure NumberedPcSession extends PcSession where
  uLastReceiveIpcPktSeqId : UInt32
  uLastSendIpcPktSeqId : UInt32
  deriving DecidableEq, Repr

namespace NumberedPcSession

/-- `PcSession::PcSession`. -/
def new (socket : List SockResult) : NumberedPcSession where
  toPcSession := .new socket
  uLastReceiveIpcPktSeqId := INVALID_PKT_SEQ_ID
  uLastSendIpcPktSeqId := INVALID_PKT_SEQ_ID

/-- `PcSession::GetNewSendIpcPktSeqId`. -/
def getNewSendIpcPktSeqId (s : NumberedPcSession) : UInt32 × NumberedPcSession :=
  let seqId := nextPktSeqId s.uLastSendIpcPktSeqId
  (seqId, { s with uLastSendIpcPktSeqId := seqId })

end NumberedPcSession

/-- `Jt1078Client::GetNewSendIpcPktSeqId`. -/
def Jt1078Client.getNewSendIpcPktSeqId (c : Jt1078Client) : UInt32 × Jt1078Client :=
  let seqId := nextPktSeqId c.uLastSendIpcPktSeqId
  (seqId, { c with uLastSendIpcPktSeqId := seqId })

/-- The id `SendPacket` sends is the one `GetNewSendIpcPktSeqId` returns. -/
theorem Jt1078Client.sendPacket_seqId (c : Jt1078Client) (mask : UInt32)
    (data : List UInt8) :
    (c.header mask data.length).pktSeqId = c.getNewSendIpcPktSeqId.1
      ∧ (c.sendPacket mask data).uLastSendIpcPktSeqId
        = c.getNewSendIpcPktSeqId.2.uLastSendIpcPktSeqId := ⟨rfl, rfl⟩

/-! ## §2. A source of sequence ids. -/

/-- A function that hands out ids and the field in which it keeps the last
one, which is all the function looks at. -/
structure SeqIdSource (σ : Type) where
  last : σ → UInt32
  get : σ → UInt32 × σ
  get_fst : ∀ s, (get s).1 = nextPktSeqId (last s)
  last_get : ∀ s, last (get s).2 = (get s).1

namespace SeqIdSource

variable {σ : Type} (g : SeqIdSource σ)

/-- The state after `n` calls. -/
def after (s : σ) : Nat → σ
  | 0 => s
  | n + 1 => (g.get (after s n)).2

/-- The `n`-th id, from 0 on. -/
def seqId (s : σ) (n : Nat) : UInt32 := (g.get (g.after s n)).1

/-- A run may be cut behind its first call. -/
theorem after_succ (s : σ) (n : Nat) : g.after s (n + 1) = g.after (g.get s).2 n := by
  induction n with
  | zero => rfl
  | succ n ih =>
      show (g.get (g.after s (n + 1))).2 = (g.get (g.after (g.get s).2 n)).2
      rw [ih]

/-- **The guard is without effect**: the id behind `INVALID_PKT_SEQ_ID` is 0
with it and without it. -/
theorem nextPktSeqId_eq (last : UInt32) : nextPktSeqId last = last + 1 := by
  unfold nextPktSeqId
  split
  next h =>
      rw [h]
      rfl
  next => rfl

/-- One call: the ids are the successors of each other, modulo 2^32. -/
theorem seqId_succ (s : σ) (n : Nat) : g.seqId s (n + 1) = g.seqId s n + 1 := by
  show (g.get (g.get (g.after s n)).2).1 = (g.get (g.after s n)).1 + 1
  rw [g.get_fst, g.last_get, nextPktSeqId_eq]

/-- A whole run, on a fresh session. -/
theorem seqId_eq {s : σ} (hfresh : g.last s = INVALID_PKT_SEQ_ID) (n : Nat) :
    g.seqId s n = UInt32.ofNat n := by
  induction n with
  | zero =>
      show (g.get s).1 = 0
      rw [g.get_fst, hfresh]
      rfl
  | succ n ih =>
      rw [seqId_succ, ih]
      exact (UInt32.ofNat_add n 1).symm

end SeqIdSource

/-! ## §3. Which ids are valid. -/

/-- What is expected of the `n`-th id: it is not the reserved one, and the id
behind it is its successor unless the counter wraps to 0. -/
structure ValidSeqId (ids : Nat → UInt32) (n : Nat) : Prop where
  not_reserved : ids n ≠ INVALID_PKT_SEQ_ID
  successor : (ids (n + 1)).toNat = (ids n).toNat + 1 ∨ ids (n + 1) = 0

namespace SeqIdSource

variable {σ : Type} (g : SeqIdSource σ) {s : σ}

theorem seqId_eq_reserved_iff (hfresh : g.last s = INVALID_PKT_SEQ_ID) (n : Nat) :
    g.seqId s n = INVALID_PKT_SEQ_ID ↔ n % 2 ^ 32 = 2 ^ 32 - 1 := by
  rw [g.seqId_eq hfresh, ← UInt32.toNat_inj, UInt32.toNat_ofNat']
  rfl

/-- Successors, and 0 behind the greatest id, hold for every id. -/
theorem seqId_successor (s : σ) (n : Nat) :
    (g.seqId s (n + 1)).toNat = (g.seqId s n).toNat + 1 ∨ g.seqId s (n + 1) = 0 := by
  have hlt := (g.seqId s n).toNat_lt
  rw [seqId_succ]
  by_cases hmax : (g.seqId s n).toNat = 2 ^ 32 - 1
  · right
    apply UInt32.toNat_inj.mp
    rw [UInt32.toNat_add, hmax]
    rfl
  · left
    rw [UInt32.toNat_add, UInt32.toNat_one]
    exact Nat.mod_eq_of_lt (by omega)

theorem valid_iff (hfresh : g.last s = INVALID_PKT_SEQ_ID) (n : Nat) :
    ValidSeqId (g.seqId s) n ↔ n % 2 ^ 32 ≠ 2 ^ 32 - 1 := by
  constructor
  · intro h hn
    exact h.not_reserved ((g.seqId_eq_reserved_iff hfresh n).mpr hn)
  · intro hn
    exact ⟨fun h => hn ((g.seqId_eq_reserved_iff hfresh n).mp h), g.seqId_successor s n⟩

end SeqIdSource

/-! ## §4. The sessions. -/

/-- `Subscriber::GetIpcPktSeqId` as a source of ids. -/
def subscriberSeqIds : SeqIdSource Forward.Subscriber where
  last := Forward.Subscriber.uLastIpcPktSeqId
  get := Forward.Subscriber.getIpcPktSeqId
  get_fst _ := rfl
  last_get _ := rfl

def pcSessionSeqIds : SeqIdSource NumberedPcSession where
  last := NumberedPcSession.uLastSendIpcPktSeqId
  get := NumberedPcSession.getNewSendIpcPktSeqId
  get_fst _ := rfl
  last_get _ := rfl

def jt1078ClientSeqIds : SeqIdSource Jt1078Client where
  last := Jt1078Client.uLastSendIpcPktSeqId
  get := Jt1078Client.getNewSendIpcPktSeqId
  get_fst _ := rfl
  last_get _ := rfl

/-- The `n`-th packet of a run of `SendMsg` calls carries the `n`-th id. -/
theorem packets_seqId (s : Forward.Subscriber) (messages : List Forward.Message) (n : Nat)
    (hn : n < (Forward.Subscriber.packets s.uLastIpcPktSeqId messages).length) :
    ((Forward.Subscriber.packets s.uLastIpcPktSeqId messages)[n]).header.pktSeqId
      = subscriberSeqIds.seqId s n := by
  -- each message moves the session on by one id
  induction messages generalizing s n with
  | nil => simp [Forward.Subscriber.packets] at hn
  | cons m messages ih =>
      cases n with
      | zero => rfl
      | succ n =>
          have hrec := ih s.getIpcPktSeqId.2 n (Nat.lt_of_succ_lt_succ hn)
          show _ = (subscriberSeqIds.get (subscriberSeqIds.after s (n + 1))).1
          rw [subscriberSeqIds.after_succ]
          exact hrec

/-- **When a sequence id is a valid one**: for each of the three functions, the
`n`-th id of a fresh session differs from `INVALID_PKT_SEQ_ID` and is followed
by its successor, or by 0, exactly when `n` is not the last of a round of 2^32
ids. -/
theorem seqIds_valid_iff (socket : List SockResult) (n : Nat) :
    (ValidSeqId (subscriberSeqIds.seqId (.new socket)) n ↔ n % 2 ^ 32 ≠ 2 ^ 32 - 1)
    ∧ (ValidSeqId (pcSessionSeqIds.seqId (.new socket)) n ↔ n % 2 ^ 32 ≠ 2 ^ 32 - 1)
    ∧ (ValidSeqId (jt1078ClientSeqIds.seqId .new) n ↔ n % 2 ^ 32 ≠ 2 ^ 32 - 1) :=
  ⟨subscriberSeqIds.valid_iff rfl n, pcSessionSeqIds.valid_iff rfl n,
    jt1078ClientSeqIds.valid_iff rfl n⟩

/-- The id number 2^32 - 1 (the 2^32-th) of each session is the reserved one. -/
theorem seqIds_reserved :
    ¬ ValidSeqId (subscriberSeqIds.seqId (.new [])) 4294967295
    ∧ ¬ ValidSeqId (pcSessionSeqIds.seqId (.new [])) 4294967295
    ∧ ¬ ValidSeqId (jt1078ClientSeqIds.seqId .new) 4294967295 := by
  have hlast : 4294967295 % 2 ^ 32 = 2 ^ 32 - 1 := by decide
  refine ⟨fun h => ?_, fun h => ?_, fun h => ?_⟩
  · exact h.not_reserved ((subscriberSeqIds.seqId_eq_reserved_iff rfl _).mpr hlast)
  · exact h.not_reserved ((pcSessionSeqIds.seqId_eq_reserved_iff rfl _).mpr hlast)
  · exact h.not_reserved ((jt1078ClientSeqIds.seqId_eq_reserved_iff rfl _).mpr hlast)

end MultiProcessServer
