/-
  MultiProcessServer.Core.SessionIds
  ──────────────────────────────────
  `TcpSession::GenerateSessionId` over a run of any length: the second of the
  clock, times a million, plus what the count of sessions leaves when it is
  divided by a million.

  The count has 64 bits and is read into an `int` first.  Where that passes
  from `INT_MAX` to `INT_MIN` the remainder turns negative and reaches back
  into the second before.

  Main result: `sessionIds_nodup_iff`.
-/
import Mathlib.Data.List.Basic
import Mathlib.Data.Int.ModEq
import Mathlib.Tactic.Common
import MultiProcessServer.Core.TcpSession

namespace MultiProcessServer

/-! ## §1. The ids of a run. -/

namespace TcpSession

/-- `GenerateSessionId`, where `time(nullptr)` returns `time`: the id, and
`s_total_session_count` after it. -/
def generateSessionId (sTotalSessionCount : UInt64) (time : Int64) : UInt64 × UInt64 :=
  let oneMillion : Int32 := 1000000
  let sTotalSessionCount := sTotalSessionCount + 1
  let curSessionCount : Int32 := sTotalSessionCount.toUInt32.toInt32
  let t : UInt64 := time.toUInt64
  (t * oneMillion.toInt64.toUInt64 + (curSessionCount % oneMillion).toInt64.toUInt64,
    sTotalSessionCount)

/-- The ids of the sessions created at those times, one after the other. -/
def sessionIds (sTotalSessionCount : UInt64) : List Int64 → List UInt64
  | [] => []
  | time :: times =>
      let (sessionId, sTotalSessionCount) := generateSessionId sTotalSessionCount time
      sessionId :: sessionIds sTotalSessionCount times

/-- What an id is made of: the count with this session, and the time. -/
structure Creation where
  count : UInt64
  time : Int64
  deriving DecidableEq

namespace Creation

/-- `cur_session_count`. -/
def curSessionCount (x : Creation) : Int := x.count.toUInt32.toInt32.toInt

/-- `cur_session_count % OneMillion`: the sign is that of the count. -/
def remainder (x : Creation) : Int := x.curSessionCount.tmod 1000000

def sessionId (x : Creation) : UInt64 :=
  x.time.toUInt64 * 1000000 + (x.count.toUInt32.toInt32 % 1000000).toInt64.toUInt64

end Creation

/-- The creations of a run. -/
def creations (count : UInt64) : List Int64 → List Creation
  | [] => []
  | time :: times => ⟨count + 1, time⟩ :: creations (count + 1) times

theorem sessionIds_eq_map (times : List Int64) :
    ∀ count, sessionIds count times = (creations count times).map Creation.sessionId := by
  induction times with
  | nil => exact fun _ => rfl
  | cons time times ih =>
      intro count
      rw [sessionIds, creations, List.map_cons, ← ih]
      rfl

@[simp] theorem length_creations (times : List Int64) :
    ∀ count, (creations count times).length = times.length := by
  induction times with
  | nil => exact fun _ => rfl
  | cons time times ih => exact fun count => congrArg (· + 1) (ih (count + 1))

theorem getElem_creations (times : List Int64) :
    ∀ (count : UInt64) (k : Nat) (hk : k < times.length) (hk' : k < (creations count times).length),
      (creations count times)[k] = ⟨count + UInt64.ofNat (k + 1), times[k]⟩ := by
  induction times with
  | nil => exact fun _ k hk => absurd hk (Nat.not_lt_zero k)
  | cons time times ih =>
      intro count k hk hk'
      cases k with
      | zero => rfl
      | succ k =>
          have hcount : count + 1 + UInt64.ofNat (k + 1) = count + UInt64.ofNat (k + 1 + 1) := by
            rw [UInt64.add_assoc, UInt64.ofNat_add (k + 1) 1, UInt64.add_comm 1]
            rfl
          have hrest := ih (count + 1) k (Nat.lt_of_succ_lt_succ hk) (Nat.lt_of_succ_lt_succ hk')
          rw [hcount] at hrest
          exact hrest

/-! ## §2. The id as a number. -/

namespace Creation

variable {x y : Creation}

theorem curSessionCount_range (x : Creation) :
    -2147483648 ≤ x.curSessionCount ∧ x.curSessionCount < 2147483648 :=
  ⟨Int32.le_toInt _, Int32.toInt_lt _⟩

/-- The `int` is the count up to multiples of 2^32. -/
theorem curSessionCount_emod (x : Creation) :
    x.curSessionCount % 4294967296 = (x.count.toNat : Int) % 4294967296 := by
  have hbmod : x.curSessionCount = (x.count.toNat % 4294967296 : Int).bmod 4294967296 := by
    show (x.count.toUInt32.toBitVec).toInt = _
    rw [BitVec.toInt_eq_toNat_bmod]
    rfl
  rw [hbmod, show (4294967296 : Int) = ((4294967296 : Nat) : Int) from rfl, Int.bmod_emod,
    Int.emod_emod]

/-- **The id** modulo 2^64. -/
theorem sessionId_modEq (x : Creation) :
    (x.sessionId.toNat : Int) ≡ x.time.toInt * 1000000 + x.remainder
      [ZMOD 18446744073709551616] := by
  have htoUInt64 : ∀ v : Int64,
      (v.toUInt64.toNat : Int) ≡ v.toInt [ZMOD 18446744073709551616] := by
    intro v
    have hbmod : v.toInt = (v.toUInt64.toNat : Int).bmod 18446744073709551616 :=
      BitVec.toInt_eq_toNat_bmod _
    rw [hbmod]
    exact Int.bmod_emod.symm
  have hremainder : (x.count.toUInt32.toInt32 % 1000000).toInt64.toInt = x.remainder := by
    rw [Int32.toInt_toInt64, Int32.toInt_mod]
    rfl
  have hwrap : ∀ n : Nat, ((n % 18446744073709551616 : Nat) : Int) ≡ n
      [ZMOD 18446744073709551616] := by
    intro n
    rw [Int.natCast_mod]
    exact Int.mod_modEq _ _
  rw [sessionId, UInt64.toNat_add, UInt64.toNat_mul]
  refine (hwrap _).trans ?_
  rw [Int.natCast_add]
  refine Int.ModEq.add ((hwrap _).trans ?_) ?_
  · rw [Int.natCast_mul]
    exact (htoUInt64 x.time).mul_right 1000000
  · rw [← hremainder]
    exact htoUInt64 _

/-- Two ids are one if the numbers differ by a multiple of 2^64. -/
theorem sessionId_eq_iff : x.sessionId = y.sessionId
    ↔ (18446744073709551616 : Int)
      ∣ (y.time.toInt - x.time.toInt) * 1000000 - (x.remainder - y.remainder) := by
  have hsub : (y.time.toInt - x.time.toInt) * 1000000 - (x.remainder - y.remainder)
      = y.time.toInt * 1000000 + y.remainder - (x.time.toInt * 1000000 + x.remainder) := by omega
  rw [hsub, ← Int.modEq_iff_dvd]
  constructor
  · intro h
    refine (sessionId_modEq x).symm.trans ?_
    rw [h]
    exact sessionId_modEq y
  · intro h
    have hmod := (sessionId_modEq x).trans (h.trans (sessionId_modEq y).symm)
    have hx := x.sessionId.toNat_lt
    have hy := y.sessionId.toNat_lt
    refine UInt64.toNat.inj ?_
    rw [Int.ModEq, Int.emod_eq_of_lt (by omega) (by omega),
      Int.emod_eq_of_lt (by omega) (by omega)] at hmod
    exact Int.ofNat.inj hmod

/-- The remainder, as a linear fact. -/
theorem remainder_spec (x : Creation) : ∃ q, x.curSessionCount = 1000000 * q + x.remainder
    ∧ (0 ≤ x.curSessionCount → 0 ≤ x.remainder ∧ x.remainder < 1000000)
    ∧ (x.curSessionCount < 0 → -1000000 < x.remainder ∧ x.remainder ≤ 0) := by
  refine ⟨x.curSessionCount.tdiv 1000000, (Int.mul_tdiv_add_tmod _ _).symm, fun h => ?_,
    fun h => ?_⟩
  · exact ⟨Int.tmod_nonneg _ h, Int.tmod_lt_of_pos _ (by decide)⟩
  · have hneg : x.remainder = -((-x.curSessionCount).tmod 1000000) := by
      rw [Int.neg_tmod, neg_neg]
      rfl
    have hnonneg : 0 ≤ (-x.curSessionCount).tmod 1000000 := Int.tmod_nonneg _ (by omega)
    have hlt : (-x.curSessionCount).tmod 1000000 < 1000000 := Int.tmod_lt_of_pos _ (by decide)
    omega

/-! ## §3. When two ids are one. -/

/-- The count, as an `int`, has wrapped between the two.  A count that is a
multiple of a million leaves nothing to reach back with. -/
structure CountWraps (x y : Creation) : Prop where
  apart : y.count = x.count + 967296 ∨ y.count = x.count + 1967296
  wraps : y.curSessionCount < x.curSessionCount
  elapsed : y.time.toInt = x.time.toInt + if 1000000 ∣ x.curSessionCount then 0 else 1

/-- The two are so many seconds apart that `t * OneMillion` has wrapped, and
the second comes out where the first did. -/
structure ClockWraps (x y : Creation) : Prop where
  far : x.time.toInt + 18446744073708 ≤ y.time.toInt
  meets : (18446744073709551616 : Int)
    ∣ (y.time.toInt - x.time.toInt) * 1000000 - (x.remainder - y.remainder)

/-- One of the two has happened. -/
def Collides (x y : Creation) : Prop := CountWraps x y ∨ ClockWraps x y

/-- The count some creations later. -/
theorem curSessionCount_add {n : Nat} (hcount : y.count = x.count + UInt64.ofNat n)
    (hn : n < 2000000) :
    y.curSessionCount = x.curSessionCount + n
      ∨ y.curSessionCount = x.curSessionCount + n - 4294967296 := by
  have hnat : (y.count.toNat : Int) % 4294967296 = (x.count.toNat + n) % 4294967296 := by
    have hadd : y.count.toNat = (x.count.toNat + n % 18446744073709551616)
        % 18446744073709551616 := by
      rw [hcount, UInt64.toNat_add, UInt64.toNat_ofNat']
    omega
  have hx := x.curSessionCount_emod
  have hy := y.curSessionCount_emod
  have hxr := x.curSessionCount_range
  have hyr := y.curSessionCount_range
  omega

/-- **Where the remainders meet.**  The second creation comes `n` creations
after the first, in the same second or in the next one, and no second sees a
million of them. -/
theorem remainder_sub_iff {n : Nat} {elapsed : Int}
    (hstep : y.curSessionCount = x.curSessionCount + n
      ∨ y.curSessionCount = x.curSessionCount + n - 4294967296)
    (hpos : 0 < n) (hsame : elapsed = 0 ∧ n < 1000000 ∨ elapsed = 1 ∧ n < 2000000) :
    elapsed * 1000000 = x.remainder - y.remainder
      ↔ (n = 967296 ∨ n = 1967296) ∧ y.curSessionCount < x.curSessionCount
        ∧ elapsed = if 1000000 ∣ x.curSessionCount then 0 else 1 := by
  obtain ⟨q, hq, hqnonneg, hqneg⟩ := x.remainder_spec
  obtain ⟨q', hq', hq'nonneg, hq'neg⟩ := y.remainder_spec
  have hxr := x.curSessionCount_range
  have hyr := y.curSessionCount_range
  have hdvd : 1000000 ∣ x.curSessionCount ↔ x.remainder = 0 := by omega
  rcases hstep with hstep | hstep
  · -- the count did not wrap: the remainders differ by too little, or the wrong way
    refine iff_of_false (fun h => ?_) (fun h => ?_)
    · rcases hsame with ⟨rfl, hn⟩ | ⟨rfl, hn⟩ <;> omega
    · omega
  · by_cases hzero : x.remainder = 0
    · rw [if_pos (hdvd.mpr hzero)]
      rcases hsame with ⟨rfl, hn⟩ | ⟨rfl, hn⟩ <;> omega
    · rw [if_neg (mt hdvd.mp hzero)]
      rcases hsame with ⟨rfl, hn⟩ | ⟨rfl, hn⟩ <;> omega

/-- **Two creations share an id** exactly if they collide. -/
theorem sessionId_eq_iff_collides {n : Nat} (hcount : y.count = x.count + UInt64.ofNat n)
    (hpos : 0 < n) (hclock : x.time.toInt ≤ y.time.toInt)
    (hsame : y.time.toInt = x.time.toInt → n < 1000000)
    (hnext : y.time.toInt = x.time.toInt + 1 → n < 2000000) :
    x.sessionId = y.sessionId ↔ Collides x y := by
  have hwithin : y.time.toInt - x.time.toInt = 0 ∨ y.time.toInt - x.time.toInt = 1 →
      (y.time.toInt - x.time.toInt = 0 ∧ n < 1000000
        ∨ y.time.toInt - x.time.toInt = 1 ∧ n < 2000000) := by omega
  -- a short time apart, only the count can have wrapped
  have hshort : y.time.toInt - x.time.toInt = 0 ∨ y.time.toInt - x.time.toInt = 1 →
      ((y.time.toInt - x.time.toInt) * 1000000 = x.remainder - y.remainder
        ↔ CountWraps x y) := by
    intro helapsed
    have hn : n < 2000000 := by omega
    rw [remainder_sub_iff (curSessionCount_add hcount hn) hpos (hwithin helapsed)]
    have hsum : ∀ m : Nat, m < 2000000 → (y.count = x.count + UInt64.ofNat m ↔ n = m) := by
      intro m hm
      rw [hcount, UInt64.add_right_inj, ← UInt64.toNat_inj, UInt64.toNat_ofNat',
        UInt64.toNat_ofNat']
      omega
    constructor
    · rintro ⟨hapart, hwraps, helapsed⟩
      refine ⟨?_, hwraps, by omega⟩
      exact hapart.imp (hsum 967296 (by decide)).mpr (hsum 1967296 (by decide)).mpr
    · rintro ⟨hapart, hwraps, helapsed⟩
      refine ⟨?_, hwraps, by omega⟩
      exact hapart.imp (hsum 967296 (by decide)).mp (hsum 1967296 (by decide)).mp
  have hxr : -1000000 < x.remainder ∧ x.remainder < 1000000 := by
    obtain ⟨q, hq, hnonneg, hneg⟩ := x.remainder_spec
    omega
  have hyr : -1000000 < y.remainder ∧ y.remainder < 1000000 := by
    obtain ⟨q, hq, hnonneg, hneg⟩ := y.remainder_spec
    omega
  rw [sessionId_eq_iff]
  constructor
  · intro hdvd
    by_cases hfar : x.time.toInt + 18446744073708 ≤ y.time.toInt
    · exact .inr ⟨hfar, hdvd⟩
    · have hzero : (y.time.toInt - x.time.toInt) * 1000000 = x.remainder - y.remainder := by omega
      have helapsed : y.time.toInt - x.time.toInt = 0 ∨ y.time.toInt - x.time.toInt = 1 := by
        omega
      exact .inl ((hshort helapsed).mp hzero)
  · rintro (hcountWraps | hclockWraps)
    · have helapsed : y.time.toInt - x.time.toInt = 0 ∨ y.time.toInt - x.time.toInt = 1 := by
        have h := hcountWraps.elapsed
        split at h <;> omega
      rw [(hshort helapsed).mpr hcountWraps, sub_self]
      exact dvd_zero _
    · exact hclockWraps.meets

end Creation

/-! ## §4. A run. -/

/-- The creations from the `i`-th to the `j`-th, when the clock does not go
back, come at times between theirs. -/
theorem mem_slice {times : List Int64} (hclock : times.Pairwise (· ≤ ·)) {i j : Nat}
    (hij : i < j) (hj : j < times.length) :
    ∃ slice : List Int64, slice.Sublist times ∧ slice.length = j - i + 1
      ∧ ∀ t ∈ slice, times[i].toInt ≤ t.toInt ∧ t.toInt ≤ times[j].toInt := by
  have hmono : ∀ (a b : Nat) (ha : a < times.length) (hb : b < times.length), a ≤ b →
      times[a].toInt ≤ times[b].toInt := by
    intro a b ha hb hab
    rcases Nat.eq_or_lt_of_le hab with rfl | hlt
    · exact le_refl _
    · exact Int64.le_iff_toInt_le.mp (List.pairwise_iff_getElem.mp hclock a b ha hb hlt)
  refine ⟨(times.drop i).take (j - i + 1), ?_, ?_, ?_⟩
  · exact (List.take_sublist _ _).trans (List.drop_sublist _ _)
  · rw [List.length_take, List.length_drop]
    omega
  · intro t ht
    obtain ⟨k, hk, rfl⟩ := List.mem_iff_getElem.mp ht
    have hlength := hk
    rw [List.length_take, List.length_drop] at hlength
    rw [List.getElem_take, List.getElem_drop]
    exact ⟨hmono _ _ _ _ (by omega), hmono _ _ _ _ (by omega)⟩

/-- A list of two values has no more than their counts. -/
theorem length_le_count_add_count {a b : Int64} {l : List Int64} (h : ∀ t ∈ l, t = a ∨ t = b) :
    l.length ≤ l.count a + l.count b := by
  induction l with
  | nil => exact Nat.zero_le _
  | cons t l ih =>
      have hrest := ih fun t' ht' => h t' (List.mem_cons_of_mem t ht')
      rcases h t List.mem_cons_self with rfl | rfl
      · rw [List.count_cons_self, List.length_cons]
        have := List.count_le_count_cons (a := b) (b := t) (l := l)
        omega
      · rw [List.count_cons_self (a := t), List.length_cons]
        have := List.count_le_count_cons (a := a) (b := t) (l := l)
        omega

/-- **Fewer than a million a second**: how far apart two creations of one
second, or of two seconds in a row, can be. -/
theorem apart_of_rate {times : List Int64} (hclock : times.Pairwise (· ≤ ·))
    (hrate : ∀ t, times.count t < 1000000) {i j : Nat} (hij : i < j) (hj : j < times.length) :
    (times[j].toInt = times[i].toInt → j - i < 1000000)
      ∧ (times[j].toInt = times[i].toInt + 1 → j - i < 2000000) := by
  obtain ⟨slice, hsub, hlength, hslice⟩ := mem_slice hclock hij hj
  have hi : slice.count times[i] < 1000000 := (hsub.count_le _).trans_lt (hrate _)
  have hj : slice.count times[j] < 1000000 := (hsub.count_le _).trans_lt (hrate _)
  constructor
  · intro hsame
    have hall : ∀ t ∈ slice, times[i] = t := by
      intro t ht
      have := hslice t ht
      exact Int64.toInt.inj (by omega)
    rw [List.count_eq_length.mpr hall] at hi
    omega
  · intro hnext
    have htwo : ∀ t ∈ slice, t = times[i] ∨ t = times[j] := by
      intro t ht
      have := hslice t ht
      rcases (by omega : t.toInt = times[i].toInt ∨ t.toInt = times[j].toInt) with h | h
      · exact .inl (Int64.toInt.inj h)
      · exact .inr (Int64.toInt.inj h)
    have := length_le_count_add_count htwo
    omega

/-- **The ids of a run are pairwise distinct** exactly if no two of its
creations collide. -/
theorem sessionIds_nodup_iff (count : UInt64) (times : List Int64)
    (hclock : times.Pairwise (· ≤ ·)) (hrate : ∀ t, times.count t < 1000000) :
    (sessionIds count times).Nodup
      ↔ (creations count times).Pairwise fun x y => ¬ x.Collides y := by
  rw [sessionIds_eq_map, List.nodup_iff_pairwise_ne, List.pairwise_map,
    List.pairwise_iff_getElem, List.pairwise_iff_getElem]
  refine forall₂_congr fun i j => forall₂_congr fun hi hj => forall_congr' fun hij => not_congr ?_
  have hi' : i < times.length := length_creations times count ▸ hi
  have hj' : j < times.length := length_creations times count ▸ hj
  obtain ⟨hsame, hnext⟩ := apart_of_rate hclock hrate hij hj'
  have hle : times[i].toInt ≤ times[j].toInt :=
    Int64.le_iff_toInt_le.mp (List.pairwise_iff_getElem.mp hclock i j hi' hj' hij)
  rw [getElem_creations times count i hi' hi, getElem_creations times count j hj' hj]
  refine Creation.sessionId_eq_iff_collides (n := j - i) ?_ (Nat.sub_pos_of_lt hij) hle hsame hnext
  show count + UInt64.ofNat (j + 1) = count + UInt64.ofNat (i + 1) + UInt64.ofNat (j - i)
  rw [UInt64.add_assoc, ← UInt64.ofNat_add, show i + 1 + (j - i) = j + 1 by omega]

/-- Two creations that collide. -/
theorem not_nodup_of_collides {count : UInt64} {times : List Int64} {i j : Nat} {t u : Int64}
    (hij : i < j) (ht : times[i]? = some t) (hu : times[j]? = some u)
    (hclock : times.Pairwise (· ≤ ·)) (hrate : ∀ t, times.count t < 1000000)
    (h : Creation.Collides ⟨count + UInt64.ofNat (i + 1), t⟩ ⟨count + UInt64.ofNat (j + 1), u⟩) :
    ¬ (sessionIds count times).Nodup := by
  intro hnodup
  obtain ⟨hi, rfl⟩ := List.getElem?_eq_some_iff.mp ht
  obtain ⟨hj, rfl⟩ := List.getElem?_eq_some_iff.mp hu
  have hpairwise := (sessionIds_nodup_iff count times hclock hrate).mp hnodup
  have hlength := length_creations times count
  have hnot := List.pairwise_iff_getElem.mp hpairwise i j (hlength ▸ hi) (hlength ▸ hj) hij
  rw [getElem_creations times count i hi, getElem_creations times count j hj] at hnot
  exact hnot h

end TcpSession

end MultiProcessServer
