/-
  MultiProcessServer.Lib.Endian
  ─────────────────────────────
  Fixed-width byte orders.  `leBytes n v` is the memory of an `n`-byte
  unsigned integer on a little-endian machine, `ofLE` the load from memory;
  `beBytes`/`ofBE` are their network-order mirrors.  The two directions are
  inverse on values below `256 ^ n` and on byte strings of length `n`.
-/
import Mathlib.Tactic.Common
import Mathlib.Algebra.Group.Nat.Defs
import Mathlib.Data.List.Basic

namespace MultiProcessServer.Endian

/-! ## §1. Little endian. -/

/-- The `n` low bytes of `v`, least significant first. -/
def leBytes : Nat → Nat → List UInt8
  | 0, _ => []
  | n + 1, v => UInt8.ofNat v :: leBytes n (v / 256)

/-- The value of a byte string, least significant byte first. -/
def ofLE : List UInt8 → Nat
  | [] => 0
  | b :: bs => b.toNat + 256 * ofLE bs

@[simp] theorem length_leBytes (n v : Nat) : (leBytes n v).length = n := by
  induction n generalizing v with
  | zero => rfl
  | succ n ih => simp [leBytes, ih]

theorem ofLE_lt (bs : List UInt8) : ofLE bs < 256 ^ bs.length := by
  induction bs with
  | nil => simp [ofLE]
  | cons b bs ih =>
      have hb := b.toNat_lt
      unfold ofLE
      rw [List.length_cons, Nat.pow_succ]
      omega

theorem ofLE_leBytes (n v : Nat) : ofLE (leBytes n v) = v % 256 ^ n := by
  induction n generalizing v with
  | zero => simp [leBytes, ofLE, Nat.mod_one]
  | succ n ih =>
      have hpow : 256 ^ (n + 1) = 256 * 256 ^ n := Nat.pow_succ'
      unfold leBytes
      rw [ofLE, ih, UInt8.toNat_ofNat', hpow, Nat.mod_mul]

theorem ofLE_leBytes_of_lt {n v : Nat} (h : v < 256 ^ n) : ofLE (leBytes n v) = v := by
  rw [ofLE_leBytes, Nat.mod_eq_of_lt h]

theorem leBytes_ofLE (bs : List UInt8) : leBytes bs.length (ofLE bs) = bs := by
  induction bs with
  | nil => rfl
  | cons b bs ih =>
      have hb := b.toNat_lt
      have hdiv : (b.toNat + 256 * ofLE bs) / 256 = ofLE bs := by omega
      have hmod : UInt8.ofNat (b.toNat + 256 * ofLE bs) = b := by
        apply UInt8.toNat_inj.mp
        rw [UInt8.toNat_ofNat']
        omega
      rw [List.length_cons, ofLE, leBytes, hdiv, ih, hmod]

theorem leBytes_ofLE_of_length {n : Nat} {bs : List UInt8} (h : bs.length = n) :
    leBytes n (ofLE bs) = bs := by
  rw [← h, leBytes_ofLE]

/-- Loading `m` low bytes and then `n` high ones. -/
theorem ofLE_append (xs ys : List UInt8) :
    ofLE (xs ++ ys) = ofLE xs + 256 ^ xs.length * ofLE ys := by
  induction xs with
  | nil => simp [ofLE]
  | cons x xs ih =>
      rw [List.cons_append, ofLE, ofLE, ih, List.length_cons, Nat.pow_succ,
        Nat.mul_add, Nat.mul_comm (256 ^ xs.length) 256, Nat.mul_assoc, Nat.add_assoc]

/-! ## §2. Big endian (network order). -/

/-- The `n` low bytes of `v`, most significant first. -/
def beBytes (n v : Nat) : List UInt8 := (leBytes n v).reverse

/-- The value of a byte string, most significant byte first. -/
def ofBE (bs : List UInt8) : Nat := ofLE bs.reverse

@[simp] theorem length_beBytes (n v : Nat) : (beBytes n v).length = n := by
  simp [beBytes]

theorem ofBE_lt (bs : List UInt8) : ofBE bs < 256 ^ bs.length := by
  simpa [ofBE] using ofLE_lt bs.reverse

theorem ofBE_beBytes_of_lt {n v : Nat} (h : v < 256 ^ n) : ofBE (beBytes n v) = v := by
  unfold ofBE
  rw [beBytes, List.reverse_reverse, ofLE_leBytes_of_lt h]

theorem beBytes_ofBE_of_length {n : Nat} {bs : List UInt8} (h : bs.length = n) :
    beBytes n (ofBE bs) = bs := by
  unfold beBytes
  rw [ofBE, leBytes_ofLE_of_length (by simpa using h), List.reverse_reverse]

end MultiProcessServer.Endian
