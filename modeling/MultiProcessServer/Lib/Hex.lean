/-
  MultiProcessServer.Lib.Hex
  ──────────────────────────
  Hexadecimal text as the C library reads and writes it: `printf`'s `%0<w>lx`
  and `strtoull(.., 16)` on NUL-terminated bytes, in the "C" locale.

    `strtoull16_text` : what `%0<w>lx` prints of a 64-bit number,
                        `strtoull` reads back.
-/
import Mathlib.Tactic.Common
import Mathlib.Algebra.Group.Nat.Defs
import Mathlib.Data.List.TakeWhile
import Mathlib.Data.List.Induction

namespace MultiProcessServer.Hex

/-! ## §1. Digits. -/

/-- The lower-case digit of `d < 16`. -/
def digit (d : Nat) : UInt8 := UInt8.ofNat (if d < 10 then 48 + d else 87 + d)

/-- `isxdigit`. -/
def isxdigit (b : UInt8) : Bool :=
  (48 ≤ b && b ≤ 57) || (97 ≤ b && b ≤ 102) || (65 ≤ b && b ≤ 70)

/-- The value of a digit, of either case. -/
def digitValue (b : UInt8) : Nat :=
  if b ≤ 57 then b.toNat - 48 else if b ≤ 70 then b.toNat - 55 else b.toNat - 87

/-- The value of a string of digits, most significant first. -/
def value (ds : List UInt8) : Nat := ds.foldl (fun v b => 16 * v + digitValue b) 0

theorem isxdigit_digit {d : Nat} (hd : d < 16) : isxdigit (digit d) = true := by
  decide +revert

/-- Which of them are decimal. -/
theorem decimal_digit_iff {d : Nat} (hd : d < 16) :
    (48 ≤ digit d && digit d ≤ 57) = true ↔ d ≤ 9 := by
  decide +revert

theorem digitValue_digit {d : Nat} (hd : d < 16) : digitValue (digit d) = d := by
  decide +revert

/-- Only lower-case digits. -/
def Lower (ds : List UInt8) : Prop := ∀ b ∈ ds, ∃ d < 16, b = digit d

theorem Lower.isxdigit {ds : List UInt8} (h : Lower ds) : ∀ b ∈ ds, isxdigit b = true := by
  intro b hb
  obtain ⟨d, hd, rfl⟩ := h b hb
  exact isxdigit_digit hd

theorem value_concat (ds : List UInt8) (b : UInt8) :
    value (ds ++ [b]) = 16 * value ds + digitValue b := by
  simp [value]

/-! ## §2. Printing. -/

/-- The `n` low digits of `v`. -/
def fixed : Nat → Nat → List UInt8
  | 0, _ => []
  | n + 1, v => fixed n (v / 16) ++ [digit (v % 16)]

/-- How many digits `v` needs, at least `n`, at most `n + fuel`. -/
def width : Nat → Nat → Nat → Nat
  | 0, n, _ => n
  | fuel + 1, n, v => if v < 16 ^ n then n else width fuel (n + 1) v

/-- What `printf` makes of `"%0<w>lx"` and a 64-bit number. -/
def text (w : Nat) (v : UInt64) : List UInt8 := fixed (width 16 w v.toNat) v.toNat

@[simp] theorem length_fixed (n v : Nat) : (fixed n v).length = n := by
  induction n generalizing v with
  | zero => rfl
  | succ n ih => simp [fixed, ih]

theorem lower_fixed (n v : Nat) : Lower (fixed n v) := by
  induction n generalizing v with
  | zero => exact nofun
  | succ n ih =>
      refine List.forall_mem_append.mpr ⟨ih (v / 16), List.forall_mem_singleton.mpr ?_⟩
      exact ⟨v % 16, Nat.mod_lt _ (by decide), rfl⟩

theorem value_fixed {n v : Nat} (hv : v < 16 ^ n) : value (fixed n v) = v := by
  induction n generalizing v with
  | zero =>
      have : v = 0 := by simpa using hv
      subst this
      rfl
  | succ n ih =>
      have hdiv : v / 16 < 16 ^ n := by
        rw [Nat.pow_succ] at hv
        exact Nat.div_lt_of_lt_mul (by rwa [Nat.mul_comm])
      unfold fixed
      rw [value_concat, ih hdiv, digitValue_digit (Nat.mod_lt _ (by decide))]
      omega

/-- Small numbers are printed differently. -/
theorem fixed_inj {n v v' : Nat} (hv : v < 16 ^ n) (hv' : v' < 16 ^ n)
    (heq : fixed n v = fixed n v') : v = v' := by
  rw [← value_fixed hv, heq, value_fixed hv']

/-- A string of lower-case digits is what is printed, at its length, of the
number it writes. -/
theorem fixed_value (ds : List UInt8) (hds : Lower ds) :
    fixed ds.length (value ds) = ds := by
  induction ds using List.reverseRecOn with
  | nil => rfl
  | append_singleton ds b ih =>
      obtain ⟨d, hd, rfl⟩ := hds b (by simp)
      have hdiv : (16 * value ds + d) / 16 = value ds := by omega
      have hmod : (16 * value ds + d) % 16 = d := by omega
      rw [List.length_append, List.length_singleton, fixed, value_concat, digitValue_digit hd,
        hdiv, hmod, ih fun b hb => hds b (List.mem_append_left _ hb)]

/-- Two digits for each byte. -/
def bytes (bs : List UInt8) : List UInt8 := bs.flatMap fun b => fixed 2 b.toNat

@[simp] theorem length_bytes (bs : List UInt8) : (bytes bs).length = 2 * bs.length := by
  induction bs with
  | nil => rfl
  | cons b bs ih =>
      show (fixed 2 b.toNat ++ bytes bs).length = _
      rw [List.length_append, length_fixed, ih, List.length_cons]
      omega

theorem lower_bytes (bs : List UInt8) : Lower (bytes bs) := by
  intro d hd
  obtain ⟨b, -, hb⟩ := List.mem_flatMap.mp hd
  exact lower_fixed 2 b.toNat d hb

/-- Different bytes have different digits. -/
theorem bytes_inj {bs : List UInt8} : ∀ {bs' : List UInt8}, bytes bs = bytes bs' → bs = bs' := by
  induction bs with
  | nil =>
      intro bs' h
      have hlength := congrArg List.length h
      simp only [length_bytes, List.length_nil] at hlength
      exact (List.eq_nil_of_length_eq_zero (by omega)).symm
  | cons b bs ih =>
      intro bs' h
      cases bs' with
      | nil =>
          have hlength := congrArg List.length h
          simp only [length_bytes, List.length_cons, List.length_nil] at hlength
          omega
      | cons b' bs' =>
          have hsplit : fixed 2 b.toNat ++ bytes bs = fixed 2 b'.toNat ++ bytes bs' := h
          obtain ⟨hhead, htail⟩ := List.append_inj hsplit (by simp)
          rw [UInt8.toNat_inj.mp (fixed_inj b.toNat_lt b'.toNat_lt hhead), ih htail]

theorem digitValue_lt {b : UInt8} (hb : isxdigit b = true) : digitValue b < 16 := by
  simp only [isxdigit, Bool.or_eq_true, Bool.and_eq_true, decide_eq_true_eq,
    UInt8.le_iff_toNat_le, UInt8.reduceToNat] at hb
  unfold digitValue
  simp only [UInt8.le_iff_toNat_le, UInt8.reduceToNat]
  split
  next => omega
  next =>
      split
      · omega
      · omega

theorem value_lt (ds : List UInt8) (hds : ∀ b ∈ ds, isxdigit b = true) :
    value ds < 16 ^ ds.length := by
  induction ds using List.reverseRecOn with
  | nil => exact Nat.one_pos
  | append_singleton ds b ih =>
      have hb := digitValue_lt (hds b (by simp))
      have hlt := ih fun b hb => hds b (List.mem_append_left _ hb)
      rw [List.length_append, List.length_singleton, value_concat, Nat.pow_succ]
      omega

theorem width_of_lt {fuel n v : Nat} (hv : v < 16 ^ n) : width fuel n v = n := by
  cases fuel with
  | zero => rfl
  | succ fuel => rw [width, if_pos hv]

theorem le_width (fuel n v : Nat) : n ≤ width fuel n v := by
  induction fuel generalizing n with
  | zero => exact Nat.le_refl n
  | succ fuel ih =>
      unfold width
      split
      · exact Nat.le_refl n
      · exact Nat.le_of_succ_le (ih (n + 1))

theorem lt_pow_width {fuel n v : Nat} (hv : v < 16 ^ (n + fuel)) :
    v < 16 ^ width fuel n v := by
  induction fuel generalizing n with
  | zero => exact hv
  | succ fuel ih =>
      unfold width
      split
      next h => exact h
      next => exact ih (by rwa [Nat.add_right_comm, Nat.add_assoc])

/-- The text is long enough for the number. -/
theorem value_text (w : Nat) (v : UInt64) : value (text w v) = v.toNat := by
  have hv : v.toNat < 16 ^ (w + 16) := by
    have h64 : v.toNat < 16 ^ 16 := v.toNat_lt
    exact Nat.lt_of_lt_of_le h64 (Nat.pow_le_pow_right (by decide) (Nat.le_add_left 16 w))
  exact value_fixed (lt_pow_width hv)

theorem text_of_lt {w : Nat} {v : UInt64} (hv : v.toNat < 16 ^ w) :
    text w v = fixed w v.toNat := by
  unfold text
  rw [width_of_lt hv]

theorem length_text (w : Nat) (v : UInt64) : (text w v).length = width 16 w v.toNat :=
  length_fixed _ _

theorem le_length_text (w : Nat) (v : UInt64) : w ≤ (text w v).length := by
  rw [length_text]
  exact le_width 16 w v.toNat

/-- A number that does not fit is longer. -/
theorem lt_length_text {w : Nat} {v : UInt64} (hv : 16 ^ w ≤ v.toNat) :
    w < (text w v).length := by
  rw [length_text, width, if_neg (Nat.not_lt.mpr hv)]
  exact le_width 15 (w + 1) v.toNat

/-! ## §3. Reading. -/

/-- The characters of a NUL-terminated string that starts with these bytes
(a NUL follows the last of them). -/
def cString (bytes : List UInt8) : List UInt8 := bytes.takeWhile fun b => b != 0

/-- `isspace`. -/
def isspace (b : UInt8) : Bool := b == 32 || (9 ≤ b && b ≤ 13)

/-- The optional sign: whether it is a minus, and what follows. -/
def sign : List UInt8 → Bool × List UInt8
  | 45 :: s => (true, s)
  | 43 :: s => (false, s)
  | s => (false, s)

/-- The optional `0x`; it belongs to the number only in front of a digit. -/
def skipPrefix : List UInt8 → List UInt8
  | 48 :: x :: b :: s => if (x == 120 || x == 88) && isxdigit b then b :: s else 48 :: x :: b :: s
  | s => s

/-- `strtoull(s, nullptr, 16)`: saturating, and negated modulo `2 ^ 64` after a
minus. -/
def strtoull16 (s : List UInt8) : UInt64 :=
  let (minus, s) := sign (s.dropWhile isspace)
  let v := value ((skipPrefix s).takeWhile isxdigit)
  -- what is too large stays so behind a minus
  if 2 ^ 64 ≤ v then UInt64.ofNat (2 ^ 64 - 1)
  else if minus then -UInt64.ofNat v else UInt64.ofNat v

/-- What `strtoull` finds: whether there is a minus, and the digits' value. -/
def number (s : List UInt8) : Bool × Nat :=
  let (minus, s) := sign (s.dropWhile isspace)
  (minus, value ((skipPrefix s).takeWhile isxdigit))

theorem length_sign_le (s : List UInt8) : (sign s).2.length ≤ s.length := by
  unfold sign
  split
  · exact Nat.le_succ _
  · exact Nat.le_succ _
  · exact Nat.le_refl _

theorem length_skipPrefix_le (s : List UInt8) : (skipPrefix s).length ≤ s.length := by
  unfold skipPrefix
  split
  · split
    · simp only [List.length_cons]
      omega
    · exact Nat.le_refl _
  · exact Nat.le_refl _

/-- The digits are some of the characters. -/
theorem number_lt (s : List UInt8) : (number s).2 < 16 ^ s.length := by
  have hdigits : ∀ b ∈ (skipPrefix (sign (s.dropWhile isspace)).2).takeWhile isxdigit,
      isxdigit b = true := fun b hb => List.mem_takeWhile_imp hb
  refine Nat.lt_of_lt_of_le (value_lt _ hdigits) (Nat.pow_le_pow_right (by decide) ?_)
  exact (List.takeWhile_prefix _).length_le.trans ((length_skipPrefix_le _).trans
    ((length_sign_le _).trans (List.dropWhile_suffix _).length_le))

/-- Up to fifteen characters do not saturate. -/
theorem toNat_strtoull16_of_short {s : List UInt8} (h : s.length ≤ 15) :
    (strtoull16 s).toNat
      = if (number s).1 = true ∧ (number s).2 ≠ 0 then 2 ^ 64 - (number s).2
        else (number s).2 := by
  have hpow : 16 ^ s.length ≤ 16 ^ 15 := Nat.pow_le_pow_right (by decide) h
  have hlt : (number s).2 < 16 ^ 15 := Nat.lt_of_lt_of_le (number_lt s) hpow
  show (if 2 ^ 64 ≤ (number s).2 then _ else if (number s).1 then -UInt64.ofNat (number s).2
    else UInt64.ofNat (number s).2 : UInt64).toNat = _
  have hval : (UInt64.ofNat (number s).2).toNat = (number s).2 :=
    UInt64.toNat_ofNat_of_lt' (by show _ < 2 ^ 64; omega)
  rw [if_neg (by omega)]
  cases (number s).1 with
  | false => simpa using hval
  | true =>
      rw [if_pos rfl, UInt64.toNat_neg, hval]
      show (2 ^ 64 - (number s).2) % 2 ^ 64 = _
      split
      next hne => exact Nat.mod_eq_of_lt (by omega)
      next hzero =>
          -- a minus in front of zero leaves it zero
          have hzero : (number s).2 = 0 := by_contra fun hne => hzero ⟨rfl, hne⟩
          rw [hzero]
          rfl

theorem isxdigit_ne {b : UInt8} (hb : isxdigit b = true) :
    isspace b = false ∧ b ≠ 45 ∧ b ≠ 43 ∧ b ≠ 120 ∧ b ≠ 88 ∧ b ≠ 0 := by
  have hne : ∀ c, isxdigit c = false → b ≠ c := fun c hc heq => by simp [← heq, hb] at hc
  refine ⟨?_, hne _ rfl, hne _ rfl, hne _ rfl, hne _ rfl, hne _ rfl⟩
  -- the blanks are all below the digits
  simp only [isxdigit, Bool.or_eq_true, Bool.and_eq_true, decide_eq_true_eq,
    UInt8.le_iff_toNat_le] at hb
  unfold isspace
  rw [Bool.or_eq_false_iff, Bool.and_eq_false_iff]
  simp only [beq_eq_false_iff_ne, ne_eq, ← UInt8.toNat_inj, decide_eq_false_iff_not,
    UInt8.le_iff_toNat_le]
  simp only [UInt8.reduceToNat] at hb ⊢
  omega

theorem cString_of_digits {ds : List UInt8} (hds : ∀ b ∈ ds, isxdigit b = true) :
    cString ds = ds :=
  List.takeWhile_eq_self_iff.mpr fun b hb => by simp [(isxdigit_ne (hds b hb)).2.2.2.2.2]

/-- A string of digits is read as the number it writes. -/
theorem strtoull16_of_digits {ds : List UInt8} (hds : ∀ b ∈ ds, isxdigit b = true)
    (hlt : value ds < 2 ^ 64) : strtoull16 ds = UInt64.ofNat (value ds) := by
  have hspace : ds.dropWhile isspace = ds := by
    cases ds with
    | nil => rfl
    | cons b s =>
        rw [List.dropWhile_cons_of_neg]
        simp [(isxdigit_ne (hds b List.mem_cons_self)).1]
  have hsign : sign ds = (false, ds) := by
    unfold sign
    split
    next => exact absurd rfl (isxdigit_ne (hds 45 List.mem_cons_self)).2.1
    next => exact absurd rfl (isxdigit_ne (hds 43 List.mem_cons_self)).2.2.1
    next => rfl
  have hbegins : skipPrefix ds = ds := by
    unfold skipPrefix
    split
    next x b s =>
        -- the second character is a digit, not an `x`
        obtain ⟨-, -, -, hx, hX, -⟩ := isxdigit_ne (hds x (by simp))
        simp [hx, hX]
    next => rfl
  have hall : ds.takeWhile isxdigit = ds := List.takeWhile_eq_self_iff.mpr hds
  rw [strtoull16, hspace, hsign]
  simp only [hbegins, hall, if_neg (Nat.not_le.mpr hlt), Bool.false_eq_true, if_false]

/-- Up to sixteen lower-case digits are read as what they write. -/
theorem toNat_strtoull16 {ds : List UInt8} (hds : Lower ds) (hle : ds.length ≤ 16) :
    (strtoull16 ds).toNat = value ds := by
  have hlt : value ds < 2 ^ 64 := by
    have hpow : 16 ^ ds.length ≤ 16 ^ 16 := Nat.pow_le_pow_right (by decide) hle
    exact Nat.lt_of_lt_of_le (value_lt ds hds.isxdigit) hpow
  rw [strtoull16_of_digits hds.isxdigit hlt, UInt64.toNat_ofNat_of_lt' hlt]

/-- **`strtoull` reads what `printf` prints.** -/
theorem strtoull16_text (w : Nat) (v : UInt64) : strtoull16 (cString (text w v)) = v := by
  have hds : ∀ b ∈ text w v, isxdigit b = true := (lower_fixed _ _).isxdigit
  rw [cString_of_digits hds, strtoull16_of_digits hds (by rw [value_text]; exact v.toNat_lt),
    value_text, UInt64.ofNat_toNat]

end MultiProcessServer.Hex
