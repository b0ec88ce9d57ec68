/-
  MultiProcessServer.WebServer.KeyFrame
  ─────────────────────────────────────
  `CRtmpStream::isIdrFrame1` and `isIdrFrame2`: whether a frame of H.264 has a
  NAL unit of a key frame.

  Main result:

    `isIdrFrame1_eq` :
        it ends, reads nothing behind the NUL of the buffer, and finds exactly
        the start codes that are followed by such a unit.

  A unit is judged when the next start code is met, or the end.
-/
import MultiProcessServer.Lib.Memory

namespace MultiProcessServer.CRtmpStream

open Memory (Block Fault)

/-! ## §1. The scan. -/

variable {n : Nat}

/-- The switch over `buf[0] & 0x1f`. -/
def keyType (b : UInt8) : Bool :=
  match (b &&& 0x1f).toNat with
  | 7 => true
  | 8 => true
  | 5 => true
  | 1 => false
  | _ => false

/-- `isIdrFrame2`, of the unit at `buf + first`. -/
def isIdrFrame2 (buf : Block UInt8 n) (first : Nat) (_len : Int) : Except Fault Bool := do
  let b ← buf.get first
  pure (keyType b)

/-- `buf[i - 2] == 0x00 && buf[i - 1] == 0x00 && buf[i] == 0x01`. -/
def startCode (buf : Block UInt8 n) (i : Nat) : Except Fault Bool := do
  let b ← buf.get ((i : Int) - 2)
  if b ≠ 0 then pure false
  else
    let b ← buf.get ((i : Int) - 1)
    if b ≠ 0 then pure false
    else
      let b ← buf.get i
      pure (b == 1)

/-- The unit at `last` is judged at the start code that ends in `buf[i]`. -/
def judge (buf : Block UInt8 n) (i last : Nat) : Except Fault Bool :=
  -- zero stands for no unit: none can begin in front of byte 3
  if last = 0 then pure false
  else do
    let size := (i : Int) - last - 3
    let b ← buf.get ((i : Int) - 3)
    isIdrFrame2 buf last (if b ≠ 0 then size + 1 else size)

/-- The unit at `last` is judged at the end of the buffer. -/
def judgeLast (buf : Block UInt8 n) (i last : Nat) : Except Fault Bool :=
  if last = 0 then pure false else isIdrFrame2 buf last ((i : Int) - last)

/-- The loop over `i`. -/
def scan (buf : Block UInt8 n) (size : Nat) : List Nat → Nat → Except Fault Bool
  | [], _ => pure false
  | i :: is, last =>
      -- the loop goes one turn further than the buffer, to judge the last unit
      if i = size then do
        let ret ← judgeLast buf i last
        if ret then pure true else scan buf size is last
      else do
        let found ← startCode buf i
        if found then
          -- behind the start code another unit begins, which is carried on
          let ret ← judge buf i last
          if ret then pure true else scan buf size is (i + 1)
        else scan buf size is last

/-- `isIdrFrame1`, of a `c_str()`: the bytes with a NUL behind them. -/
def isIdrFrame1 (buf : List UInt8) : Except Fault Bool :=
  scan (.of (buf ++ [0])) buf.length (List.range' 2 (buf.length - 1)) 0

/-! ## §2. What it finds. -/

/-- The type of the NAL unit is that of a key frame: IDR, SPS or PPS. -/
def IsKey (b : UInt8) : Prop :=
  (b &&& 0x1f).toNat = 5 ∨ (b &&& 0x1f).toNat = 7 ∨ (b &&& 0x1f).toNat = 8

instance (b : UInt8) : Decidable (IsKey b) := inferInstanceAs (Decidable (_ ∨ _))

/-- There is a start code at `i`. -/
def StartsAt (buf : List UInt8) (i : Nat) : Prop :=
  buf[i]? = some 0 ∧ buf[i + 1]? = some 0 ∧ buf[i + 2]? = some 1

/-- The byte at `i` begins a unit of a key frame. -/
def KeyAt (buf : List UInt8) (i : Nat) : Prop := ∃ b, buf[i]? = some b ∧ IsKey b

/-- A start code with such a unit behind it, inside the buffer. -/
def HasKeyUnit (buf : List UInt8) : Prop := ∃ i, StartsAt buf i ∧ KeyAt buf (i + 3)

/-! ### One access. -/

theorem keyType_iff (b : UInt8) : keyType b = true ↔ IsKey b := by
  unfold keyType IsKey
  split <;> simp_all

variable {buf : List UInt8}

theorem getElem?_nul {i : Nat} (h : i < buf.length) : (buf ++ [0])[i]? = buf[i]? :=
  List.getElem?_append_left h

/-- **A unit** is judged by its first byte; the NUL is none. -/
theorem isIdrFrame2_spec {first : Nat} (h : first ≤ buf.length) (len : Int) :
    ∃ ret, isIdrFrame2 (.of (buf ++ [0])) first len = .ok ret
      ∧ (ret = true ↔ KeyAt buf first) := by
  -- a unit without bytes begins at the NUL
  have hread : ∃ b, (buf ++ [0])[first]? = some b ∧ (IsKey b ↔ KeyAt buf first) := by
    rcases Nat.lt_or_eq_of_le h with hlt | rfl
    · refine ⟨buf[first], by rw [getElem?_nul hlt, List.getElem?_eq_getElem hlt], ?_⟩
      simp only [KeyAt, List.getElem?_eq_getElem hlt, Option.some.injEq, exists_eq_left']
    · refine ⟨0, List.getElem?_concat_length .., iff_of_false (by decide) ?_⟩
      rintro ⟨b, hb, -⟩
      rw [List.getElem?_eq_none (Nat.le_refl _)] at hb
      cases hb
  obtain ⟨b, hb, hkey⟩ := hread
  exact ⟨keyType b, by rw [isIdrFrame2, Block.get_ok hb]; rfl, (keyType_iff b).trans hkey⟩

/-- **A start code** is looked for inside the buffer. -/
theorem startCode_spec {i : Nat} (h : i + 2 < buf.length) :
    ∃ found, startCode (.of (buf ++ [0])) (i + 2) = .ok found
      ∧ (found = true ↔ StartsAt buf i) := by
  have hget : ∀ {k : Nat}, k < buf.length → ∃ b, buf[k]? = some b
      ∧ (Block.of (buf ++ [0])).get (k : Int) = .ok b := fun {k} hk =>
    ⟨buf[k], List.getElem?_eq_getElem hk, Block.get_ok (by
      rw [← List.getElem?_eq_getElem hk]
      exact getElem?_nul hk)⟩
  obtain ⟨b₀, hb₀, hget₀⟩ := hget (k := i) (by omega)
  obtain ⟨b₁, hb₁, hget₁⟩ := hget (k := i + 1) (by omega)
  obtain ⟨b₂, hb₂, hget₂⟩ := hget (k := i + 2) h
  have hfirst : ((i + 2 : Nat) : Int) - 2 = (i : Nat) := by omega
  have hsecond : ((i + 2 : Nat) : Int) - 1 = (i + 1 : Nat) := by omega
  unfold startCode StartsAt
  simp only [hfirst, hsecond, hget₀, hget₁, hget₂, hb₀, hb₁, hb₂, Option.some.injEq,
    Memory.ok_bind]
  by_cases h₀ : b₀ = 0
  · by_cases h₁ : b₁ = 0
    · exact ⟨b₂ == 1, by simp [h₀, h₁]; rfl, by simp [h₀, h₁]⟩
    · exact ⟨false, by simp [h₀, h₁]; rfl, by simp [h₁]⟩
  · exact ⟨false, by simp [h₀]; rfl, by simp [h₀]⟩

/-- **A unit that ends** at a start code is judged; in front of the first start
code there is none. -/
theorem judge_spec {i last : Nat} (hi : i < buf.length) (hlast : last = 0 ∨ 3 ≤ last)
    (hle : last ≤ i) :
    ∃ ret, judge (.of (buf ++ [0])) i last = .ok ret
      ∧ (ret = true ↔ last ≠ 0 ∧ KeyAt buf last) := by
  unfold judge
  split
  next h => exact ⟨false, rfl, by simp [h]⟩
  next h =>
      -- `buf[i - 3]` is there, the unit began behind a start code
      have hback : ((i : Int) - 3) = (i - 3 : Nat) := by omega
      have hread : (buf ++ [0])[i - 3]? = some buf[i - 3] := by
        rw [getElem?_nul (by omega), List.getElem?_eq_getElem (by omega)]
      rw [hback, Block.get_ok hread, Memory.ok_bind]
      have hinside : last ≤ buf.length := by omega
      obtain ⟨ret, hret, hkey⟩ := isIdrFrame2_spec hinside
        (if buf[i - 3] ≠ 0 then (i : Int) - last - 3 + 1 else (i : Int) - last - 3)
      exact ⟨ret, hret, hkey.trans (iff_and_self.mpr fun _ => h)⟩

theorem judgeLast_spec {i last : Nat} (hle : last ≤ buf.length) :
    ∃ ret, judgeLast (.of (buf ++ [0])) i last = .ok ret
      ∧ (ret = true ↔ last ≠ 0 ∧ KeyAt buf last) := by
  unfold judgeLast
  split
  next h => exact ⟨false, rfl, by simp [h]⟩
  next h =>
      obtain ⟨ret, hret, hkey⟩ := isIdrFrame2_spec hle ((i : Int) - last)
      exact ⟨ret, hret, hkey.trans (iff_and_self.mpr fun _ => h)⟩

/-! ### The loop. -/

/-- **The loop** from `i` on finds the unit it carries, and those behind the start
codes that end at `i` or later.  By induction on the bytes left. -/
theorem scan_spec (k : Nat) : ∀ {i last : Nat}, 2 ≤ i → i + k = buf.length + 1 →
    (last = 0 ∨ 3 ≤ last) → last ≤ i →
    ∃ ret, scan (.of (buf ++ [0])) buf.length (List.range' i k) last = .ok ret
      ∧ (ret = true ↔ (0 < k ∧ last ≠ 0 ∧ KeyAt buf last)
        ∨ ∃ j, i ≤ j + 2 ∧ StartsAt buf j ∧ KeyAt buf (j + 3)) := by
  -- no unit that is found begins behind the buffer
  have hinside : ∀ {j}, KeyAt buf j → j < buf.length := by
    rintro j ⟨b, hb, -⟩
    exact (List.getElem?_eq_some_iff.mp hb).1
  induction k with
  | zero =>
      intro i last _ hend _ _
      refine ⟨false, rfl, iff_of_false (by decide) ?_⟩
      rintro (⟨h, -⟩ | ⟨j, hij, -, hkey⟩)
      · exact absurd h (Nat.lt_irrefl 0)
      · have := hinside hkey
        omega
  | succ k ih =>
      intro i last h2 hend hlast hle
      rw [List.range'_succ, scan]
      by_cases hi : i = buf.length
      · -- the last turn: the unit that is carried ends with the buffer
        obtain rfl : k = 0 := by omega
        have hlater : ¬∃ j, i ≤ j + 2 ∧ StartsAt buf j ∧ KeyAt buf (j + 3) := by
          rintro ⟨j, hij, -, hkey⟩
          have := hinside hkey
          omega
        have hend : last ≤ buf.length := hi ▸ hle
        obtain ⟨ret, hret, hkey⟩ := judgeLast_spec (i := i) hend
        rw [if_pos hi, hret, Memory.ok_bind, or_iff_left hlater]
        refine ⟨ret, by cases ret <;> rfl, ?_⟩
        rw [hkey]
        exact (and_iff_right (Nat.succ_pos 0)).symm
      · obtain ⟨j, rfl⟩ := Nat.exists_eq_add_of_le' h2
        have hj : j + 2 < buf.length := by omega
        obtain ⟨found, hfound, hstarts⟩ := startCode_spec hj
        rw [if_neg hi, hfound, Memory.ok_bind]
        cases found with
        | false =>
            -- the unit that is carried goes on
            have hnone : ¬StartsAt buf j := fun h => Bool.noConfusion (hstarts.mpr h)
            obtain ⟨ret, hret, hfinds⟩ := ih (i := j + 2 + 1) (by omega) (by omega) hlast (by omega)
            refine ⟨ret, hret, hfinds.trans (or_congr ?_ ?_)⟩
            · exact and_congr_left fun _ => iff_of_true (by omega) (by omega)
            · refine exists_congr fun l => and_congr_left fun hl => ⟨by omega, fun hjl => ?_⟩
              have hne : l ≠ j := fun heq => hnone (heq ▸ hl.1)
              omega
        | true =>
            have hstart : StartsAt buf j := hstarts.mp rfl
            obtain ⟨ret, hret, hkey⟩ := judge_spec hj hlast hle
            rw [if_pos rfl, hret, Memory.ok_bind]
            cases ret with
            | true => exact ⟨true, rfl, iff_of_true rfl (Or.inl ⟨k.succ_pos, hkey.mp rfl⟩)⟩
            | false =>
                -- from here on the unit behind the new start code is carried
                have hnot : ¬(last ≠ 0 ∧ KeyAt buf last) := fun h => Bool.noConfusion (hkey.mpr h)
                obtain ⟨ret, hret, hfinds⟩ := ih (i := j + 2 + 1) (by omega) (by omega)
                  (Or.inr (by omega)) (Nat.le_refl _)
                refine ⟨ret, hret, hfinds.trans ?_⟩
                constructor
                · rintro (⟨-, -, hunit⟩ | ⟨l, hjl, hl⟩)
                  · exact Or.inr ⟨j, Nat.le_refl _, hstart, hunit⟩
                  · exact Or.inr ⟨l, by omega, hl⟩
                · rintro (⟨-, hcarried⟩ | ⟨l, hjl, hl⟩)
                  · exact absurd hcarried hnot
                  · rcases Nat.eq_or_lt_of_le hjl with heq | hlt
                    · obtain rfl : l = j := by omega
                      exact Or.inl ⟨by omega, by omega, hl.2⟩
                    · exact Or.inr ⟨l, by omega, hl⟩

/-- **Key frames are detected exactly.**  For every buffer with a NUL behind it
the scan ends, makes no access outside of it, and answers whether there is a
start code with the first byte of an IDR, SPS or PPS unit behind it inside the
buffer. -/
theorem isIdrFrame1_eq (buf : List UInt8) :
    ∃ ret, isIdrFrame1 buf = .ok ret ∧ (ret = true ↔ HasKeyUnit buf) := by
  by_cases hshort : buf.length < 2
  · have hnone : buf.length - 1 = 0 := by omega
    refine ⟨false, by rw [isIdrFrame1, hnone]; rfl, iff_of_false (by decide) ?_⟩
    rintro ⟨i, -, b, hb, -⟩
    have := (List.getElem?_eq_some_iff.mp hb).1
    omega
  · have hend : 2 + (buf.length - 1) = buf.length + 1 := by omega
    obtain ⟨ret, hret, hfinds⟩ :=
      scan_spec (buf.length - 1) (Nat.le_refl 2) hend (Or.inl rfl) (Nat.zero_le 2)
    refine ⟨ret, hret, hfinds.trans ?_⟩
    constructor
    · rintro (⟨-, hzero, -⟩ | ⟨j, -, hunit⟩)
      · exact absurd rfl hzero
      · exact ⟨j, hunit⟩
    · rintro ⟨j, hunit⟩
      exact Or.inr ⟨j, by omega, hunit⟩

/-- A PPS in front of another start code is found; a unit that is no key frame,
and a start code at the very end, are not. -/
example : isIdrFrame1 [0, 0, 0, 1, 0x68, 0, 0, 1, 0x41] = .ok true
    ∧ isIdrFrame1 [0, 0, 1, 0x41, 0x65, 0, 0, 1] = .ok false := by
  decide

end MultiProcessServer.CRtmpStream
