/-
  MultiProcessServer.WebServer.HaiSiHeader
  ────────────────────────────────────────
  The HaiSi header `00 01 L 00` in front of an audio frame: `AddHaiSiHeader`
  writes it, `HaveHaiSiHeader` looks for it in the first frame of a stream, and
  the decoders take four bytes off every frame when it was there.

  `L` is half the length of the body.  It is written as an unsigned byte and
  read as a `char`, whose sign goes into all bits of the `uint16_t` it is
  assigned to: from 128 on the reader expects `2 * (L + 65280)` bytes.

  Main result: `haiSi_written_and_recognised_iff`.
-/
import MultiProcessServer.WebServer.CCodec

namespace MultiProcessServer

namespace CCodec

/-! ## §1. Writing and reading the length byte. -/

/-- The four bytes in front of a frame. -/
def haiSiHeader (len : UInt8) : List UInt8 := [0x00, 0x01, len, 0x00]

/-- `AddHaiSiHeader`: over the first four bytes at `pData`.  Half the length
becomes a `char`. -/
def addHaiSiHeader (pData : List UInt8) (uBodyLen : Nat) : List UInt8 :=
  haiSiHeader (UInt8.ofNat (uBodyLen / 2)) ++ pData.drop 4

/-- The byte string is a frame with its header, `L` an unsigned byte. -/
def IsHaiSiFrame (data : List UInt8) : Prop :=
  ∃ len body, data = haiSiHeader len ++ body ∧ body.length = 2 * len.toNat

/-- `uint16_t nBodyLen = pData[2]`. -/
def readBodyLen (len : UInt8) : Nat := (charToInt len % 65536).toNat

theorem readBodyLen_eq (len : UInt8) :
    readBodyLen len = if len.toNat < 128 then len.toNat else len.toNat + 65280 := by
  have hlt := len.toNat_lt
  unfold readBodyLen charToInt
  split <;> omega

/-- The sign is extended: the header has a length from 128 on, and the body one
of the two lengths on which reader and writer disagree. -/
def SignExtended (data : List UInt8) : Prop :=
  ∃ len body, data = haiSiHeader len ++ body ∧ 128 ≤ len.toNat
    ∧ (body.length = 2 * len.toNat ∨ body.length = 2 * (len.toNat + 65280))

/-! ## §2. What is recognised. -/

/-- A string has at most one reading as a header and a body. -/
theorem haiSiHeader_append_inj {len len' : UInt8} {body body' : List UInt8}
    (h : haiSiHeader len ++ body = haiSiHeader len' ++ body') : len = len' ∧ body = body' := by
  simp only [haiSiHeader, List.cons_append, List.nil_append, List.cons.injEq, true_and] at h
  exact h

/-- On a header the answer is a comparison of two lengths. -/
theorem haveHaiSiHeader_header (len : UInt8) (body : List UInt8) :
    haveHaiSiHeader (haiSiHeader len ++ body) (haiSiHeader len ++ body).length = true
      ↔ body.length = 2 * readBodyLen len := by
  have hlength : (haiSiHeader len ++ body).length = body.length + 4 := rfl
  have hbranch : haveHaiSiHeader (haiSiHeader len ++ body) (body.length + 4)
      = (readBodyLen len * 2 == body.length + 4 - 4) := by
    unfold haveHaiSiHeader
    rw [if_neg (by omega)]
    rfl
  rw [hlength, hbranch, beq_iff_eq]
  omega

/-- Four bytes that pass the three tests are a header. -/
theorem haveHaiSiHeader_shape {data : List UInt8}
    (h : haveHaiSiHeader data data.length = true) : ∃ len body, data = haiSiHeader len ++ body := by
  unfold haveHaiSiHeader at h
  split at h
  · simp at h
  next hlen =>
      split at h
      · simp at h
      next hbytes =>
          simp only [not_or, ne_eq, Decidable.not_not] at hbytes
          obtain ⟨h0, h1, h3⟩ := hbytes
          match data, hlen with
          | b0 :: b1 :: len :: b3 :: body, _ =>
              refine ⟨len, body, ?_⟩
              simp only [List.getD_cons_zero, List.getD_cons_succ] at h0 h1 h3
              rw [h0, h1, h3]
              rfl
          | [], hlen => exact absurd (show [].length < 4 by decide) hlen
          | [_], hlen => exact absurd (Nat.lt_of_sub_eq_succ rfl) hlen
          | [_, _], hlen => exact absurd (Nat.lt_of_sub_eq_succ rfl) hlen
          | [_, _, _], hlen => exact absurd (Nat.lt_of_sub_eq_succ rfl) hlen

/-- What is said of the length and the body of a frame can be read off it. -/
theorem exists_haiSiHeader_iff {len : UInt8} {body : List UInt8}
    (P : UInt8 → List UInt8 → Prop) :
    (∃ len' body', haiSiHeader len ++ body = haiSiHeader len' ++ body' ∧ P len' body')
      ↔ P len body := by
  constructor
  · rintro ⟨len', body', heq, h⟩
    obtain ⟨rfl, rfl⟩ := haiSiHeader_append_inj heq
    exact h
  · exact fun h => ⟨len, body, rfl, h⟩

/-- **What `HaveHaiSiHeader` recognises**, with the length as it reads it. -/
theorem haveHaiSiHeader_iff (data : List UInt8) :
    haveHaiSiHeader data data.length = true
      ↔ ∃ len body, data = haiSiHeader len ++ body ∧ body.length = 2 * readBodyLen len := by
  constructor
  · intro h
    obtain ⟨len, body, rfl⟩ := haveHaiSiHeader_shape h
    exact ⟨len, body, rfl, (haveHaiSiHeader_header len body).mp h⟩
  · rintro ⟨len, body, rfl, hlength⟩
    exact (haveHaiSiHeader_header len body).mpr hlength

/-- **The answer is right** unless the sign is extended. -/
theorem recognised_iff_isHaiSiFrame (data : List UInt8) :
    (haveHaiSiHeader data data.length = true ↔ IsHaiSiFrame data) ↔ ¬ SignExtended data := by
  by_cases hshape : ∃ len body, data = haiSiHeader len ++ body
  · obtain ⟨len, body, rfl⟩ := hshape
    have hframe : IsHaiSiFrame (haiSiHeader len ++ body) ↔ body.length = 2 * len.toNat :=
      exists_haiSiHeader_iff fun len body => body.length = 2 * len.toNat
    have hsign : SignExtended (haiSiHeader len ++ body) ↔ 128 ≤ len.toNat
        ∧ (body.length = 2 * len.toNat ∨ body.length = 2 * (len.toNat + 65280)) :=
      exists_haiSiHeader_iff fun len body => 128 ≤ len.toNat
        ∧ (body.length = 2 * len.toNat ∨ body.length = 2 * (len.toNat + 65280))
    rw [haveHaiSiHeader_header, hframe, hsign, readBodyLen_eq]
    split <;> omega
  · -- no header: nobody takes it for a frame
    refine iff_of_true (iff_of_false (fun h => hshape (haveHaiSiHeader_shape h)) ?_) ?_
    · rintro ⟨len, body, heq, _⟩
      exact hshape ⟨len, body, heq⟩
    · rintro ⟨len, body, heq, _⟩
      exact hshape ⟨len, body, heq⟩

/-! ## §3. A header in front of a body. -/

/-- The header `AddHaiSiHeader` writes into four bytes in front of `body`. -/
theorem addHaiSiHeader_append (room body : List UInt8) (hroom : room.length = 4) :
    addHaiSiHeader (room ++ body) body.length
      = haiSiHeader (UInt8.ofNat (body.length / 2)) ++ body := by
  rw [addHaiSiHeader, List.drop_left' hroom]

/-- What the first frame of a stream tells, of a length an `int` holds. -/
theorem stripHaiSiHeader_first {c : CCodec} (hfirst : c.bDecodeFirstFrame = true)
    {data : List UInt8} (hlen : data.length < 2147483648) :
    (c.stripHaiSiHeader data (toInt data.length)).2
      = if haveHaiSiHeader data data.length then (data.drop 4, (data.length : Int) - 4)
        else (data, (data.length : Int)) := by
  have hint : toInt data.length = data.length := by
    unfold toInt
    omega
  have hsize : toSizeT (data.length : Int) = data.length := by
    unfold toSizeT
    omega
  have hsub : toInt ((data.length : Int) - 4) = data.length - 4 := by
    unfold toInt
    omega
  rw [hint]
  unfold stripHaiSiHeader
  rw [hfirst, hsize]
  cases haveHaiSiHeader data data.length with
  | true => exact congrArg (Prod.mk _) hsub
  | false => rfl

/-- The header of `body` is recognised, and as the first frame of any stream it
loses exactly the header in the decoders. -/
def RecognisedAndStripped (body : List UInt8) : Prop :=
  ∀ room : List UInt8, room.length = 4 →
    haveHaiSiHeader (addHaiSiHeader (room ++ body) body.length) (body.length + 4) = true
      ∧ ∀ (c : CCodec) (eType : AudioCodingType) (ffmpeg : FfmpegAnswer),
        c.bDecodeFirstFrame = true →
          c.body ⟨addHaiSiHeader (room ++ body) body.length, eType, ffmpeg⟩
            = (body, (body.length : Int))

theorem recognised_header_iff {body : List UInt8} (heven : body.length % 2 = 0)
    (hlt : body.length < 512) :
    haveHaiSiHeader (haiSiHeader (UInt8.ofNat (body.length / 2)) ++ body) (body.length + 4) = true
      ↔ body.length < 256 := by
  have hbyte : (UInt8.ofNat (body.length / 2)).toNat = body.length / 2 :=
    UInt8.toNat_ofNat_of_lt' (show body.length / 2 < 256 by omega)
  rw [show body.length + 4 = (haiSiHeader (UInt8.ofNat (body.length / 2)) ++ body).length from rfl,
    haveHaiSiHeader_header, readBodyLen_eq, hbyte]
  split <;> omega

theorem recognisedAndStripped_iff {body : List UInt8} (heven : body.length % 2 = 0)
    (hlt : body.length < 512) : RecognisedAndStripped body ↔ body.length < 256 := by
  constructor
  · intro h
    have hrec := (h (List.replicate 4 0) (List.length_replicate ..)).1
    rw [addHaiSiHeader_append _ _ (List.length_replicate ..)] at hrec
    exact (recognised_header_iff heven hlt).mp hrec
  · intro hsmall room hroom
    have hrec := (recognised_header_iff heven hlt).mpr hsmall
    rw [addHaiSiHeader_append _ _ hroom]
    refine ⟨hrec, fun c eType ffmpeg hfirst => ?_⟩
    -- recognised, so the flag is set and the four bytes go
    have hlength : (haiSiHeader (UInt8.ofNat (body.length / 2)) ++ body).length
        = body.length + 4 := rfl
    rw [CCodec.body, stripHaiSiHeader_first hfirst (by rw [hlength]; omega), hlength, if_pos hrec]
    refine Prod.ext rfl ?_
    show ((body.length + 4 : Nat) : Int) - 4 = body.length
    omega

/-- **When HaiSi headers are written and recognised alike.**  `HaveHaiSiHeader`
tells of a byte string whether it is `00 01 L 00` and `2 * L` bytes exactly when
the string has no such header with an `L` from 128 on followed by `2 * L` or
`2 * (L + 65280)` bytes; and a body of even length below 512 is recognised
behind the header `AddHaiSiHeader` writes, and stripped of exactly that header,
exactly when it is shorter than 256 bytes. -/
theorem haiSi_written_and_recognised_iff (data body : List UInt8)
    (heven : body.length % 2 = 0) (hlt : body.length < 512) :
    ((haveHaiSiHeader data data.length = true ↔ IsHaiSiFrame data) ↔ ¬ SignExtended data)
    ∧ (RecognisedAndStripped body ↔ body.length < 256) :=
  ⟨recognised_iff_isHaiSiFrame data, recognisedAndStripped_iff heven hlt⟩

/-- Three bytes, which are no frame, and the shortest body that is not
recognised. -/
theorem haiSi_three_bytes_and_256 :
    ((haveHaiSiHeader [0, 1, 0] 3 = true ↔ IsHaiSiFrame [0, 1, 0]) ↔ ¬ SignExtended [0, 1, 0])
    ∧ (RecognisedAndStripped (List.replicate 256 0)
      ↔ (List.replicate 256 (0 : UInt8)).length < 256) :=
  haiSi_written_and_recognised_iff [0, 1, 0] (List.replicate 256 0)
    (by rw [List.length_replicate]) (by rw [List.length_replicate]; decide)

/-- 256 bytes behind `00 01 80 00` are a frame that is not recognised. -/
theorem haiSi_256_not_recognised :
    ¬ (haveHaiSiHeader (haiSiHeader 128 ++ List.replicate 256 0) 260 = true
      ↔ IsHaiSiFrame (haiSiHeader 128 ++ List.replicate 256 0)) := by
  intro h
  have hlength : (haiSiHeader 128 ++ List.replicate 256 0).length = 260 := by
    rw [List.length_append, List.length_replicate]
    rfl
  rw [← hlength] at h
  exact (recognised_iff_isHaiSiFrame _).mp h
    ⟨128, _, rfl, by decide, .inl List.length_replicate⟩

end CCodec

end MultiProcessServer
