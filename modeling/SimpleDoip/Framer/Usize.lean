import SimpleDoip.Entity.Service

/-!
# The framer in machine arithmetic

A declared length is a `u32`, and the framer computes with it in `usize`. `tryFrameUsize` is the
framer with every conversion, addition, subtraction and slice done as a machine of `w` bits does
them; an overflow or a slice out of range is a panic. The framer compares before it adds, so on 32
bits and more it never panics and is `tryFrame` (`tryFrameUsize_eq`), which is stable under more
input.
-/

namespace SimpleDoip

open Framing

/-- `a + b` on a `usize` of `w` bits, where an overflow is `none`: it panics, or wraps around in a
release build. -/
def checkedAdd (w a b : Nat) : Option Nat := if a + b < 2 ^ w then some (a + b) else none

/-- `n as usize`, for a `u32`: it loses the high bits on a machine of fewer than 32. -/
def asUsize (w : Nat) (n : UInt32) : Nat := n.toNat % 2 ^ w

theorem asUsize_eq {w : Nat} (hw : 32 ≤ w) (n : UInt32) : asUsize w n = n.toNat := by
  have hn : n.toNat < 2 ^ 32 := n.toNat_lt
  have hpow : 2 ^ 32 ≤ 2 ^ w := Nat.pow_le_pow_right (by omega) hw
  exact Nat.mod_eq_of_lt (by omega)

section
variable {ι : Type} [WireCodec ι]

/-- `try_frame` on a machine of `w` bits, with each cast and addition as the source has it. -/
def tryFrameUsize (w : Nat) (buf : List UInt8) :
    Option (Except (MessageError ι) (Option (RawFrame × Nat))) :=
  if buf.length < Header.SIZE then
    some (.ok none)
  else do
    let head ← sliceTo buf Header.SIZE
    match Header.decode head with
    | .error e => return .error e
    | .ok (header, _) =>
      let payloadLen := asUsize w header.payloadLength
      let available ← checkedSub buf.length Header.SIZE
      if available < payloadLen then
        return .ok none
      else
        let total ← checkedAdd w Header.SIZE payloadLen
        let payload ← sliceRange buf Header.SIZE total
        return .ok (some ({ header, payload }, total))

/-- **The framer never overflows**: what it adds up was compared with the buffer before, and that is
in memory. -/
theorem tryFrameUsize_eq {w : Nat} (hw : 32 ≤ w) {buf : List UInt8} (hlen : buf.length < 2 ^ w) :
    tryFrameUsize (ι := ι) w buf = some (tryFrame buf) := by
  rw [← tryFrameChecked_eq]
  unfold tryFrameUsize tryFrameChecked
  by_cases hs : buf.length < Header.SIZE
  · rw [if_pos hs, if_pos hs]
  · have hsize := Nat.le_of_not_lt hs
    rw [if_neg hs, if_neg hs, sliceTo, if_pos hsize]
    simp only [Option.bind_eq_bind, Option.bind_some]
    cases Header.decode (ι := ι) (buf.take Header.SIZE) with
    | error e => rfl
    | ok decoded =>
      simp only [asUsize_eq hw, checkedSub, if_pos hsize, Option.bind_some]
      split
      · rfl
      · next hfits =>
        have hadd : Header.SIZE + decoded.1.payloadLength.toNat < 2 ^ w := by omega
        rw [checkedAdd, if_pos hadd, Option.bind_some]

/-- A buffer that needs more is shorter than a header, or the front of the frame its sound header
declares. -/
theorem tryFrame_eq_more {b : List UInt8} (h : tryFrame (ι := ι) b = .ok none) :
    b.length < 8 ∨ ∃ header rest, Header.decode (ι := ι) b = .ok (header, rest) ∧
      b.length < 8 + header.payloadLength.toNat := by
  have hread : readFrame (inverseCheck (ι := ι)) b = .more := by
    rw [← readingOf_tryFrame, h]
    rfl
  by_cases hs : b.length < 8
  · exact .inl hs
  obtain ⟨v, i, t, n, rest, rfl⟩ := exists_rawHeader (Nat.le_of_not_lt hs)
  rw [readFrame_raw, inverseCheck_headerOf] at hread
  by_cases hi : ~~~v = i
  · by_cases hrest : rest.length < n.toNat
    · refine .inr ⟨headerOf v i t n, rest, by rw [Header.decode_raw, if_pos hi], ?_⟩
      show (rawHeader v i t n ++ rest).length < 8 + n.toNat
      rw [List.length_append, length_rawHeader]
      omega
    · simp [hi, hrest] at hread
  · simp [hi] at hread

/-- **The framer is stable under more input and safe in its arithmetic.** On a machine of 32 or 64
bits, and for buffers whose length is a `usize`, it never panics. A frame or an error is the same
whatever follows; if it asks for more, the buffer is shorter than a header or a proper prefix of the
frame its sound header declares; and a frame has the payload its header declares and lies within
the buffer. -/
theorem try_frame_stable {w : Nat} (hw : w = 32 ∨ w = 64) {b x : List UInt8}
    (hlen : (b ++ x).length < 2 ^ w) :
    ∃ result, tryFrameUsize (ι := ι) w b = some result ∧
      (result ≠ .ok none → tryFrameUsize (ι := ι) w (b ++ x) = some result) ∧
      (result = .ok none → b.length < 8 ∨ ∃ header rest,
        Header.decode (ι := ι) b = .ok (header, rest) ∧
          b.length < 8 + header.payloadLength.toNat) ∧
      ∀ frame consumed, result = .ok (some (frame, consumed)) →
        frame.payload.length = frame.header.payloadLength.toNat ∧
        consumed = 8 + frame.header.payloadLength.toNat ∧ consumed ≤ b.length := by
  have hw32 : 32 ≤ w := by omega
  have hb : b.length < 2 ^ w := by
    rw [List.length_append] at hlen
    omega
  refine ⟨tryFrame b, tryFrameUsize_eq hw32 hb, fun hdecided => ?_, tryFrame_eq_more, ?_⟩
  · rw [tryFrameUsize_eq hw32 hlen, tryFrame_append hdecided x]
  · intro frame consumed hframe
    obtain ⟨v, i, t, n, rest, hparts, hheader, hpayload, hconsumed, -⟩ :=
      readFrame_eq_item ((readingOf_tryFrame b).symm.trans (congrArg readingOf hframe))
    have hn : frame.header.payloadLength = n := by rw [hheader]; rfl
    rw [hn]
    refine ⟨hpayload, hconsumed, ?_⟩
    rw [hparts, List.length_append, List.length_append, length_rawHeader]
    omega

end

/-- A whole frame stays what it is when a byte follows it, and a header that declares the greatest
length waits on 32 bits too. -/
theorem try_frame_stable_nack :
    letI := plainWire
    let nack : List UInt8 := [0x02, 0xFD, 0x00, 0x00, 0, 0, 0, 1, 0x03]
    let hostile : List UInt8 := [0x02, 0xFD, 0x00, 0x00, 0xFF, 0xFF, 0xFF, 0xFF]
    tryFrameUsize 32 (nack ++ [0xAA]) =
      some (.ok (some (⟨headerOf 0x02 0xFD 0x0000 1, [0x03]⟩, 9))) ∧
    tryFrameUsize 32 hostile = some (.ok none) := by
  let := plainWire
  have hnack : tryFrameUsize 32 [0x02, 0xFD, 0x00, 0x00, 0, 0, 0, 1, 0x03] =
      some (.ok (some (⟨headerOf 0x02 0xFD 0x0000 1, [0x03]⟩, 9))) := rfl
  refine ⟨?_, rfl⟩
  obtain ⟨result, hresult, hstable, -⟩ := try_frame_stable (.inl rfl)
    (b := [0x02, 0xFD, 0x00, 0x00, 0, 0, 0, 1, 0x03]) (x := [0xAA]) (by decide)
  cases hnack.symm.trans hresult
  refine hstable ?_
  intro h
  cases h

end SimpleDoip
