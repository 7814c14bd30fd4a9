import NamespaceBootstrap.Proofs.Channel

/-! The blob frame, read and written exactly. A blob is read as four length bytes, taken as a
signed number, and then that many bytes. The reader accepts exactly the frames the writer makes:
a length within the limit followed by at least that many bytes gives those bytes and leaves
the rest unread. A negative length or one above 1 MiB is refused as malformed once its four
bytes are read, and an input that ends before the length or before the blob is a short read
that takes all that is left. The writer frames exactly the blobs within the limit, so a blob is
written exactly when it would be read back. -/

namespace NamespaceBootstrap.Wire

theorem be32_ofBe32 (b0 b1 b2 b3 : UInt8) : be32 (ofBe32 b0 b1 b2 b3) = [b0, b1, b2, b3] := by
  have h0 := b0.toNat_lt
  have h1 := b1.toNat_lt
  have h2 := b2.toNat_lt
  have h3 := b3.toNat_lt
  have hw : (ofBe32 b0 b1 b2 b3).toNat =
      ((b0.toNat * 256 + b1.toNat) * 256 + b2.toNat) * 256 + b3.toNat := by
    rw [ofBe32, UInt32.toNat_ofNat', Nat.mod_eq_of_lt (by omega)]
  simp only [be32, List.cons.injEq, ← UInt8.toNat_inj, UInt32.toNat_toUInt8,
    UInt32.toNat_shiftRight, hw, and_true]
  simp only [UInt32.reduceToNat, Nat.reduceMod, Nat.shiftRight_eq_div_pow, Nat.reducePow]
  omega

theorem toUInt32_of_nonneg {p : Int32} (h : 0 ≤ p.toInt) :
    p.toUInt32 = UInt32.ofNat p.toInt.toNat := by
  apply UInt32.toNat_inj.1
  rw [Int32.toNat_toUInt32_of_le (Int32.le_iff_toInt_le.2 (by simpa using h))]
  have := p.toInt_lt
  rw [UInt32.toNat_ofNat', Nat.mod_eq_of_lt (by omega)]
  rfl

theorem encodePayload_eq (b : List UInt8) :
    encodePayload b =
      if b.length ≤ maxBlob then .ok (be32 (UInt32.ofNat b.length) ++ b)
      else .error (.channel "encoding payload" (.malformed s!"blob of {b.length} bytes is too large"))
      := by
  by_cases h : b.length ≤ maxBlob
  · simp [encodePayload, encodeBlob, h, Nat.not_lt.2 h]
  · simp [encodePayload, encodeBlob, h, Nat.lt_of_not_le h]

namespace Stream

variable {s : Stream} {step : String}

theorem unread_cases (s : Stream) :
    s.unread.length < 4 ∨ ∃ (p : Int32) (r : List UInt8), s.unread = be32 p.toUInt32 ++ r := by
  match h : s.unread with
  | b0 :: b1 :: b2 :: b3 :: r =>
    refine .inr ⟨(ofBe32 b0 b1 b2 b3).toInt32, r, ?_⟩
    rw [UInt32.toUInt32_toInt32, be32_ofBe32]
    rfl
  | [] | [_] | [_, _] | [_, _, _] => exact .inl (by simp)

theorem read_short {n : Nat} (hs : s.closed = false) (hn : s.unread.length < n) :
    s.read n = (.error .shortRead, { s with unread := [], consumed := s.consumed + s.unread.length })
    := by
  simp [read, hs, Nat.not_le.2 hn, Nat.ne_zero_of_lt hn]

theorem readExact_short {n : Nat} (hs : s.closed = false) (hn : s.unread.length < n) :
    s.readExact n step = (.error (.channel step .shortRead),
      { s with unread := [], consumed := s.consumed + s.unread.length }) := by
  simp [readExact, read_short hs hn]

theorem readExact_take {n : Nat} (hs : s.closed = false) (hn : n ≤ s.unread.length) :
    s.readExact n step =
      (.ok (s.unread.take n), { s with unread := s.unread.drop n, consumed := s.consumed + n }) := by
  have hsplit : s.unread = s.unread.take n ++ s.unread.drop n := (List.take_append_drop n _).symm
  have hlen : (s.unread.take n).length = n := List.length_take_of_le hn
  have h := readExact_append step hsplit hs
  rwa [hlen] at h

theorem readBlob_short (hs : s.closed = false) (hn : s.unread.length < 4) :
    s.readBlob step = (.error (.channel step .shortRead),
      { s with unread := [], consumed := s.consumed + s.unread.length }) := by
  simp only [readBlob, readInt, readWord, readExact_short hs hn]

/-- After the four length bytes the reader decides on the length alone: it refuses one out of
range where it stands, and otherwise reads that many bytes. -/
theorem readBlob_be32 (p : Int32) (r : List UInt8) (hu : s.unread = be32 p.toUInt32 ++ r)
    (hs : s.closed = false) :
    s.readBlob step =
      if p.toInt < 0 then (.error (.channel step (.malformed s!"negative blob length {p.toInt}")),
        { s with unread := r, consumed := s.consumed + 4 })
      else if maxBlob < p.toInt then
        (.error (.channel step (.malformed s!"blob length {p.toInt} exceeds {maxBlob}")),
          { s with unread := r, consumed := s.consumed + 4 })
      else ({ s with unread := r, consumed := s.consumed + 4 } : Stream).readExact p.toInt.toNat step
      := by
  simp only [readBlob, readInt_be32 _ step hu hs, Int32.toInt32_toUInt32]

theorem frame_of_readBlob {b : List UInt8} {s' : Stream} (hs : s.closed = false)
    (h : s.readBlob step = (.ok b, s')) :
    ∃ r, s.unread = be32 (UInt32.ofNat b.length) ++ b ++ r ∧ b.length ≤ maxBlob ∧
      s' = { s with unread := r, consumed := s.consumed + (4 + b.length) } := by
  rcases s.unread_cases with hn | ⟨p, r, hu⟩
  · simp [readBlob_short hs hn] at h
  rw [readBlob_be32 p r hu hs] at h
  split_ifs at h with hneg hbig
  · simp at h
  · simp at h
  -- the length is in range: the body is read whole, or the read fails short
  have hbody : p.toInt.toNat ≤ r.length := by
    refine Nat.le_of_not_lt fun hlt => ?_
    rw [readExact_short (s := { s with unread := r, consumed := s.consumed + 4 }) hs hlt] at h
    simp at h
  rw [readExact_take (s := { s with unread := r, consumed := s.consumed + 4 }) hs hbody] at h
  simp only [Prod.mk.injEq, Except.ok.injEq] at h
  obtain ⟨rfl, rfl⟩ := h
  have hlen : (r.take p.toInt.toNat).length = p.toInt.toNat := List.length_take_of_le hbody
  refine ⟨r.drop p.toInt.toNat, ?_, ?_, ?_⟩
  · rw [hu, hlen, ← toUInt32_of_nonneg (Int.not_lt.1 hneg), List.append_assoc,
      List.take_append_drop]
  · rw [hlen]
    omega
  · simp only [hlen, Nat.add_assoc]

/-- A stream holding a framed payload reads the payload back, whatever follows the frame. -/
theorem readBlob_encodePayload {b frame r : List UInt8} (hframe : encodePayload b = .ok frame)
    (hs : s.closed = false) (hu : s.unread = frame ++ r) :
    s.readBlob step = (.ok b, { s with unread := r, consumed := s.consumed + (4 + b.length) }) := by
  rw [encodePayload_eq] at hframe
  split_ifs at hframe with hn
  cases hframe
  exact readBlob_frame step (by simp [hu]) hs hn

/-- On a stream that takes every write, a blob within the limit is written as its frame, and a
larger one is refused before anything is written. -/
theorem writeBlob_eq (b : List UInt8) (hs : s.closed = false) (hroom : s.room = none)
    (hpeer : s.peerGone = false) :
    s.writeBlob b step =
      if b.length ≤ maxBlob then
        (.ok (), { s with written := s.written ++ (be32 (UInt32.ofNat b.length) ++ b) })
      else (.error (.channel step (.malformed s!"blob of {b.length} bytes is too large")), s) := by
  by_cases h : b.length ≤ maxBlob
  · simp [writeBlob, encodeBlob, writeExact, write, h, Nat.not_lt.2 h, hs, hroom, hpeer, be32]
  · simp [writeBlob, encodeBlob, h, Nat.lt_of_not_le h]

end Stream

/-- A blob is read exactly as it is framed. On an open stream, whatever it holds: a read gives a
blob exactly when the input starts with the blob's length, within the limit, and the blob, and
then it takes those bytes and no more; a length that is negative or above the limit is refused
as malformed after its four bytes; an input that ends before the length or before the blob is a
short read that takes all there is. The writer frames exactly the blobs within the limit, as
their length and their bytes, and writes nothing for a larger one; so every framed blob is read
back, whatever follows it. -/
theorem readBlob_reads_exactly_frames (s : Stream) (step : String) (hs : s.closed = false) :
    (∀ b s', s.readBlob step = (.ok b, s') ↔
      ∃ r, s.unread = be32 (UInt32.ofNat b.length) ++ b ++ r ∧ b.length ≤ maxBlob ∧
        s' = { s with unread := r, consumed := s.consumed + (4 + b.length) }) ∧
    (∀ (p : Int32) r, s.unread = be32 p.toUInt32 ++ r → (p.toInt < 0 ∨ maxBlob < p.toInt) →
      s.readBlob step = (.error (.channel step (.malformed
          (if p.toInt < 0 then s!"negative blob length {p.toInt}"
            else s!"blob length {p.toInt} exceeds {maxBlob}"))),
        { s with unread := r, consumed := s.consumed + 4 })) ∧
    ((s.unread.length < 4 ∨ ∃ (p : Int32) (r : List UInt8), s.unread = be32 p.toUInt32 ++ r ∧
        0 ≤ p.toInt ∧ p.toInt ≤ maxBlob ∧ r.length < p.toInt) →
      s.readBlob step = (.error (.channel step .shortRead),
        { s with unread := [], consumed := s.consumed + s.unread.length })) ∧
    (∀ b, encodePayload b =
      if b.length ≤ maxBlob then .ok (be32 (UInt32.ofNat b.length) ++ b)
      else .error (.channel "encoding payload"
        (.malformed s!"blob of {b.length} bytes is too large"))) ∧
    (s.room = none → s.peerGone = false → ∀ b, s.writeBlob b step =
      if b.length ≤ maxBlob then
        (.ok (), { s with written := s.written ++ (be32 (UInt32.ofNat b.length) ++ b) })
      else (.error (.channel step (.malformed s!"blob of {b.length} bytes is too large")), s)) ∧
    (∀ b frame r, encodePayload b = .ok frame →
      ({ s with unread := frame ++ r } : Stream).readBlob step =
        (.ok b, { s with unread := r, consumed := s.consumed + (4 + b.length) })) := by
  refine ⟨fun b s' => ⟨Stream.frame_of_readBlob hs, ?_⟩, ?_, ?_, encodePayload_eq,
    fun hroom hpeer b => Stream.writeBlob_eq b hs hroom hpeer, ?_⟩
  · rintro ⟨r, hu, hn, rfl⟩
    exact Stream.readBlob_frame step hu hs hn
  · intro p r hu hout
    rw [Stream.readBlob_be32 p r hu hs]
    rcases hout with hneg | hbig
    · simp [hneg]
    · simp [show ¬p.toInt < 0 by omega, hbig]
  · rintro (hn | ⟨p, r, hu, hpos, hmax, hlt⟩)
    · exact Stream.readBlob_short hs hn
    · have hlen : s.unread.length = 4 + r.length := by simp [hu]
      have hshort : ({ s with unread := r, consumed := s.consumed + 4 } : Stream).unread.length <
          p.toInt.toNat := by
        show r.length < p.toInt.toNat
        omega
      rw [Stream.readBlob_be32 p r hu hs, if_neg (Int.not_lt.2 hpos), if_neg (Int.not_lt.2 hmax),
        Stream.readExact_short (s := { s with unread := r, consumed := s.consumed + 4 }) hs hshort]
      simp [hlen, Nat.add_assoc]
  · intro b frame r hframe
    exact Stream.readBlob_encodePayload hframe hs rfl

/-- The frame of three bytes followed by three more is read as the first three, leaving the
others. -/
theorem readBlob_reads_exactly_frames_abc :
    (Stream.ofInput [0, 0, 0, 3, 97, 98, 99, 100, 101, 102]).closed = false ∧
    (Stream.ofInput [0, 0, 0, 3, 97, 98, 99, 100, 101, 102]).readBlob "test" =
      (.ok [97, 98, 99], { Stream.ofInput [] with unread := [100, 101, 102], consumed := 7 }) := by
  have h := (readBlob_reads_exactly_frames (Stream.ofInput [0, 0, 0, 3, 97, 98, 99, 100, 101, 102])
    "test" rfl).1 [97, 98, 99] { Stream.ofInput [] with unread := [100, 101, 102], consumed := 7 }
  exact ⟨rfl, h.2 ⟨[100, 101, 102], by decide, by decide, rfl⟩⟩

end NamespaceBootstrap.Wire
