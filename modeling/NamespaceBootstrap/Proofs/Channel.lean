import NamespaceBootstrap.Wire.Channel
import NamespaceBootstrap.Proofs.Codec

/-! Reading back what the other side framed. A number written as four bytes is read back as
the same 32 bits; a blob within the limit is read back as its bytes and nothing more; so the
bootstrap reads the host's request as the host's list and flag word, and the host reads the
child's id back as written, refusing it exactly when it names no process. -/

namespace NamespaceBootstrap.Wire

@[simp] theorem length_be32 (w : UInt32) : (be32 w).length = 4 := rfl

theorem ofBe32_be32 (w : UInt32) :
    ofBe32 (w >>> 24).toUInt8 (w >>> 16).toUInt8 (w >>> 8).toUInt8 w.toUInt8 = w := by
  apply UInt32.toNat_inj.1
  simp only [ofBe32, UInt32.toNat_ofNat', UInt32.toNat_toUInt8, UInt32.toNat_shiftRight,
    UInt32.reduceToNat, Nat.reduceMod, Nat.reducePow, Nat.shiftRight_eq_div_pow]
  have := w.toNat_lt
  omega

theorem toInt_ofNat_length {n : Nat} (h : n ≤ maxBlob) : (UInt32.ofNat n).toInt32.toInt = n := by
  rw [UInt32.toInt32_ofNat', Int32.toInt_ofNat_of_lt (by simp only [maxBlob] at h; omega)]

namespace Stream

variable {s : Stream} {r : List UInt8}

theorem read_append {bs : List UInt8} (hu : s.unread = bs ++ r) (hs : s.closed = false) :
    s.read bs.length = (.ok bs, { s with unread := r, consumed := s.consumed + bs.length }) := by
  cases bs with
  | nil =>
    cases s
    simp_all [read]
  | cons b bs => simp [read, hs, hu]

theorem readExact_append {bs : List UInt8} (step : String) (hu : s.unread = bs ++ r)
    (hs : s.closed = false) :
    s.readExact bs.length step =
      (.ok bs, { s with unread := r, consumed := s.consumed + bs.length }) := by
  simp [readExact, read_append hu hs]

theorem readWord_be32 (w : UInt32) (step : String) (hu : s.unread = be32 w ++ r)
    (hs : s.closed = false) :
    s.readWord step = (.ok w, { s with unread := r, consumed := s.consumed + 4 }) := by
  have h := readExact_append step hu hs
  simp only [length_be32] at h
  simp only [readWord, h, be32, ofBe32_be32]

theorem readInt_be32 (w : UInt32) (step : String) (hu : s.unread = be32 w ++ r)
    (hs : s.closed = false) :
    s.readInt step = (.ok w.toInt32.toInt, { s with unread := r, consumed := s.consumed + 4 }) := by
  simp only [readInt, readWord_be32 w step hu hs]

theorem readBlob_frame {bytes : List UInt8} (step : String)
    (hu : s.unread = be32 (UInt32.ofNat bytes.length) ++ bytes ++ r) (hs : s.closed = false)
    (hn : bytes.length ≤ maxBlob) :
    s.readBlob step =
      (.ok bytes, { s with unread := r, consumed := s.consumed + (4 + bytes.length) }) := by
  rw [List.append_assoc] at hu
  have hlen := toInt_ofNat_length hn
  have hrest : ({ s with unread := bytes ++ r, consumed := s.consumed + 4 } : Stream).unread =
      bytes ++ r := rfl
  have hbody := readExact_append step hrest hs
  simp only [readBlob, readInt_be32 _ step hu hs, hlen]
  simp [Nat.not_lt.2 hn, hbody, Nat.add_assoc]

end Stream

section Request

variable (l : PathList) (f : Flags)

theorem encodeRequest_eq :
    encodeRequest l f =
      if l.encode.length ≤ maxBlob then
        .ok (be32 (UInt32.ofNat l.encode.length) ++ l.encode ++ be32 f.bits)
      else .error (.channel "encoding namespace list"
        (.malformed s!"blob of {l.encode.length} bytes is too large")) := by
  by_cases h : l.encode.length ≤ maxBlob
  · simp [encodeRequest, encodeBlob, h, Nat.not_lt.2 h, Except.map]
  · simp [encodeRequest, encodeBlob, show l.encode.length > maxBlob by omega, h, Except.map]

end Request

namespace Stream

variable {s : Stream} {r : List UInt8}

/-- The bootstrap reads a framed request as the list and the flag word the host framed. -/
theorem read_request {l : PathList} (hl : l.WellFormed) (f : Flags)
    (hu : s.unread = be32 (UInt32.ofNat l.encode.length) ++ l.encode ++ be32 f.bits ++ r)
    (hs : s.closed = false) (hn : l.encode.length ≤ maxBlob) :
    ∃ s1, s.readPathList = (.ok ⟨l.paths.map fun p => { path := p }⟩, s1) ∧
      s1.readFlags = (.ok f, { s with unread := r, consumed := s.consumed + (l.encode.length + 8) })
      := by
  have hframe : s.unread = be32 (UInt32.ofNat l.encode.length) ++ l.encode ++ (be32 f.bits ++ r) :=
    by rw [hu]; simp only [List.append_assoc]
  have hblob := readBlob_frame "reading namespace list" hframe hs hn
  let s1 : Stream :=
    { s with unread := be32 f.bits ++ r, consumed := s.consumed + (4 + l.encode.length) }
  refine ⟨s1, by simp only [readPathList, hblob, PathList.decode_encode hl, s1], ?_⟩
  have hs1 : s1.unread = be32 f.bits ++ r := rfl
  have hword := readWord_be32 f.bits "reading clone flags" hs1 hs
  simp only [readFlags, hword, s1]
  rw [show s.consumed + (4 + l.encode.length) + 4 = s.consumed + (l.encode.length + 8) by omega]

/-- The host reads a reported id back as written, and refuses exactly the ids that name no
process. -/
theorem readChildPid_be32 (p : Int32) (hu : s.unread = be32 p.toUInt32 ++ r)
    (hs : s.closed = false) :
    s.readChildPid =
      (if 0 < p.toInt then .ok ⟨p⟩
        else .error (.channel "reading child pid" (.malformed s!"invalid child pid {p.toInt}")),
        { s with unread := r, consumed := s.consumed + 4 }) := by
  simp only [readChildPid, readInt_be32 _ _ hu hs, Int32.toInt32_toUInt32]
  by_cases h : 0 < p.toInt
  · simp [show ¬ p.toInt ≤ 0 by omega, h]
  · simp [show p.toInt ≤ 0 by omega, h]

end Stream

/-- The host's encoder and the bootstrap's decoder agree on the whole protocol. A list that can
be sent is framed exactly when its encoding fits the blob limit, as the encoding's length, the
encoding and the flag word, and writing the request writes exactly that frame; reading the
frame back, followed by anything, gives the list's paths in order and the same flag word and
leaves exactly what followed. A process id is written as its four bytes and read back as
itself when it is positive, and refused as malformed otherwise. -/
theorem request_round_trip {l : PathList} (hl : l.WellFormed) (f : Flags) (r : List UInt8)
    (s : Stream) (hs : s.closed = false) :
    encodeRequest l f =
      (if l.encode.length ≤ maxBlob then
        .ok (be32 (UInt32.ofNat l.encode.length) ++ l.encode ++ be32 f.bits)
      else .error (.channel "encoding namespace list"
        (.malformed s!"blob of {l.encode.length} bytes is too large"))) ∧
    (l.encode.length ≤ maxBlob →
      s.writeRequest l f = s.writeExact (be32 (UInt32.ofNat l.encode.length) ++ l.encode ++
        be32 f.bits) "writing bootstrap request" ∧
      ∃ s1, { s with unread := be32 (UInt32.ofNat l.encode.length) ++ l.encode ++ be32 f.bits ++
          r }.readPathList = (.ok ⟨l.paths.map fun p => { path := p }⟩, s1) ∧
        s1.readFlags =
          (.ok f, { s with unread := r, consumed := s.consumed + (l.encode.length + 8) })) ∧
    ∀ p : Int32, s.writeChildPid ⟨p⟩ = s.writeExact (be32 p.toUInt32) "writing child pid" ∧
      { s with unread := be32 p.toUInt32 ++ r }.readChildPid =
        (if 0 < p.toInt then .ok ⟨p⟩
          else .error (.channel "reading child pid" (.malformed s!"invalid child pid {p.toInt}")),
          { s with unread := r, consumed := s.consumed + 4 }) := by
  refine ⟨encodeRequest_eq l f, fun hn => ⟨?_, Stream.read_request hl f rfl hs hn⟩,
    fun p => ⟨rfl, Stream.readChildPid_be32 p rfl hs⟩⟩
  simp [Stream.writeRequest, encodeRequest_eq, hn]

/-- The request for the UTS namespace of process 1 with the UTS clone flag, read back from an
open stream after one trailing byte. -/
theorem request_round_trip_uts :
    PathList.WellFormed ⟨[{ path := "/proc/1/ns/uts" }]⟩ ∧ (Stream.ofInput []).closed = false ∧
    (⟨[{ path := "/proc/1/ns/uts" }]⟩ : PathList).encode.length ≤ maxBlob ∧
    ∃ s1, (Stream.ofInput (be32 14 ++ (⟨[{ path := "/proc/1/ns/uts" }]⟩ : PathList).encode ++
        be32 0x4000000 ++ [7])).readPathList = (.ok ⟨[{ path := "/proc/1/ns/uts" }]⟩, s1) ∧
      s1.readFlags =
        (.ok ⟨0x4000000⟩, { Stream.ofInput [] with unread := [7], consumed := 22 }) := by
  have hl : PathList.WellFormed ⟨[{ path := "/proc/1/ns/uts" }]⟩ := ⟨by decide, by decide⟩
  have hn : (⟨[{ path := "/proc/1/ns/uts" }]⟩ : PathList).encode.length ≤ maxBlob := by decide
  exact ⟨hl, rfl, hn, (request_round_trip hl ⟨0x4000000⟩ [7] (Stream.ofInput []) rfl).2.1 hn |>.2⟩

end NamespaceBootstrap.Wire
