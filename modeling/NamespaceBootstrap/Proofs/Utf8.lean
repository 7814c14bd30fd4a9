import NamespaceBootstrap.Text.Utf8
import Mathlib.Tactic.SplitIfs

/-! Reading back what was written: the bytes of every text are cut into exactly its
characters, with no bad sequence among them, so checking them gives the text back. The
characters are taken one width at a time, each width a case of the first byte. -/

namespace NamespaceBootstrap.Text

theorem isTail_ofNat (n : Nat) : isTail (UInt8.ofNat (n % 0x40 + 0x80)) = true := by
  have h : n % 0x40 + 0x80 < 256 := by omega
  simp only [isTail, UInt8.le_iff_toNat_le, UInt8.toNat_ofNat_of_lt' h, UInt8.reduceToNat]
  simp
  omega

section Widths

variable (acc : List Piece) (rest : List UInt8)

theorem piecesFrom_one (b0 : UInt8) (h0 : b0.toNat < 0x80) :
    piecesFrom acc (b0 :: rest) = piecesFrom (.char (Char.ofNat b0.toNat) 1 :: acc) rest := by
  rw [piecesFrom.eq_def]
  have hw : charWidth b0 = 1 := by simp [charWidth, UInt8.lt_iff_toNat_lt, h0]
  simp [hw]

theorem piecesFrom_two (b0 b1 : UInt8) (h0 : 0xC2 ≤ b0.toNat ∧ b0.toNat < 0xE0)
    (h1 : 0x80 ≤ b1.toNat ∧ b1.toNat ≤ 0xBF) :
    piecesFrom acc (b0 :: b1 :: rest) = piecesFrom (.char (char2 b0 b1) 2 :: acc) rest := by
  rw [piecesFrom.eq_def]
  have hw : charWidth b0 = 2 := by
    simp only [charWidth, UInt8.lt_iff_toNat_lt, UInt8.reduceToNat]
    split_ifs <;> omega
  -- a first byte of a two-byte character puts no extra bound on the second
  have hr : secondRange b0 = (0x80, 0xBF) := by
    simp only [secondRange, ← UInt8.toNat_inj, UInt8.reduceToNat]
    rw [if_neg (by omega), if_neg (by omega), if_neg (by omega), if_neg (by omega)]
  simp [hw, hr, UInt8.le_iff_toNat_le, h1.1, h1.2]

theorem piecesFrom_three (b0 b1 b2 : UInt8) (h0 : 0xE0 ≤ b0.toNat ∧ b0.toNat < 0xF0)
    (h1 : (secondRange b0).1 ≤ b1 ∧ b1 ≤ (secondRange b0).2) (h2 : isTail b2 = true) :
    piecesFrom acc (b0 :: b1 :: b2 :: rest) =
      piecesFrom (.char (char3 b0 b1 b2) 3 :: acc) rest := by
  rw [piecesFrom.eq_def]
  have hw : charWidth b0 = 3 := by
    simp only [charWidth, UInt8.lt_iff_toNat_lt, UInt8.reduceToNat]
    split_ifs <;> omega
  simp [hw, h1.1, h1.2, h2]

theorem piecesFrom_four (b0 b1 b2 b3 : UInt8) (h0 : 0xF0 ≤ b0.toNat ∧ b0.toNat < 0xF5)
    (h1 : (secondRange b0).1 ≤ b1 ∧ b1 ≤ (secondRange b0).2) (h2 : isTail b2 = true)
    (h3 : isTail b3 = true) :
    piecesFrom acc (b0 :: b1 :: b2 :: b3 :: rest) =
      piecesFrom (.char (char4 b0 b1 b2 b3) 4 :: acc) rest := by
  rw [piecesFrom.eq_def]
  have hw : charWidth b0 = 4 := by
    simp only [charWidth, UInt8.lt_iff_toNat_lt, UInt8.reduceToNat]
    split_ifs <;> omega
  simp [hw, h1.1, h1.2, h2, h3]

end Widths

section Encode

variable (acc : List Piece) (c : Char) (rest : List UInt8)

theorem piecesFrom_encode_one (h : c.toNat ≤ 0x7f) :
    piecesFrom acc (String.utf8EncodeChar c ++ rest) = piecesFrom (.char c 1 :: acc) rest := by
  have e0 := UInt8.toNat_ofNat_of_lt' (show c.toNat < 256 by omega)
  simp only [String.utf8EncodeChar, show c.val.toNat = c.toNat from rfl, if_pos h,
    List.cons_append, List.nil_append]
  rw [piecesFrom_one _ _ _ (by omega), e0, Char.ofNat_toNat]

theorem piecesFrom_encode_two (h : 0x7f < c.toNat ∧ c.toNat ≤ 0x7ff) :
    piecesFrom acc (String.utf8EncodeChar c ++ rest) = piecesFrom (.char c 2 :: acc) rest := by
  simp only [String.utf8EncodeChar, show c.val.toNat = c.toNat from rfl,
    if_neg (show ¬c.toNat ≤ 0x7f by omega), if_pos h.2, List.cons_append, List.nil_append]
  have e0 := UInt8.toNat_ofNat_of_lt' (show c.toNat / 64 % 0x20 + 0xc0 < 256 by omega)
  have e1 := UInt8.toNat_ofNat_of_lt' (show c.toNat % 0x40 + 0x80 < 256 by omega)
  have hc : char2 (UInt8.ofNat (c.toNat / 64 % 0x20 + 0xc0))
      (UInt8.ofNat (c.toNat % 0x40 + 0x80)) = c := by
    rw [char2, e0, e1, show (c.toNat / 64 % 0x20 + 0xc0) % 0x20 * 0x40 +
      (c.toNat % 0x40 + 0x80) % 0x40 = c.toNat by omega, Char.ofNat_toNat]
  rw [piecesFrom_two _ _ _ _ (by omega) (by omega), hc]

/-- A three-byte character is never a surrogate, so after `0xED` its second byte stays below
`0xA0`, the bound the reader checks. -/
theorem piecesFrom_encode_three (h : 0x7ff < c.toNat ∧ c.toNat ≤ 0xffff) :
    piecesFrom acc (String.utf8EncodeChar c ++ rest) = piecesFrom (.char c 3 :: acc) rest := by
  have hv : c.toNat < 0xd800 ∨ (0xdfff < c.toNat ∧ c.toNat < 0x110000) := c.valid
  simp only [String.utf8EncodeChar, show c.val.toNat = c.toNat from rfl,
    if_neg (show ¬c.toNat ≤ 0x7f by omega), if_neg (show ¬c.toNat ≤ 0x7ff by omega), if_pos h.2,
    List.cons_append, List.nil_append]
  have e0 := UInt8.toNat_ofNat_of_lt' (show c.toNat / 4096 % 0x10 + 0xe0 < 256 by omega)
  have e1 := UInt8.toNat_ofNat_of_lt' (show c.toNat / 64 % 0x40 + 0x80 < 256 by omega)
  have e2 := UInt8.toNat_ofNat_of_lt' (show c.toNat % 0x40 + 0x80 < 256 by omega)
  have hr : (secondRange (UInt8.ofNat (c.toNat / 4096 % 0x10 + 0xe0))).1 ≤
        UInt8.ofNat (c.toNat / 64 % 0x40 + 0x80) ∧
      UInt8.ofNat (c.toNat / 64 % 0x40 + 0x80) ≤
        (secondRange (UInt8.ofNat (c.toNat / 4096 % 0x10 + 0xe0))).2 := by
    simp only [secondRange, ← UInt8.toNat_inj, e0, UInt8.reduceToNat]
    split_ifs <;> simp only [UInt8.le_iff_toNat_le, e1, UInt8.reduceToNat] <;> omega
  have hc : char3 (UInt8.ofNat (c.toNat / 4096 % 0x10 + 0xe0))
      (UInt8.ofNat (c.toNat / 64 % 0x40 + 0x80)) (UInt8.ofNat (c.toNat % 0x40 + 0x80)) = c := by
    rw [char3, e0, e1, e2, show ((c.toNat / 4096 % 0x10 + 0xe0) % 0x10 * 0x40 +
      (c.toNat / 64 % 0x40 + 0x80) % 0x40) * 0x40 + (c.toNat % 0x40 + 0x80) % 0x40 = c.toNat
      by omega, Char.ofNat_toNat]
  rw [piecesFrom_three _ _ _ _ _ (by omega) hr (isTail_ofNat _), hc]

/-- A four-byte character is at most `0x10FFFF`, so its first byte is at most `0xF4` and
after `0xF4` its second byte stays below `0x90`. -/
theorem piecesFrom_encode_four (h : 0xffff < c.toNat) :
    piecesFrom acc (String.utf8EncodeChar c ++ rest) = piecesFrom (.char c 4 :: acc) rest := by
  have hv : c.toNat < 0xd800 ∨ (0xdfff < c.toNat ∧ c.toNat < 0x110000) := c.valid
  simp only [String.utf8EncodeChar, show c.val.toNat = c.toNat from rfl,
    if_neg (show ¬c.toNat ≤ 0x7f by omega), if_neg (show ¬c.toNat ≤ 0x7ff by omega),
    if_neg (show ¬c.toNat ≤ 0xffff by omega), List.cons_append, List.nil_append]
  have e0 := UInt8.toNat_ofNat_of_lt' (show c.toNat / 262144 % 0x08 + 0xf0 < 256 by omega)
  have e1 := UInt8.toNat_ofNat_of_lt' (show c.toNat / 4096 % 0x40 + 0x80 < 256 by omega)
  have e2 := UInt8.toNat_ofNat_of_lt' (show c.toNat / 64 % 0x40 + 0x80 < 256 by omega)
  have e3 := UInt8.toNat_ofNat_of_lt' (show c.toNat % 0x40 + 0x80 < 256 by omega)
  have hr : (secondRange (UInt8.ofNat (c.toNat / 262144 % 0x08 + 0xf0))).1 ≤
        UInt8.ofNat (c.toNat / 4096 % 0x40 + 0x80) ∧
      UInt8.ofNat (c.toNat / 4096 % 0x40 + 0x80) ≤
        (secondRange (UInt8.ofNat (c.toNat / 262144 % 0x08 + 0xf0))).2 := by
    simp only [secondRange, ← UInt8.toNat_inj, e0, UInt8.reduceToNat]
    split_ifs <;> simp only [UInt8.le_iff_toNat_le, e1, UInt8.reduceToNat] <;> omega
  have hc : char4 (UInt8.ofNat (c.toNat / 262144 % 0x08 + 0xf0))
      (UInt8.ofNat (c.toNat / 4096 % 0x40 + 0x80)) (UInt8.ofNat (c.toNat / 64 % 0x40 + 0x80))
      (UInt8.ofNat (c.toNat % 0x40 + 0x80)) = c := by
    rw [char4, e0, e1, e2, e3, show (((c.toNat / 262144 % 0x08 + 0xf0) % 0x08 * 0x40 +
      (c.toNat / 4096 % 0x40 + 0x80) % 0x40) * 0x40 + (c.toNat / 64 % 0x40 + 0x80) % 0x40) *
      0x40 + (c.toNat % 0x40 + 0x80) % 0x40 = c.toNat by omega, Char.ofNat_toNat]
  rw [piecesFrom_four _ _ _ _ _ _ (by omega) hr (isTail_ofNat _) (isTail_ofNat _), hc]

/-- The bytes of one character are read back as that character, whatever follows them. -/
theorem piecesFrom_encodeChar :
    piecesFrom acc (String.utf8EncodeChar c ++ rest) =
      piecesFrom (.char c c.utf8Size :: acc) rest := by
  rcases Char.utf8Size_eq c with hs | hs | hs | hs <;> rw [hs]
  · exact piecesFrom_encode_one acc c rest
      (by simpa [Char.utf8Size_eq_one_iff, UInt32.le_iff_toNat_le] using hs)
  · exact piecesFrom_encode_two acc c rest
      (by simpa [Char.utf8Size_eq_two_iff, UInt32.le_iff_toNat_le, UInt32.lt_iff_toNat_lt] using hs)
  · exact piecesFrom_encode_three acc c rest
      (by simpa [Char.utf8Size_eq_three_iff, UInt32.le_iff_toNat_le, UInt32.lt_iff_toNat_lt]
        using hs)
  · exact piecesFrom_encode_four acc c rest
      (by simpa [Char.utf8Size_eq_four_iff, UInt32.lt_iff_toNat_lt] using hs)

end Encode

theorem piecesFrom_flatMap_encode (acc : List Piece) (cs : List Char) :
    piecesFrom acc (cs.flatMap String.utf8EncodeChar) =
      acc.reverse ++ cs.map fun c => .char c c.utf8Size := by
  induction cs generalizing acc with
  | nil => rw [piecesFrom.eq_def]; simp
  | cons c cs ih =>
    rw [List.flatMap_cons, piecesFrom_encodeChar, ih]
    simp

theorem faultFrom_chars (pos : Nat) (cs : List Char) :
    faultFrom pos (cs.map fun c => .char c c.utf8Size) = none := by
  induction cs generalizing pos with
  | nil => rfl
  | cons c cs ih => exact ih _

/-- Checking the bytes of a text gives the text back. -/
theorem decode_utf8 (s : String) : decode (utf8 s) = .ok s := by
  simp only [decode, pieces, utf8, piecesFrom_flatMap_encode, List.reverse_nil, List.nil_append,
    faultFrom_chars, List.map_map]
  have hshown : (Piece.shown ∘ fun c : Char => Piece.char c c.utf8Size) = id := rfl
  rw [hshown, List.map_id, String.ofList_toList]

/-! Reading back what was checked: bytes that check as UTF-8 are exactly the bytes of the text
they hold, so checking is one to one. Each width of character is taken back to its bytes, and
the cutter's cases are followed one by one, a bad or unfinished piece contradicting the check. -/

theorem toNat_ofNat_of_valid {n : Nat} (h : n.isValidChar) : (Char.ofNat n).toNat = n := by
  rw [Char.ofNat, dif_pos h]
  rfl

theorem charWidth_eq (b : UInt8) :
    charWidth b = if b.toNat < 0x80 then 1 else if b.toNat < 0xC2 then 0
      else if b.toNat < 0xE0 then 2 else if b.toNat < 0xF0 then 3 else if b.toNat < 0xF5 then 4
      else 0 := by
  simp only [charWidth, UInt8.lt_iff_toNat_lt, UInt8.reduceToNat]

/-- The second byte of a character lies among the tails, and after `0xE0`, `0xED`, `0xF0` and
`0xF4` in the part of them that keeps the character shortest and off the surrogates. -/
theorem secondRange_bounds {b0 b1 : UInt8}
    (h : (secondRange b0).1 ≤ b1 ∧ b1 ≤ (secondRange b0).2) :
    0x80 ≤ b1.toNat ∧ b1.toNat ≤ 0xBF ∧ (b0.toNat = 0xE0 → 0xA0 ≤ b1.toNat) ∧
      (b0.toNat = 0xED → b1.toNat ≤ 0x9F) ∧ (b0.toNat = 0xF0 → 0x90 ≤ b1.toNat) ∧
      (b0.toNat = 0xF4 → b1.toNat ≤ 0x8F) := by
  simp only [secondRange, ← UInt8.toNat_inj, UInt8.reduceToNat] at h
  split_ifs at h <;> simp only [UInt8.le_iff_toNat_le, UInt8.reduceToNat] at h <;> omega

theorem toNat_of_isTail {b : UInt8} (h : isTail b = true) :
    0x80 ≤ b.toNat ∧ b.toNat ≤ 0xBF := by
  simpa [isTail, UInt8.le_iff_toNat_le] using h

section Decoded

variable {b0 b1 b2 b3 : UInt8}

theorem encode_one (h0 : b0.toNat < 0x80) : String.utf8EncodeChar (Char.ofNat b0.toNat) = [b0] := by
  have hc := toNat_ofNat_of_valid (show b0.toNat.isValidChar from .inl (by omega))
  simp only [String.utf8EncodeChar, show (Char.ofNat b0.toNat).val.toNat = b0.toNat from hc,
    if_pos (show b0.toNat ≤ 0x7f by omega), List.cons.injEq, and_true]
  exact UInt8.ofNat_toNat

theorem encode_char2 (h0 : 0xC2 ≤ b0.toNat ∧ b0.toNat < 0xE0)
    (h1 : 0x80 ≤ b1.toNat ∧ b1.toNat ≤ 0xBF) :
    String.utf8EncodeChar (char2 b0 b1) = [b0, b1] := by
  have hc : (char2 b0 b1).toNat = (b0.toNat % 0x20) * 0x40 + b1.toNat % 0x40 :=
    toNat_ofNat_of_valid (.inl (by omega))
  simp only [String.utf8EncodeChar, show (char2 b0 b1).val.toNat = _ from hc,
    if_neg (show ¬(b0.toNat % 0x20) * 0x40 + b1.toNat % 0x40 ≤ 0x7f by omega),
    if_pos (show (b0.toNat % 0x20) * 0x40 + b1.toNat % 0x40 ≤ 0x7ff by omega),
    List.cons.injEq, and_true, ← UInt8.toNat_inj, UInt8.toNat_ofNat', Nat.reducePow]
  omega

theorem encode_char3 (h0 : 0xE0 ≤ b0.toNat ∧ b0.toNat < 0xF0)
    (h1 : (secondRange b0).1 ≤ b1 ∧ b1 ≤ (secondRange b0).2) (h2 : isTail b2 = true) :
    String.utf8EncodeChar (char3 b0 b1 b2) = [b0, b1, b2] := by
  have hr := secondRange_bounds h1
  have ht := toNat_of_isTail h2
  have hc : (char3 b0 b1 b2).toNat =
      ((b0.toNat % 0x10) * 0x40 + b1.toNat % 0x40) * 0x40 + b2.toNat % 0x40 :=
    toNat_ofNat_of_valid (by unfold Nat.isValidChar; omega)
  simp only [String.utf8EncodeChar, show (char3 b0 b1 b2).val.toNat = _ from hc,
    if_neg (show ¬((b0.toNat % 0x10) * 0x40 + b1.toNat % 0x40) * 0x40 + b2.toNat % 0x40 ≤ 0x7f
      by omega),
    if_neg (show ¬((b0.toNat % 0x10) * 0x40 + b1.toNat % 0x40) * 0x40 + b2.toNat % 0x40 ≤ 0x7ff
      by omega),
    if_pos (show ((b0.toNat % 0x10) * 0x40 + b1.toNat % 0x40) * 0x40 + b2.toNat % 0x40 ≤ 0xffff
      by omega),
    List.cons.injEq, and_true, ← UInt8.toNat_inj, UInt8.toNat_ofNat', Nat.reducePow]
  omega

theorem encode_char4 (h0 : 0xF0 ≤ b0.toNat ∧ b0.toNat < 0xF5)
    (h1 : (secondRange b0).1 ≤ b1 ∧ b1 ≤ (secondRange b0).2) (h2 : isTail b2 = true)
    (h3 : isTail b3 = true) :
    String.utf8EncodeChar (char4 b0 b1 b2 b3) = [b0, b1, b2, b3] := by
  have hr := secondRange_bounds h1
  have ht2 := toNat_of_isTail h2
  have ht3 := toNat_of_isTail h3
  have hc : (char4 b0 b1 b2 b3).toNat =
      (((b0.toNat % 0x08) * 0x40 + b1.toNat % 0x40) * 0x40 + b2.toNat % 0x40) * 0x40 +
        b3.toNat % 0x40 :=
    toNat_ofNat_of_valid (by unfold Nat.isValidChar; omega)
  simp only [String.utf8EncodeChar, show (char4 b0 b1 b2 b3).val.toNat = _ from hc]
  rw [if_neg (by omega), if_neg (by omega), if_neg (by omega)]
  simp only [List.cons.injEq, and_true, ← UInt8.toNat_inj, UInt8.toNat_ofNat', Nat.reducePow]
  omega

end Decoded

theorem mem_piecesFrom {acc : List Piece} {p : Piece} (bs : List UInt8) (h : p ∈ acc) :
    p ∈ piecesFrom acc bs := by
  fun_induction piecesFrom acc bs <;> simp_all

theorem not_all_char {acc : List Piece} {x : Piece} (bs : List UInt8) (hx : x ∈ acc)
    (hbad : ∀ c w, x ≠ .char c w) : ¬∀ p ∈ piecesFrom acc bs, ∃ c w, p = .char c w := by
  intro h
  obtain ⟨c, w, hc⟩ := h x (mem_piecesFrom bs hx)
  exact hbad c w hc

theorem flatMap_shown_piecesFrom (acc : List Piece) (bs : List UInt8)
    (h : ∀ p ∈ piecesFrom acc bs, ∃ c w, p = .char c w) :
    ((piecesFrom acc bs).map Piece.shown).flatMap String.utf8EncodeChar =
      (acc.reverse.map Piece.shown).flatMap String.utf8EncodeChar ++ bs := by
  -- one case per way the cutter ends a piece; a bad or cut piece contradicts `h`
  fun_induction piecesFrom acc bs with
  | case1 acc => simp
  | case2 acc b0 rest w hw ih =>
    have hb : b0.toNat < 0x80 := by
      have hw' : charWidth b0 = 1 := hw
      have := charWidth_eq b0
      split_ifs at this <;> omega
    simp [ih h, Piece.shown, encode_one hb]
  | case3 acc b0 rest => exact absurd h (not_all_char rest List.mem_cons_self (by simp))
  | case4 => exact absurd (h .cut (by simp)) (by simp)
  | case5 acc b0 w _ _ b1 rest => exact absurd h (not_all_char _ List.mem_cons_self (by simp))
  | case6 acc b0 w _ _ b1 rest hr hw ih =>
    have hb : 0xC2 ≤ b0.toNat ∧ b0.toNat < 0xE0 := by
      have hw' : charWidth b0 = 2 := hw
      have := charWidth_eq b0
      split_ifs at this <;> omega
    have h1 := secondRange_bounds
      (show (secondRange b0).1 ≤ b1 ∧ b1 ≤ (secondRange b0).2 by simpa using hr)
    simp [ih h, Piece.shown, encode_char2 hb ⟨h1.1, h1.2.1⟩]
  | case7 => exact absurd (h .cut (by simp)) (by simp)
  | case8 acc b0 w _ _ b1 _ _ b2 rest => exact absurd h (not_all_char _ List.mem_cons_self (by simp))
  | case9 acc b0 w _ _ b1 hr _ b2 rest ht hw ih =>
    have hb : 0xE0 ≤ b0.toNat ∧ b0.toNat < 0xF0 := by
      have hw' : charWidth b0 = 3 := hw
      have := charWidth_eq b0
      split_ifs at this <;> omega
    simp [ih h, Piece.shown, encode_char3 hb (by simpa using hr) (by simpa using ht)]
  | case10 => exact absurd (h .cut (by simp)) (by simp)
  | case11 acc b0 w _ _ b1 _ _ b2 _ _ b3 rest =>
    exact absurd h (not_all_char _ List.mem_cons_self (by simp))
  | case12 acc b0 w h1 h0 b1 hr h2 b2 ht2 h3 b3 rest ht3 ih =>
    have hb : 0xF0 ≤ b0.toNat ∧ b0.toNat < 0xF5 := by
      have hw' : charWidth b0 ≠ 0 ∧ charWidth b0 ≠ 1 ∧ charWidth b0 ≠ 2 ∧ charWidth b0 ≠ 3 :=
        ⟨h0, h1, h2, h3⟩
      have := charWidth_eq b0
      split_ifs at this <;> omega
    simp [ih h, Piece.shown, encode_char4 hb (by simpa using hr) (by simpa using ht2)
      (by simpa using ht3)]

theorem all_char_of_faultFrom {pos : Nat} {ps : List Piece} (h : faultFrom pos ps = none) :
    ∀ p ∈ ps, ∃ c w, p = .char c w := by
  induction ps generalizing pos with
  | nil => simp
  | cons p ps ih =>
    cases p with
    | char c w => exact List.forall_mem_cons.2 ⟨⟨c, w, rfl⟩, ih h⟩
    | bad n => simp [faultFrom] at h
    | cut => simp [faultFrom] at h

/-- Bytes that check as UTF-8 are the bytes of the text they hold. -/
theorem utf8_of_decode {bs : List UInt8} {s : String} (h : decode bs = .ok s) : utf8 s = bs := by
  unfold decode at h
  cases hf : faultFrom 0 (pieces bs) with
  | some f => simp [hf] at h
  | none =>
    simp only [hf, Except.ok.injEq] at h
    subst h
    simpa [utf8, pieces] using flatMap_shown_piecesFrom [] bs (all_char_of_faultFrom hf)

end NamespaceBootstrap.Text
