import NamespaceBootstrap.Proofs.FlagWords

/-! A flag word's text loses nothing. The empty word is written `none`; any other word as the
file names of its kinds in bit order and, if it has unknown bits, their pattern in hexadecimal
after `0x`, joined by `|`. No field holds a `|`, so the text splits back into its fields; the
names are distinct and none of them starts with `0` as the hexadecimal field does, so the fields
give back the kinds and the unknown bits; and those give back the word. -/

namespace NamespaceBootstrap

namespace Text

theorem hexDigit_eq_digitChar : ∀ d < 16, hexDigit d = Nat.digitChar d := by decide

theorem hexDigit_ne_bar : ∀ d < 16, hexDigit d ≠ '|' := by decide

def hexDigitValue (c : Char) : Nat :=
  if c.toNat ≤ 0x39 then c.toNat - 0x30 else c.toNat - 0x57

theorem hexDigitValue_hexDigit : ∀ d < 16, hexDigitValue (hexDigit d) = d := by decide

def hexDigitsValue (cs : List Char) : Nat :=
  cs.foldl (fun n c => 16 * n + hexDigitValue c) 0

theorem hexDigitsValue_concat (cs : List Char) (c : Char) :
    hexDigitsValue (cs ++ [c]) = 16 * hexDigitsValue cs + hexDigitValue c := by
  simp [hexDigitsValue, List.foldl_append]

theorem hexDigitsValue_hexDigits (n : Nat) : hexDigitsValue (hexDigits n) = n := by
  induction n using hexDigits.induct with
  | case1 n hn => simp [hexDigitsValue, hexDigits, hn, hexDigitValue_hexDigit n hn]
  | case2 n hn ih =>
    rw [hexDigits, dif_neg hn, hexDigitsValue_concat, ih,
      hexDigitValue_hexDigit _ (Nat.mod_lt n (by decide))]
    omega

theorem hexDigits_inj {m n : Nat} (h : hexDigits m = hexDigits n) : m = n := by
  rw [← hexDigitsValue_hexDigits m, h, hexDigitsValue_hexDigits]

theorem mem_hexDigits {c : Char} {n : Nat} (h : c ∈ hexDigits n) :
    ∃ d < 16, c = hexDigit d := by
  induction n using hexDigits.induct with
  | case1 n hn =>
    rw [hexDigits, dif_pos hn, List.mem_singleton] at h
    exact ⟨n, hn, h⟩
  | case2 n hn ih =>
    rw [hexDigits, dif_neg hn, List.mem_append, List.mem_singleton] at h
    rcases h with h | h
    · exact ih h
    · exact ⟨n % 16, Nat.mod_lt n (by decide), h⟩

theorem hexDigits_eq_toDigits (n : Nat) : hexDigits n = Nat.toDigits 16 n := by
  induction n using hexDigits.induct with
  | case1 n hn => rw [hexDigits, dif_pos hn, Nat.toDigits_of_lt_base hn, hexDigit_eq_digitChar n hn]
  | case2 n hn ih =>
    have hmod : n % 16 < 16 := Nat.mod_lt n (by decide)
    rw [hexDigits, dif_neg hn, ih, hexDigit_eq_digitChar _ hmod, ← Nat.toDigits_of_lt_base hmod,
      Nat.toDigits_append_toDigits (by decide) (by omega) hmod, Nat.div_add_mod]

theorem toList_wordHex (w : UInt32) : (wordHex w).toList = '0' :: 'x' :: hexDigits w.toNat := by
  simp [wordHex]

theorem wordHex_inj {u v : UInt32} (h : wordHex u = wordHex v) : u = v := by
  have hdigits := congrArg String.toList h
  simp only [toList_wordHex, List.cons.injEq, true_and] at hdigits
  exact UInt32.toNat_inj.1 (hexDigits_inj hdigits)

theorem bar_not_mem_wordHex (w : UInt32) : '|' ∉ (wordHex w).toList := by
  intro h
  simp only [toList_wordHex, List.mem_cons] at h
  rcases h with h | h | h
  · exact absurd h (by decide)
  · exact absurd h (by decide)
  · obtain ⟨d, hd, h⟩ := mem_hexDigits h
    exact hexDigit_ne_bar d hd h.symm

theorem toNat_toInt32_emod (w : UInt32) : (w.toInt32.toInt % 4294967296).toNat = w.toNat := by
  have hlt := w.toNat_lt
  have hint : w.toInt32.toInt = w.toBitVec.toInt := rfl
  rw [hint, BitVec.toInt_eq_toNat_bmod]
  simp only [Int.bmod, UInt32.toNat_toBitVec, Nat.reducePow, Int.cast_ofNat_Int, Int.reduceAdd,
    Int.reduceDiv]
  split <;> omega

/-- A word is written as `0x` and the base-16 digits of its two's complement pattern. -/
theorem wordHex_eq_toDigits (w : UInt32) :
    wordHex w = "0x" ++ String.ofList (Nat.toDigits 16 (w.toInt32.toInt % 4294967296).toNat) := by
  rw [toNat_toInt32_emod, ← hexDigits_eq_toDigits, ← String.toList_inj, toList_wordHex]
  simp

end Text

namespace Kind

theorem procName_inj {j k : Kind} (h : j.procName = k.procName) : j = k := by
  simpa [ofName_procName] using congrArg ofName? h

theorem bar_not_mem_procName (k : Kind) : '|' ∉ k.procName.toList := by
  cases k <;> decide

theorem head_procName_ne_zero (k : Kind) : k.procName.toList.head? ≠ some '0' := by
  cases k <;> decide

theorem procName_ne_none (k : Kind) : k.procName ≠ "none" := by
  cases k <;> decide

theorem procName_ne_wordHex (k : Kind) (w : UInt32) : k.procName ≠ Text.wordHex w := by
  intro h
  apply head_procName_ne_zero k
  rw [h, Text.toList_wordHex]
  rfl

end Kind

theorem intercalate_bar_inj {xs ys : List String} (hxs : xs ≠ []) (hys : ys ≠ [])
    (hx : ∀ s ∈ xs, '|' ∉ s.toList) (hy : ∀ s ∈ ys, '|' ∉ s.toList)
    (h : String.intercalate "|" xs = String.intercalate "|" ys) : xs = ys := by
  have hsplit := congrArg (fun s => s.toList.splitOn '|') h
  simp only [String.toList_intercalate] at hsplit
  rw [show "|".toList = ['|'] from rfl,
    List.splitOn_intercalate '|' (by simpa using hx) (by simpa using hxs),
    List.splitOn_intercalate '|' (by simpa using hy) (by simpa using hys)] at hsplit
  exact (List.map_inj_right fun _ _ => String.toList_inj.1).1 hsplit

namespace Flags

variable {a b f : Flags}

/-- The fields of a non-empty word's text: the names of its kinds in bit order, then the
hexadecimal pattern of its unknown bits if it has any. -/
def fields (f : Flags) : List String :=
  f.kinds.map Kind.procName ++ if f.unknownBits = 0 then [] else [Text.wordHex f.unknownBits]

theorem render_of_ne_zero (h : f.bits ≠ 0) : f.render = String.intercalate "|" f.fields := by
  simp [render, h, fields]

theorem mem_fields {s : String} :
    s ∈ f.fields ↔
      (∃ k ∈ f.kinds, k.procName = s) ∨ (f.unknownBits ≠ 0 ∧ s = Text.wordHex f.unknownBits) := by
  by_cases hu : f.unknownBits = 0 <;> simp [fields, hu]

theorem procName_mem_fields (k : Kind) : k.procName ∈ f.fields ↔ k ∈ f.kinds := by
  simp only [mem_fields]
  constructor
  · rintro (⟨k', hk', hname⟩ | ⟨-, hhex⟩)
    · rwa [← Kind.procName_inj hname]
    · exact absurd hhex (Kind.procName_ne_wordHex k _)
  · exact fun hk => .inl ⟨k, hk, rfl⟩

theorem wordHex_mem_fields {w : UInt32} (hw : w ≠ 0) :
    Text.wordHex w ∈ f.fields ↔ f.unknownBits = w := by
  simp only [mem_fields]
  constructor
  · rintro (⟨k, -, hname⟩ | ⟨-, hhex⟩)
    · exact absurd hname (Kind.procName_ne_wordHex k w)
    · exact (Text.wordHex_inj hhex).symm
  · rintro rfl
    exact .inr ⟨hw, rfl⟩

theorem bar_not_mem_fields : ∀ s ∈ f.fields, '|' ∉ s.toList := by
  intro s hs
  rcases mem_fields.1 hs with ⟨k, -, rfl⟩ | ⟨-, rfl⟩
  · exact Kind.bar_not_mem_procName k
  · exact Text.bar_not_mem_wordHex _

theorem none_not_mem_fields : "none" ∉ f.fields := by
  intro hs
  rcases mem_fields.1 hs with ⟨k, -, hk⟩ | ⟨-, hhex⟩
  · exact Kind.procName_ne_none k hk
  · -- the hexadecimal field starts with `0`
    have hhead : (Text.wordHex f.unknownBits).toList.head? = some '0' := by
      rw [Text.toList_wordHex]
      rfl
    rw [← hhex] at hhead
    exact absurd hhead (by decide)

theorem eq_of_bits_eq (h : a.bits = b.bits) : a = b := by
  cases a
  cases b
  simpa using h

theorem bits_eq_ofKinds_or (f : Flags) : f.bits = (ofKinds f.kinds).bits ||| f.unknownBits := by
  rw [ofKinds_kinds]
  exact bits_eq_known_or_unknown f

theorem eq_of_kinds_of_unknownBits (hk : a.kinds = b.kinds) (hu : a.unknownBits = b.unknownBits) :
    a = b :=
  eq_of_bits_eq (by rw [bits_eq_ofKinds_or a, bits_eq_ofKinds_or b, hk, hu])

theorem fields_ne_nil (h : f.bits ≠ 0) : f.fields ≠ [] := by
  intro hnil
  -- a word with no kind and no unknown bit is empty
  have ⟨hk, hu⟩ : f.kinds = [] ∧ f.unknownBits = 0 := by simpa [fields] using hnil
  apply h
  rw [bits_eq_ofKinds_or f, hk, hu]
  rfl

theorem kinds_eq_of_mem_iff (h : ∀ k, k ∈ a.kinds ↔ k ∈ b.kinds) : a.kinds = b.kinds := by
  rw [kinds_eq_filter_has, kinds_eq_filter_has]
  apply List.filter_congr
  intro k _
  simpa using h k

theorem eq_of_fields_eq (h : a.fields = b.fields) : a = b := by
  have hkinds : a.kinds = b.kinds := kinds_eq_of_mem_iff fun k => by
    rw [← procName_mem_fields, h, procName_mem_fields]
  -- the unknown bits of either word are written in both texts
  have hunknown : a.unknownBits = b.unknownBits := by
    by_cases ha : a.unknownBits = 0
    · by_cases hb : b.unknownBits = 0
      · exact ha.trans hb.symm
      · have hmem : Text.wordHex b.unknownBits ∈ b.fields := (wordHex_mem_fields hb).2 rfl
        rw [← h, wordHex_mem_fields hb] at hmem
        exact hmem
    · have hmem : Text.wordHex a.unknownBits ∈ a.fields := (wordHex_mem_fields ha).2 rfl
      rw [h, wordHex_mem_fields ha] at hmem
      exact hmem.symm
  exact eq_of_kinds_of_unknownBits hkinds hunknown

theorem render_eq_none_iff : f.render = "none" ↔ f.bits = 0 := by
  constructor
  · intro h
    refine Decidable.byContradiction fun hne => ?_
    have hfields : f.fields = ["none"] := by
      apply intercalate_bar_inj (fields_ne_nil hne) (by simp) bar_not_mem_fields (by decide)
      rw [← render_of_ne_zero hne, h, String.intercalate_singleton]
    exact none_not_mem_fields (hfields ▸ List.mem_singleton_self _)
  · intro h
    simp [render, h]

theorem render_injective (h : a.render = b.render) : a = b := by
  by_cases ha : a.bits = 0
  · have hb : b.bits = 0 := render_eq_none_iff.1 (h ▸ render_eq_none_iff.2 ha)
    exact eq_of_bits_eq (ha.trans hb.symm)
  · have hb : b.bits ≠ 0 := fun hb =>
      ha (render_eq_none_iff.1 (h.trans (render_eq_none_iff.2 hb)))
    rw [render_of_ne_zero ha, render_of_ne_zero hb] at h
    exact eq_of_fields_eq (intercalate_bar_inj (fields_ne_nil ha) (fields_ne_nil hb)
      bar_not_mem_fields bar_not_mem_fields h)

end Flags

/-- A flag word's text is faithful. Different words have different texts; the text is `none`
exactly for the empty word; any other word is written as the file names of its kinds, which
come in ascending bit order, joined by `|` and followed, exactly when the word has unknown bits,
by `0x` and the base-16 digits of those bits read as a signed number modulo `2^32`, so that a
word whose unknown part is negative shows its two's complement pattern. -/
theorem render_faithful (a b : Flags) :
    (a.render = b.render → a = b) ∧
    (a.render = "none" ↔ a.bits = 0) ∧
    (a.bits ≠ 0 →
      a.render = String.intercalate "|" (a.kinds.map Kind.procName ++
        if a.unknownBits = 0 then []
        else ["0x" ++
          String.ofList (Nat.toDigits 16 (a.unknownBits.toInt32.toInt % 4294967296).toNat)])) ∧
    a.kinds.Pairwise (fun j k => j.flagBit < k.flagBit) := by
  refine ⟨Flags.render_injective, Flags.render_eq_none_iff, fun ha => ?_,
    Kind.all_pairwise_flagBit.filter _⟩
  rw [Flags.render_of_ne_zero ha, Flags.fields, Text.wordHex_eq_toDigits]

example : (⟨0x04000001⟩ : Flags).render = "uts|0x1" := by decide +kernel

example : (⟨0x80000000⟩ : Flags).render = "0x80000000" := by decide +kernel

end NamespaceBootstrap
