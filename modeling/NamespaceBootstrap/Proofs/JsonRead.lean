import NamespaceBootstrap.Launch.Payload
import NamespaceBootstrap.Proofs.ListCodec

/-! Reading back written JSON. A reader is described by what it does from every place whose
unread bytes are known: it succeeds with a value and leaves the rest, wherever the place is and
whatever follows. Such descriptions compose along `bind`, so each reader gets one lemma, stated
on the bytes the writer produces followed by anything, and a whole value is read by chaining
them.

The heart is the string scanner: each escape the writer produces (the one-letter escapes, and
`\u00xx` for the other control characters) and the UTF-8 bytes of every other character are
scanned back to that character's bytes, and checking those gives the text back. -/

namespace NamespaceBootstrap.Text

@[simp] theorem utf8_append (a b : String) : utf8 (a ++ b) = utf8 a ++ utf8 b := by
  simp [utf8]

end NamespaceBootstrap.Text

namespace NamespaceBootstrap.Json

/-- From every place whose unread bytes are `input`, the reader succeeds with `v` and leaves
`rest` unread. -/
def ReadsAs {α : Type} (r : Reader α) (input : List UInt8) (v : α) (rest : List UInt8) : Prop :=
  ∀ c : Cursor, c.rest = input → ∃ c', r c = .ok v c' ∧ c'.rest = rest

namespace ReadsAs

variable {α β : Type} {i m o : List UInt8}

theorem pure (a : α) (i : List UInt8) : ReadsAs (Pure.pure a : Reader α) i a i :=
  fun c hc => ⟨c, rfl, hc⟩

theorem bind {x : Reader α} {f : α → Reader β} {a : α} {b : β}
    (hx : ReadsAs x i a m) (hf : ReadsAs (f a) m b o) : ReadsAs (x >>= f) i b o := by
  intro c hc
  obtain ⟨c1, h1, hr1⟩ := hx c hc
  obtain ⟨c2, h2, hr2⟩ := hf c1 hr1
  exact ⟨c2, by show EStateM.bind x f c = _; simp only [EStateM.bind, h1, h2], hr2⟩

theorem map {x : Reader α} {f : α → β} {a : α} (hx : ReadsAs x i a o) :
    ReadsAs (f <$> x) i (f a) o := by
  intro c hc
  obtain ⟨c1, h1, hr1⟩ := hx c hc
  exact ⟨c1, by show EStateM.map f x c = _; simp only [EStateM.map, h1], hr1⟩

theorem placed {x : Reader α} {a : α} (hx : ReadsAs x i a o) :
    ReadsAs (Reader.placed x) i a o := by
  intro c hc
  obtain ⟨c1, h1, hr1⟩ := hx c hc
  exact ⟨c1, by simp only [Reader.placed, h1], hr1⟩

theorem thenClose {body : Reader α} {closer : Reader Unit} {a : α}
    (hb : ReadsAs body i a m) (hc : ReadsAs closer m () o) :
    ReadsAs (Reader.thenClose body closer) i a o := by
  intro c h
  obtain ⟨c1, h1, hr1⟩ := hb c h
  obtain ⟨c2, h2, hr2⟩ := hc c1 hr1
  exact ⟨c2, by simp only [Reader.thenClose, h1, h2], hr2⟩

end ReadsAs

namespace Cursor

variable {c : Cursor} {b : UInt8} {r : List UInt8}

theorem skipBlank_of_rest (hc : c.rest = b :: r) (hb : isBlankByte b = false) :
    c.skipBlank = c := by
  rw [skipBlank]
  split <;> simp_all

theorem skipBlank_of_nil (hc : c.rest = []) : c.skipBlank = c := by
  rw [skipBlank]
  split <;> simp_all

theorem eat_rest (hc : c.rest = b :: r) : c.eat.rest = r := by
  simp only [eat, hc, advance]
  split <;> rfl

end Cursor

/-! The primitive readers. The written text has no white space, so every byte that follows is
one the reader does not skip. -/

namespace Reader

variable {b : UInt8} {r : List UInt8}

theorem reads_peekBlank (hb : Cursor.isBlankByte b = false) :
    ReadsAs peekBlank (b :: r) (some b) (b :: r) := by
  intro c hc
  refine ⟨c, ?_, hc⟩
  simp [peekBlank, Cursor.skipBlank_of_rest hc hb, Cursor.peek?, hc]

theorem reads_peekBlank_end : ReadsAs peekBlank [] none [] := by
  intro c hc
  refine ⟨c, ?_, hc⟩
  simp [peekBlank, Cursor.skipBlank_of_nil hc, Cursor.peek?, hc]

theorem reads_eat (b : UInt8) (r : List UInt8) : ReadsAs eat (b :: r) () r :=
  fun c hc => ⟨c.eat, rfl, Cursor.eat_rest hc⟩

theorem reads_nextByte (hb : Cursor.isBlankByte b = false) :
    ReadsAs nextByte (b :: r) b (b :: r) := by
  intro c hc
  refine ⟨c, ?_, hc⟩
  simp [nextByte, Cursor.skipBlank_of_rest hc hb, Cursor.peek?, hc]

end Reader

/-! Scanning a string body back. -/

theorem scanString_simple {e v : UInt8} (h : simpleEscape e = some v) (acc : List UInt8)
    (k : Nat) (rest : List UInt8) :
    scanString acc k (0x5C :: e :: rest) = scanString (v :: acc) (k + 2) rest := by
  rw [scanString.eq_def]
  simp [h]

theorem scanString_plain (bs : List UInt8) (h : ∀ b ∈ bs, b ≠ 0x22 ∧ b ≠ 0x5C ∧ ¬b < 0x20)
    (acc : List UInt8) (k : Nat) (rest : List UInt8) :
    scanString acc k (bs ++ rest) = scanString (bs.reverse ++ acc) (k + bs.length) rest := by
  induction bs generalizing acc k with
  | nil => rfl
  | cons b bs ih =>
    obtain ⟨hq, hs, hc⟩ := h b List.mem_cons_self
    rw [List.cons_append, scanString.eq_def]
    simp only [if_neg hq, if_neg hs, if_neg hc]
    rw [ih (fun b hb => h b (List.mem_cons_of_mem _ hb))]
    simp [Nat.add_assoc, Nat.add_comm 1]

theorem encodeChar_byte_cases (c : Char) :
    ∀ b ∈ String.utf8EncodeChar c, b.toNat = c.toNat ∨ 0x80 ≤ b.toNat := by
  simp only [String.utf8EncodeChar, show c.val.toNat = c.toNat from rfl]
  split_ifs <;> simp [UInt8.toNat_ofNat', Nat.reducePow] <;> omega

theorem encodeChar_plain {ch : Char} (hq : ch ≠ '"') (hb : ch ≠ '\\') (hc : ¬ch.toNat < 0x20) :
    ∀ b ∈ String.utf8EncodeChar ch, b ≠ 0x22 ∧ b ≠ 0x5C ∧ ¬b < 0x20 := by
  intro b hmem
  have hq' : ch.toNat ≠ 0x22 := fun h => hq (by rw [← Char.ofNat_toNat ch, h])
  have hb' : ch.toNat ≠ 0x5C := fun h => hb (by rw [← Char.ofNat_toNat ch, h])
  have hv := encodeChar_byte_cases ch b hmem
  refine ⟨fun h => ?_, fun h => ?_, ?_⟩
  · subst h
    simp at hv
    omega
  · subst h
    simp at hv
    omega
  · rw [UInt8.lt_iff_toNat_lt]
    simp
    omega

theorem hexDigit_encode {d : Nat} (h : d < 16) :
    ∃ x, String.utf8EncodeChar (Text.hexDigit d) = [x] ∧ hexValue x = some d := by
  have hex : ∀ n, n < 0x80 → ∃ x : UInt8, x.toNat = n ∧
      String.utf8EncodeChar (Char.ofNat n) = [x] := fun n hn => by
    have hb : (UInt8.ofNat n).toNat = n := by simp only [UInt8.toNat_ofNat', Nat.reducePow]; omega
    have he := Text.encode_one (show (UInt8.ofNat n).toNat < 0x80 by omega)
    rw [hb] at he
    exact ⟨_, hb, he⟩
  unfold Text.hexDigit
  split
  · obtain ⟨x, hx, he⟩ := hex (0x30 + d) (by omega)
    refine ⟨x, he, ?_⟩
    rw [hexValue, if_pos (by simp [UInt8.le_iff_toNat_le, hx]; omega)]
    simp [hx]
  · obtain ⟨x, hx, he⟩ := hex (0x57 + d) (by omega)
    refine ⟨x, he, ?_⟩
    rw [hexValue, if_neg (by simp [UInt8.le_iff_toNat_le, hx]; omega),
      if_pos (by simp [UInt8.le_iff_toNat_le, hx]; omega)]
    simp [hx]

/-- A control character written as `\u00xx` is scanned back to its byte: the code is below the
surrogates, so no second escape is looked for. -/
theorem scanString_hexEscape {c : Char} (h : c.toNat < 0x20) (acc : List UInt8) (k : Nat)
    (rest : List UInt8) :
    scanString acc k (['\\', 'u', '0', '0', Text.hexDigit (c.toNat / 16),
      Text.hexDigit (c.toNat % 16)].flatMap String.utf8EncodeChar ++ rest) =
      scanString ((String.utf8EncodeChar c).reverse ++ acc) (k + 6) rest := by
  obtain ⟨hi, hhi, hvi⟩ := hexDigit_encode (show c.toNat / 16 < 16 by omega)
  obtain ⟨lo, hlo, hvlo⟩ := hexDigit_encode (show c.toNat % 16 < 16 by omega)
  have hn : c.toNat / 16 * 16 + c.toNat % 16 = c.toNat := by omega
  have hzero : hexValue 0x30 = some 0 := rfl
  simp only [List.flatMap_cons, List.flatMap_nil, hhi, hlo]
  show scanString acc k (0x5C :: 0x75 :: 0x30 :: 0x30 :: hi :: lo :: rest) = _
  rw [scanString.eq_def]
  simp [simpleEscape, hex4, hzero, hvi, hvlo, hn, pushCode]
  rw [if_neg (by omega), if_pos (.inl (by omega))]

theorem scanString_escapeChar (ch : Char) (acc : List UInt8) (k : Nat) (rest : List UInt8) :
    scanString acc k ((escapeChar ch).flatMap String.utf8EncodeChar ++ rest) =
      scanString ((String.utf8EncodeChar ch).reverse ++ acc)
        (k + ((escapeChar ch).flatMap String.utf8EncodeChar).length) rest := by
  -- one case per branch of the writer: seven one-letter escapes, `\u00xx`, the character itself
  unfold escapeChar
  split_ifs with hq hb h8 ht hn hf hr hc
  · subst hq; exact scanString_simple rfl acc k rest
  · subst hb; exact scanString_simple rfl acc k rest
  · subst h8; exact scanString_simple rfl acc k rest
  · subst ht; exact scanString_simple rfl acc k rest
  · subst hn; exact scanString_simple rfl acc k rest
  · subst hf; exact scanString_simple rfl acc k rest
  · subst hr; exact scanString_simple rfl acc k rest
  · obtain ⟨hi, hhi, -⟩ := hexDigit_encode (show ch.toNat / 16 < 16 by omega)
    obtain ⟨lo, hlo, -⟩ := hexDigit_encode (show ch.toNat % 16 < 16 by omega)
    rw [scanString_hexEscape hc]
    simp only [List.flatMap_cons, List.flatMap_nil, hhi, hlo]
    rfl
  · simp only [List.flatMap_cons, List.flatMap_nil, List.append_nil]
    exact scanString_plain _ (encodeChar_plain hq hb hc) acc k rest

theorem scanString_escaped (cs : List Char) (acc : List UInt8) (k : Nat) (rest : List UInt8) :
    scanString acc k ((cs.flatMap escapeChar).flatMap String.utf8EncodeChar ++ 0x22 :: rest) =
      .ok ((cs.flatMap String.utf8EncodeChar).reverse ++ acc,
        k + ((cs.flatMap escapeChar).flatMap String.utf8EncodeChar).length) := by
  induction cs generalizing acc k with
  | nil =>
    rw [scanString.eq_def]
    simp
  | cons ch cs ih =>
    rw [List.flatMap_cons, List.flatMap_append, List.append_assoc, scanString_escapeChar, ih]
    simp [Nat.add_assoc]

theorem utf8_writeString (s : String) :
    Text.utf8 (writeString s) =
      0x22 :: (s.toList.flatMap escapeChar).flatMap String.utf8EncodeChar ++ [0x22] := by
  simp only [Text.utf8, writeString, String.toList_ofList, List.flatMap_cons, List.flatMap_append]
  rfl

theorem utf8_writeStrings (xs : List String) :
    Text.utf8 (writeStrings xs) =
      0x5B :: [0x2C].intercalate (xs.map fun x => Text.utf8 (writeString x)) ++ [0x5D] := by
  simp only [writeStrings, Text.utf8_append, PathList.utf8_intercalate, List.map_map,
    Function.comp_def]
  rfl

theorem intercalate_cons_eq {α : Type} (sep x : List α) (xs : List (List α)) :
    sep.intercalate (x :: xs) = x ++ xs.flatMap (sep ++ ·) := by
  induction xs generalizing x with
  | nil => simp
  | cons y ys ih => simp [List.intercalate_cons_cons, ih]

namespace Reader

theorem reads_string (s : String) (rest : List UInt8) :
    ReadsAs Reader.string
      ((s.toList.flatMap escapeChar).flatMap String.utf8EncodeChar ++ 0x22 :: rest) s rest := by
  intro c hc
  simp only [Reader.string, hc, scanString_escaped, List.append_nil, List.reverse_reverse]
  rw [show s.toList.flatMap String.utf8EncodeChar = Text.utf8 s from rfl, Text.decode_utf8]
  exact ⟨_, rfl, by simp only [Cursor.skip, Nat.zero_add, List.drop_length_add_append]; rfl⟩

theorem reads_stringValue (s : String) (rest : List UInt8) :
    ReadsAs stringValue (Text.utf8 (writeString s) ++ rest) s rest := by
  simp only [utf8_writeString, List.cons_append, List.append_assoc]
  refine (reads_nextByte rfl).bind ?_
  simp only [if_pos]
  exact (reads_eat _ _).bind (reads_string s rest)

/-! Arrays of strings. -/

theorem reads_nextElement_end (first : Bool) (r : List UInt8) :
    ReadsAs (nextElement first) (0x5D :: r) none (0x5D :: r) :=
  (reads_peekBlank rfl).bind (ReadsAs.pure _ _)

theorem reads_nextElement_first (x : String) (r : List UInt8) :
    ReadsAs (nextElement true) (Text.utf8 (writeString x) ++ r) (some 0x22)
      (Text.utf8 (writeString x) ++ r) := by
  rw [utf8_writeString, List.cons_append]
  exact (reads_peekBlank rfl).bind (ReadsAs.pure _ _)

theorem reads_nextElement_comma (x : String) (r : List UInt8) :
    ReadsAs (nextElement false) (0x2C :: (Text.utf8 (writeString x) ++ r)) (some 0x22)
      (Text.utf8 (writeString x) ++ r) := by
  rw [utf8_writeString, List.cons_append]
  exact (reads_peekBlank rfl).bind
    ((reads_eat _ _).bind ((reads_peekBlank rfl).bind (ReadsAs.pure _ _)))

theorem reads_endArray (r : List UInt8) : ReadsAs endArray (0x5D :: r) () r :=
  (reads_peekBlank rfl).bind (reads_eat _ _)

/-- After an item, the items that follow it, each after a comma, are read up to the closing
bracket; the fuel only has to outlast the bytes. -/
theorem reads_stringItems_more (xs acc : List String) (fuel : Nat) (rest : List UInt8)
    (hf : (xs.flatMap fun x => 0x2C :: Text.utf8 (writeString x)).length < fuel) :
    ReadsAs (stringItems acc false fuel)
      ((xs.flatMap fun x => 0x2C :: Text.utf8 (writeString x)) ++ 0x5D :: rest)
      (acc.reverse ++ xs) (0x5D :: rest) := by
  obtain ⟨n, rfl⟩ : ∃ n, fuel = n + 1 := ⟨fuel - 1, by omega⟩
  induction xs generalizing acc n with
  | nil =>
    rw [List.append_nil]
    exact (reads_nextElement_end false rest).bind (ReadsAs.pure _ _)
  | cons x xs ih =>
    simp only [List.flatMap_cons, List.length_append, List.length_cons] at hf
    have hn : (xs.flatMap fun x => 0x2C :: Text.utf8 (writeString x)).length < n := by omega
    obtain ⟨m, rfl⟩ : ∃ m, n = m + 1 := ⟨n - 1, by omega⟩
    simp only [List.flatMap_cons, List.cons_append, List.append_assoc]
    refine (reads_nextElement_comma x _).bind ((reads_stringValue x _).bind ?_)
    simpa using ih (x :: acc) m hn

theorem reads_stringItems (xs : List String) (fuel : Nat) (rest : List UInt8)
    (hf : ([0x2C].intercalate (xs.map fun x => Text.utf8 (writeString x))).length < fuel) :
    ReadsAs (stringItems [] true fuel)
      ([0x2C].intercalate (xs.map fun x => Text.utf8 (writeString x)) ++ 0x5D :: rest)
      xs (0x5D :: rest) := by
  obtain ⟨n, rfl⟩ : ∃ n, fuel = n + 1 := ⟨fuel - 1, by omega⟩
  cases xs with
  | nil => exact (reads_nextElement_end true rest).bind (ReadsAs.pure _ _)
  | cons x xs =>
    simp only [List.map_cons, intercalate_cons_eq, List.singleton_append, List.flatMap_map]
      at hf ⊢
    have hx : 0 < (Text.utf8 (writeString x)).length := by simp [utf8_writeString]
    rw [List.length_append] at hf
    rw [List.append_assoc]
    refine (reads_nextElement_first x _).bind ((reads_stringValue x _).bind ?_)
    simpa using reads_stringItems_more xs [x] n rest (by omega)

theorem reads_strings (xs : List String) (rest : List UInt8) :
    ReadsAs strings (Text.utf8 (writeStrings xs) ++ rest) xs rest := by
  rw [utf8_writeStrings]
  simp only [List.cons_append, List.append_assoc, List.nil_append]
  refine (reads_nextByte rfl).bind ?_
  rw [if_pos rfl]
  refine (reads_eat _ _).bind (ReadsAs.placed (ReadsAs.thenClose ?_ (reads_endArray rest)))
  -- the fuel is the length of what follows the bracket
  intro c hc
  exact reads_stringItems xs _ rest
    (by simp only [hc, List.length_append, List.length_cons]; omega) c hc

/-! The pieces of an object. -/

theorem reads_nextKey_first (k : String) (r : List UInt8) :
    ReadsAs (nextKey true) (Text.utf8 (writeString k) ++ r) (some k) r := by
  simp only [utf8_writeString, List.cons_append, List.append_assoc, List.nil_append]
  exact (reads_peekBlank rfl).bind ((ReadsAs.pure _ _).bind
    ((reads_eat _ _).bind (reads_string k r).map))

theorem reads_nextKey_next (k : String) (r : List UInt8) :
    ReadsAs (nextKey false) (0x2C :: (Text.utf8 (writeString k) ++ r)) (some k) r := by
  simp only [utf8_writeString, List.cons_append, List.append_assoc, List.nil_append]
  exact (reads_peekBlank rfl).bind ((reads_eat _ _).bind ((reads_peekBlank rfl).bind
    ((reads_eat _ _).bind (reads_string k r).map)))

theorem reads_nextKey_end (first : Bool) (r : List UInt8) :
    ReadsAs (nextKey first) (0x7D :: r) none (0x7D :: r) :=
  (reads_peekBlank rfl).bind (ReadsAs.pure _ _)

theorem reads_colon (r : List UInt8) : ReadsAs colon (0x3A :: r) () r :=
  (reads_peekBlank rfl).bind (reads_eat _ _)

theorem reads_endObject (r : List UInt8) : ReadsAs endObject (0x7D :: r) () r :=
  (reads_peekBlank rfl).bind (reads_eat _ _)

theorem reads_optionalString (h : String) (r : List UInt8) :
    ReadsAs optionalString (Text.utf8 (writeString h) ++ r) (some h) r := by
  have hv := reads_stringValue h r
  rw [utf8_writeString, List.cons_append] at hv ⊢
  exact (reads_peekBlank rfl).bind hv.map

theorem reads_atEnd : ReadsAs atEnd [] () [] :=
  reads_peekBlank_end.bind (ReadsAs.pure _ _)

end Reader

end NamespaceBootstrap.Json
