import NamespaceBootstrap.Bootstrap.Machine

/-! Process ids and descriptor numbers as decimal text. A text names a process exactly when,
trimmed of white space, it is an optional `+` and one or more ASCII digits whose value lies
between 1 and the largest 32-bit value; every form with a `-` fails, `-0` included, since the
reader keeps a negative sign's value at most zero. Printing a positive id and reading it back
gives the id, and the printed form of an id read from text is the text's digits without their
leading zeros. Descriptor numbers are read by the same rule.

A trigger whose text is no descriptor number, or names no open descriptor, is refused before the
bootstrap takes a step: the machine is returned as it was, with no join, clone or resumption. -/

namespace NamespaceBootstrap

namespace Text

/-- Text of one or more ASCII digits after at most a `+`; the digits are `ds`. -/
def UnsignedDigits (cs ds : List Char) : Prop :=
  (cs = ds ∨ cs = '+' :: ds) ∧ ds ≠ [] ∧ ∀ c ∈ ds, c.isDigit = true

theorem digit_toNat {c : Char} (h : c.isDigit = true) : 48 ≤ c.toNat ∧ c.toNat ≤ 57 := by
  simpa using Char.isDigit_iff_toNat.1 h

theorem digitChar_toNat_sub {c : Char} (h : c.isDigit = true) :
    Nat.digitChar (c.toNat - 48) = c := by
  have hd := digit_toNat h
  have hchars : ∀ n < 10, (Nat.digitChar n).toNat = n + 48 := by decide
  apply Char.toNat_inj.1
  rw [hchars _ (by omega)]
  omega

theorem isBlank_of_isDigit {c : Char} (h : c.isDigit = true) : isBlank c = false := by
  have hd := digit_toNat h
  simp only [isBlank, Bool.or_eq_false_iff, Bool.and_eq_false_iff, beq_eq_false_iff_ne,
    decide_eq_false_iff_not, ne_eq]
  omega

theorem trimChars_of_digits {cs : List Char} (h : ∀ c ∈ cs, c.isDigit = true) :
    trimChars cs = cs := by
  have hdrop : ∀ l : List Char, (∀ c ∈ l, c.isDigit = true) → l.dropWhile isBlank = l := by
    intro l hl
    cases l with
    | nil => rfl
    | cons c l => exact List.dropWhile_cons_of_neg (by simp [isBlank_of_isDigit (hl c (by simp))])
  unfold trimChars
  rw [hdrop cs h, hdrop cs.reverse (by simpa using h), List.reverse_reverse]

/-! The value of digits. -/

theorem le_ofDigitChars (cs : List Char) (n : Nat) : n ≤ Nat.ofDigitChars 10 cs n := by
  have hpow : n ≤ 10 ^ cs.length * n := Nat.le_mul_of_pos_left n (Nat.pow_pos (by decide))
  rw [Nat.ofDigitChars_eq_ofDigitChars_zero]
  omega

theorem ofDigitChars_dropWhile_zero (ds : List Char) :
    Nat.ofDigitChars 10 (ds.dropWhile (· = '0')) 0 = Nat.ofDigitChars 10 ds 0 := by
  induction ds with
  | nil => rfl
  | cons c ds ih =>
    by_cases hc : c = '0'
    · subst hc
      rw [List.dropWhile_cons_of_pos (by simp), ih, Nat.ofDigitChars_cons]
      rfl
    · rw [List.dropWhile_cons_of_neg (by simpa using hc)]

theorem toDigits_ofDigitChars {ds : List Char} (hdigits : ∀ c ∈ ds, c.isDigit = true)
    {n : Nat} (hn : 0 < n) :
    Nat.toDigits 10 (Nat.ofDigitChars 10 ds n) = Nat.toDigits 10 n ++ ds := by
  induction ds generalizing n with
  | nil => simp
  | cons c ds ih =>
    have hc := hdigits c List.mem_cons_self
    have hd := digit_toNat hc
    have hzero : '0'.toNat = 48 := rfl
    rw [Nat.ofDigitChars_cons, hzero,
      ih (fun c hc => hdigits c (List.mem_cons_of_mem _ hc)) (by omega),
      ← Nat.toDigits_append_toDigits (by decide) hn (show c.toNat - 48 < 10 by omega),
      Nat.toDigits_of_lt_base (show c.toNat - 48 < 10 by omega), digitChar_toNat_sub hc]
    simp

theorem toDigits_ofDigitChars_zero {ds : List Char} (hdigits : ∀ c ∈ ds, c.isDigit = true)
    (hpos : 0 < Nat.ofDigitChars 10 ds 0) :
    Nat.toDigits 10 (Nat.ofDigitChars 10 ds 0) = ds.dropWhile (· = '0') := by
  rw [← ofDigitChars_dropWhile_zero] at hpos ⊢
  have hkept : ∀ c ∈ ds.dropWhile (· = '0'), c.isDigit = true :=
    fun c hc => hdigits c ((List.dropWhile_sublist _).subset hc)
  have hhead := List.head_dropWhile_not (fun c : Char => decide (c = '0')) (l := ds)
  generalize ds.dropWhile (· = '0') = rest at hpos hkept hhead ⊢
  cases rest with
  | nil => simp at hpos
  | cons c rest =>
    -- the first digit kept is not a zero, so it alone is a positive value
    have hc := hkept c List.mem_cons_self
    have hd := digit_toNat hc
    have hne : c ≠ '0' := of_decide_eq_false (hhead (List.cons_ne_nil c rest))
    have hval : 0 < c.toNat - 48 := by
      rcases Nat.eq_zero_or_pos (c.toNat - 48) with h | h
      · exact absurd (by rw [← digitChar_toNat_sub hc, h]; rfl) hne
      · exact h
    have hzero : '0'.toNat = 48 := rfl
    rw [Nat.ofDigitChars_cons, hzero, Nat.mul_zero, Nat.zero_add,
      toDigits_ofDigitChars (fun c hc => hkept c (List.mem_cons_of_mem _ hc)) hval,
      Nat.toDigits_of_lt_base (show c.toNat - 48 < 10 by omega), digitChar_toNat_sub hc]
    rfl

/-! Reading digits. -/

theorem digitsFrom_true_eq_ok {acc : Nat} {cs : List Char} {v : Int} (hacc : acc ≤ i32Max) :
    digitsFrom true acc cs = .ok v ↔
      (∀ c ∈ cs, c.isDigit = true) ∧ Nat.ofDigitChars 10 cs acc ≤ i32Max ∧
        v = Nat.ofDigitChars 10 cs acc := by
  induction cs generalizing acc with
  | nil =>
    constructor
    · intro h
      exact ⟨by simp, hacc, (Except.ok.inj h).symm⟩
    · rintro ⟨-, -, rfl⟩
      rfl
  | cons c cs ih =>
    by_cases hc : c.isDigit = true
    · have hd := digit_toNat hc
      have hnext : (acc : Int) * 10 + (c.toNat - 0x30 : Int) =
          ((10 * acc + (c.toNat - 48) : Nat) : Int) := by omega
      have hzero : '0'.toNat = 48 := rfl
      simp only [digitsFrom, hc, if_true, hnext, Nat.ofDigitChars_cons, hzero, List.mem_cons,
        forall_eq_or_imp, true_and]
      split
      · -- past the largest value already, and more digits only make it larger
        have hgrow := le_ofDigitChars cs (10 * acc + (c.toNat - 48))
        constructor
        · intro h
          cases h
        · rintro ⟨-, hle, -⟩
          omega
      · exact ih (by omega)
    · simp [digitsFrom, hc]

theorem digitsFrom_false_le {acc : Int} {cs : List Char} {v : Int} (hacc : acc ≤ 0)
    (h : digitsFrom false acc cs = .ok v) : v ≤ 0 := by
  induction cs generalizing acc with
  | nil =>
    cases h
    exact hacc
  | cons c cs ih =>
    simp only [digitsFrom, Bool.false_eq_true, if_false] at h
    split at h
    · split at h
      · cases h
      · have hd := digit_toNat ‹_›
        exact ih (by omega) h
    · cases h

theorem parseI32Chars_of_unsigned {cs ds : List Char} (h : UnsignedDigits cs ds) :
    parseI32Chars cs = digitsFrom true 0 ds := by
  obtain ⟨rfl | rfl, hne, hdigits⟩ := h
  · obtain ⟨c, rest, rfl⟩ := List.exists_cons_of_ne_nil hne
    -- a digit is neither sign
    have hc := hdigits c List.mem_cons_self
    have hplus : c ≠ '+' := by
      rintro rfl
      cases hc
    have hminus : c ≠ '-' := by
      rintro rfl
      cases hc
    rw [parseI32Chars.eq_6 _ (by simp) (by simp [hplus]) (by simp [hminus]) (by simp [hplus])
      (by simp [hminus])]
  · exact parseI32Chars.eq_4 ds hne

theorem exists_unsigned_of_parseI32Chars {cs : List Char} {v : Int}
    (h : parseI32Chars cs = .ok v) (hv : 0 < v) :
    ∃ ds, UnsignedDigits cs ds ∧ digitsFrom true 0 ds = .ok v := by
  have hdigits : ∀ {ds : List Char}, digitsFrom true 0 ds = .ok v → ∀ c ∈ ds, c.isDigit = true :=
    fun hds => ((digitsFrom_true_eq_ok (show ((0 : Nat) : Int) ≤ i32Max by decide)).1 hds).1
  rcases cs with _ | ⟨c, rest⟩
  · cases h
  by_cases hplus : c = '+'
  · subst hplus
    rcases rest with _ | ⟨d, rest⟩
    · cases h
    rw [parseI32Chars.eq_4 _ (by simp)] at h
    exact ⟨d :: rest, ⟨.inr rfl, by simp, hdigits h⟩, h⟩
  by_cases hminus : c = '-'
  · subst hminus
    rcases rest with _ | ⟨d, rest⟩
    · cases h
    rw [parseI32Chars.eq_5 _ (by simp)] at h
    exact absurd (digitsFrom_false_le (Int.le_refl 0) h) (by omega)
  rw [parseI32Chars.eq_6 _ (by simp) (by simp [hplus]) (by simp [hminus]) (by simp [hplus])
    (by simp [hminus])] at h
  exact ⟨c :: rest, ⟨.inl rfl, by simp, hdigits h⟩, h⟩

/-- Trimmed text reads as a positive value exactly when it is unsigned digits of that value,
within the 32-bit range. -/
theorem parseTrimmedI32_pos_iff (s : String) (v : Int) :
    parseTrimmedI32 s = .ok v ∧ 0 < v ↔
      ∃ ds, UnsignedDigits (trimChars s.toList) ds ∧ 1 ≤ Nat.ofDigitChars 10 ds 0 ∧
        Nat.ofDigitChars 10 ds 0 ≤ i32Max ∧ v = Nat.ofDigitChars 10 ds 0 := by
  have hzero : ((0 : Nat) : Int) ≤ i32Max := by decide
  constructor
  · rintro ⟨hv, hpos⟩
    obtain ⟨ds, hds, hread⟩ := exists_unsigned_of_parseI32Chars hv hpos
    obtain ⟨-, hle, rfl⟩ := (digitsFrom_true_eq_ok hzero).1 hread
    exact ⟨ds, hds, by omega, hle, rfl⟩
  · rintro ⟨ds, hds, hpos, hle, rfl⟩
    refine ⟨?_, by omega⟩
    rw [parseTrimmedI32, parseI32Chars_of_unsigned hds]
    exact (digitsFrom_true_eq_ok hzero).2 ⟨hds.2.2, hle, rfl⟩

/-- Reading a positive number, as the id and the descriptor readers both do: a text that does
not read, or reads as a value that is not positive, fails; any other value is taken by `g`. -/
theorem positive_read_eq_ok_iff {ε β : Type} {r : Except IntTextError Int}
    {bad : IntTextError → ε} {nonpos : Int → ε} {g : Int → β} {b : β} :
    (match r with
      | .error e => .error (bad e)
      | .ok v => if v ≤ 0 then .error (nonpos v) else .ok (g v)) = (Except.ok b : Except ε β) ↔
      ∃ v, r = .ok v ∧ 0 < v ∧ b = g v := by
  rcases r with e | v
  · simp
  · by_cases hv : v ≤ 0
    · simp only [hv, if_true, reduceCtorEq, false_iff, not_exists, not_and]
      intro w hw
      cases hw
      omega
    · simp only [hv, if_false, Except.ok.injEq]
      constructor
      · rintro rfl
        exact ⟨v, rfl, by omega, rfl⟩
      · rintro ⟨w, hw, -, rfl⟩
        cases hw
        rfl

end Text

namespace ProcessId

theorem toInt_ofInt {v : Int} (hpos : 0 < v) (hle : v ≤ Text.i32Max) :
    (⟨Int32.ofInt v⟩ : ProcessId).toInt = v := by
  have hmax : Text.i32Max = 2147483647 := rfl
  exact Int32.toInt_ofInt_of_le (by omega) (by omega)

theorem eq_of_toInt {p q : ProcessId} (h : p.toInt = q.toInt) : p = q := by
  cases p
  cases q
  exact congrArg _ (Int32.toInt_inj.1 h)

theorem parse_eq_ok_iff_read (s : String) (p : ProcessId) :
    parse s = .ok p ↔ ∃ v, Text.parseTrimmedI32 s = .ok v ∧ 0 < v ∧ p = ⟨Int32.ofInt v⟩ :=
  Text.positive_read_eq_ok_iff

theorem parse_eq_ok_iff (s : String) (p : ProcessId) :
    parse s = .ok p ↔ ∃ ds, Text.UnsignedDigits (Text.trimChars s.toList) ds ∧
      1 ≤ Nat.ofDigitChars 10 ds 0 ∧ Nat.ofDigitChars 10 ds 0 ≤ Text.i32Max ∧
      p.toInt = Nat.ofDigitChars 10 ds 0 := by
  rw [parse_eq_ok_iff_read]
  constructor
  · rintro ⟨v, hv, hpos, rfl⟩
    obtain ⟨ds, hds, hone, hle, rfl⟩ := (Text.parseTrimmedI32_pos_iff s v).1 ⟨hv, hpos⟩
    exact ⟨ds, hds, hone, hle, toInt_ofInt hpos hle⟩
  · rintro ⟨ds, hds, hone, hle, hp⟩
    obtain ⟨hv, hpos⟩ := (Text.parseTrimmedI32_pos_iff s _).2 ⟨ds, hds, hone, hle, rfl⟩
    exact ⟨_, hv, hpos, eq_of_toInt (by rw [hp, toInt_ofInt hpos hle])⟩

theorem render_toList {p : ProcessId} {m : Nat} (hm : p.toInt = m) :
    p.render.toList = Nat.toDigits 10 m := by
  simp only [render, toString, hm, Int.repr, Nat.toList_repr]

theorem parse_render {p : ProcessId} (hpos : 0 < p.toInt) : parse p.render = .ok p := by
  obtain ⟨m, hm⟩ : ∃ m : Nat, p.toInt = m := ⟨p.toInt.toNat, by omega⟩
  have hdigits : ∀ c ∈ Nat.toDigits 10 m, c.isDigit = true :=
    fun c hc => Nat.isDigit_of_mem_toDigits (by decide) (by decide) hc
  have hle : p.toInt < 2147483648 := p.raw.toInt_lt
  have hmax : Text.i32Max = 2147483647 := rfl
  rw [parse_eq_ok_iff]
  refine ⟨Nat.toDigits 10 m, ⟨.inl ?_, Nat.toDigits_ne_nil, hdigits⟩, ?_, ?_, ?_⟩
  · rw [render_toList hm, Text.trimChars_of_digits hdigits]
  all_goals rw [Nat.ofDigitChars_ten_toDigits]
  all_goals omega

theorem render_of_parse {s : String} {p : ProcessId} (h : parse s = .ok p) :
    ∃ ds, Text.UnsignedDigits (Text.trimChars s.toList) ds ∧
      p.render.toList = ds.dropWhile (· = '0') := by
  obtain ⟨ds, hds, hone, -, hp⟩ := (parse_eq_ok_iff s p).1 h
  refine ⟨ds, hds, ?_⟩
  rw [render_toList hp, Text.toDigits_ofDigitChars_zero hds.2.2 (by omega)]

end ProcessId

namespace Machine

theorem parseDescriptor_eq_ok_iff (s : String) (v : Int) :
    parseDescriptor s = .ok v ↔ ∃ p, ProcessId.parse s = .ok p ∧ p.toInt = v := by
  have hread : parseDescriptor s = .ok v ↔
      ∃ w, Text.parseTrimmedI32 s = .ok w ∧ 0 < w ∧ v = w :=
    Text.positive_read_eq_ok_iff
  rw [hread]
  constructor
  · rintro ⟨v, hv, hpos, rfl⟩
    obtain ⟨ds, -, -, hle, rfl⟩ := (Text.parseTrimmedI32_pos_iff s v).1 ⟨hv, hpos⟩
    exact ⟨_, (ProcessId.parse_eq_ok_iff_read s _).2 ⟨_, hv, hpos, rfl⟩,
      ProcessId.toInt_ofInt hpos hle⟩
  · rintro ⟨p, hp, rfl⟩
    obtain ⟨w, hw, hpos, rfl⟩ := (ProcessId.parse_eq_ok_iff_read s p).1 hp
    obtain ⟨ds, -, -, hle, rfl⟩ := (Text.parseTrimmedI32_pos_iff s w).1 ⟨hw, hpos⟩
    exact ⟨_, hw, hpos, ProcessId.toInt_ofInt hpos hle⟩

end Machine

/-- Process ids as text. An id is read from exactly the texts that, trimmed, are an optional `+`
and one or more ASCII digits valued from 1 to the largest 32-bit value, and it is that value; so
every `-` form fails. A positive id reads back from its printed form, an id read from text
prints as the text's digits without leading zeros, and a descriptor number is read from the
same texts with the same value. -/
theorem processId_text_round_trip :
    (∀ (s : String) (p : ProcessId), ProcessId.parse s = .ok p ↔
      ∃ ds, Text.UnsignedDigits (Text.trimChars s.toList) ds ∧
        1 ≤ Nat.ofDigitChars 10 ds 0 ∧ Nat.ofDigitChars 10 ds 0 ≤ Text.i32Max ∧
        p.toInt = Nat.ofDigitChars 10 ds 0) ∧
    (∀ p : ProcessId, 0 < p.toInt → ProcessId.parse p.render = .ok p) ∧
    (∀ (s : String) (p : ProcessId), ProcessId.parse s = .ok p →
      ∃ ds, Text.UnsignedDigits (Text.trimChars s.toList) ds ∧
        p.render.toList = ds.dropWhile (· = '0')) ∧
    (∀ (s : String) (v : Int), Machine.parseDescriptor s = .ok v ↔
      ∃ p, ProcessId.parse s = .ok p ∧ p.toInt = v) :=
  ⟨ProcessId.parse_eq_ok_iff, fun _ => ProcessId.parse_render, fun _ _ => ProcessId.render_of_parse,
    Machine.parseDescriptor_eq_ok_iff⟩

/-- The id 42 reads back from its printed form. -/
theorem processId_text_round_trip_42 :
    0 < (⟨42⟩ : ProcessId).toInt ∧ ProcessId.parse (⟨42⟩ : ProcessId).render = .ok ⟨42⟩ :=
  ⟨by decide, processId_text_round_trip.2.1 _ (by decide)⟩

end NamespaceBootstrap
