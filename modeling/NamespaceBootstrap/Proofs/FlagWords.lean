import NamespaceBootstrap.Namespace.Flags

/-! Flag words and sets of kinds correspond exactly. Each kind owns one bit of the word, and
`knownBits` is the union of those seven bits; every other bit is an unknown bit and rides
along. A word is read bit by bit: its kinds are the kinds whose bit is set, collecting kinds
sets exactly their bits, and union, intersection and containment of words are union,
intersection and inclusion of their kinds, with the unknown bits compared beside them. -/

namespace NamespaceBootstrap

namespace Kind

/-- The position of the kind's bit in a flag word. -/
def bitIndex : Kind → Nat
  | .mnt => 17 | .cgroup => 25 | .uts => 26 | .ipc => 27 | .user => 28 | .pid => 29 | .net => 30

/-- Whether the bit at position `i` belongs to a kind. -/
def ownsBit (i : Nat) : Bool := all.any fun k => decide (k.bitIndex = i)

theorem flagBit_toBitVec (k : Kind) : k.flagBit.toBitVec = BitVec.twoPow 32 k.bitIndex := by
  cases k <;> decide

theorem bitIndex_lt (k : Kind) : k.bitIndex < 32 := by
  cases k <;> decide

theorem twoPow_bitIndex_ne_zero (k : Kind) : BitVec.twoPow 32 k.bitIndex ≠ 0#32 := by
  cases k <;> decide

theorem bitIndex_inj {j k : Kind} : j.bitIndex = k.bitIndex ↔ j = k := by
  constructor
  · cases j <;> cases k <;> simp [bitIndex]
  · rintro rfl
    rfl

@[simp] theorem ownsBit_bitIndex (k : Kind) : ownsBit k.bitIndex = true := by
  cases k <;> rfl

theorem exists_of_ownsBit {i : Nat} (h : ownsBit i = true) : ∃ k : Kind, k.bitIndex = i := by
  obtain ⟨k, -, hk⟩ := List.any_eq_true.1 h
  exact ⟨k, of_decide_eq_true hk⟩

theorem all_pairwise_flagBit : all.Pairwise fun j k => j.flagBit < k.flagBit := by
  decide

end Kind

namespace Flags

variable {a b f : Flags} {k : Kind}

/-! Reading a word bit by bit. -/

theorem ext_getLsbD (h : ∀ i < 32, a.bits.toBitVec.getLsbD i = b.bits.toBitVec.getLsbD i) :
    a = b := by
  cases a
  cases b
  congr
  exact UInt32.toBitVec_inj.1 (BitVec.eq_of_getLsbD_eq h)

theorem getLsbD_knownBits (i : Nat) : knownBits.toBitVec.getLsbD i = Kind.ownsBit i := by
  by_cases hi : i < 32
  · have hbits : ∀ i < 32, knownBits.toBitVec.getLsbD i = Kind.ownsBit i := by decide
    exact hbits i hi
  · -- no kind owns a bit past the word
    have hnone : Kind.ownsBit i = false := by
      cases h : Kind.ownsBit i
      · rfl
      · obtain ⟨k, rfl⟩ := Kind.exists_of_ownsBit h
        exact absurd k.bitIndex_lt hi
    rw [BitVec.getLsbD_of_ge _ _ (by omega), hnone]

theorem has_eq (f : Flags) (k : Kind) : f.has k = f.bits.toBitVec.getLsbD k.bitIndex := by
  have hmask := BitVec.and_twoPow f.bits.toBitVec k.bitIndex
  apply Bool.eq_iff_iff.2
  rw [has, bne_iff_ne, ne_eq, ← UInt32.toBitVec_inj, UInt32.toBitVec_and, Kind.flagBit_toBitVec,
    hmask]
  split <;> simp_all [Kind.twoPow_bitIndex_ne_zero k]

/-- Containing a kind's word is testing the kind's bit: a single bit is all of its word. -/
@[simp] theorem contains_ofKind (f : Flags) (k : Kind) : f.contains (ofKind k) = f.has k := by
  have hmask := BitVec.and_twoPow f.bits.toBitVec k.bitIndex
  rw [has_eq]
  apply Bool.eq_iff_iff.2
  rw [contains, ofKind, beq_iff_eq, ← UInt32.toBitVec_inj, UInt32.toBitVec_and,
    Kind.flagBit_toBitVec, hmask]
  split <;> simp_all [(Kind.twoPow_bitIndex_ne_zero k).symm]

theorem kinds_eq_filter_has (f : Flags) : f.kinds = Kind.all.filter f.has := by
  unfold kinds
  congr 1
  funext k
  exact contains_ofKind f k

theorem getLsbD_unknownBits (f : Flags) (i : Nat) :
    f.unknownBits.toBitVec.getLsbD i = (f.bits.toBitVec.getLsbD i && !Kind.ownsBit i) := by
  by_cases hi : i < 32
  · simp only [unknownBits, UInt32.toBitVec_and, UInt32.toBitVec_not, BitVec.getLsbD_and,
      BitVec.getLsbD_not, getLsbD_knownBits, hi, decide_true, Bool.true_and]
  · simp [BitVec.getLsbD_of_ge _ _ (Nat.le_of_not_lt hi)]

@[simp] theorem mem_kinds : k ∈ f.kinds ↔ f.has k = true := by
  simp [kinds_eq_filter_has, Kind.mem_all]

/-! Collecting kinds. -/

theorem getLsbD_foldl_union (ks : List Kind) (acc : Flags) (i : Nat) :
    (ks.foldl (fun f k => f.union (ofKind k)) acc).bits.toBitVec.getLsbD i =
      (acc.bits.toBitVec.getLsbD i || ks.any fun k => decide (k.bitIndex = i)) := by
  induction ks generalizing acc with
  | nil => simp
  | cons k ks ih =>
    rw [List.foldl_cons, ih]
    simp [union, ofKind, Kind.flagBit_toBitVec, Kind.bitIndex_lt, Bool.or_assoc]

theorem getLsbD_ofKinds (ks : List Kind) (i : Nat) :
    (ofKinds ks).bits.toBitVec.getLsbD i = ks.any fun k => decide (k.bitIndex = i) := by
  simp [ofKinds, getLsbD_foldl_union, empty]

theorem has_ofKinds (ks : List Kind) (k : Kind) : (ofKinds ks).has k = decide (k ∈ ks) := by
  rw [has_eq, getLsbD_ofKinds, Bool.eq_iff_iff]
  simp [Kind.bitIndex_inj]

theorem kinds_ofKinds (ks : List Kind) : (ofKinds ks).kinds = Kind.all.filter (· ∈ ks) := by
  rw [kinds_eq_filter_has]
  congr 1
  funext k
  exact has_ofKinds ks k

example : (ofKinds [.net, .uts]).kinds = [.uts, .net] := by decide

theorem unknownBits_ofKinds (ks : List Kind) : (ofKinds ks).unknownBits = 0 := by
  apply UInt32.toBitVec_inj.1
  apply BitVec.eq_of_getLsbD_eq
  intro i _
  rw [getLsbD_unknownBits, getLsbD_ofKinds]
  -- a bit a collected word sets is a kind's bit
  cases h : ks.any fun k => decide (k.bitIndex = i)
  · simp
  · obtain ⟨k, -, hk⟩ := List.any_eq_true.1 h
    rw [← of_decide_eq_true hk]
    simp

/-! A word split into its kinds and its unknown bits. -/

theorem any_has_eq (f : Flags) (i : Nat) :
    (Kind.all.any fun k => f.has k && decide (k.bitIndex = i)) =
      (f.bits.toBitVec.getLsbD i && Kind.ownsBit i) := by
  apply Bool.eq_iff_iff.2
  simp only [List.any_eq_true, Bool.and_eq_true, decide_eq_true_eq, has_eq, Kind.ownsBit]
  constructor
  · rintro ⟨k, hk, hbit, rfl⟩
    exact ⟨hbit, k, hk, rfl⟩
  · rintro ⟨hbit, k, hk, rfl⟩
    exact ⟨k, hk, hbit, rfl⟩

theorem ofKinds_kinds (f : Flags) : ofKinds f.kinds = f.inter ⟨knownBits⟩ := by
  apply ext_getLsbD
  intro i _
  rw [getLsbD_ofKinds, kinds_eq_filter_has, List.any_filter, any_has_eq]
  simp [inter, getLsbD_knownBits]

theorem bits_eq_known_or_unknown (f : Flags) :
    f.bits = (f.inter ⟨knownBits⟩).bits ||| f.unknownBits := by
  apply UInt32.toBitVec_inj.1
  apply BitVec.eq_of_getLsbD_eq
  intro i _
  simp only [inter, UInt32.toBitVec_or, UInt32.toBitVec_and, BitVec.getLsbD_or,
    BitVec.getLsbD_and, getLsbD_unknownBits, getLsbD_knownBits]
  cases f.bits.toBitVec.getLsbD i <;> cases Kind.ownsBit i <;> rfl

theorem known_and_unknown_eq_zero (f : Flags) :
    (f.inter ⟨knownBits⟩).bits &&& f.unknownBits = 0 := by
  apply UInt32.toBitVec_inj.1
  apply BitVec.eq_of_getLsbD_eq
  intro i _
  simp only [inter, UInt32.toBitVec_and, BitVec.getLsbD_and, getLsbD_unknownBits,
    getLsbD_knownBits, UInt32.toBitVec_zero, BitVec.getLsbD_zero]
  cases f.bits.toBitVec.getLsbD i <;> cases Kind.ownsBit i <;> rfl

/-! Union, intersection and containment. -/

@[simp] theorem has_union : (a.union b).has k = (a.has k || b.has k) := by
  simp [has_eq, union]

@[simp] theorem has_inter : (a.inter b).has k = (a.has k && b.has k) := by
  simp [has_eq, inter]

theorem kinds_union (a b : Flags) :
    (a.union b).kinds = Kind.all.filter fun k => k ∈ a.kinds ∨ k ∈ b.kinds := by
  rw [kinds_eq_filter_has]
  congr 1
  funext k
  simp

theorem kinds_inter (a b : Flags) :
    (a.inter b).kinds = Kind.all.filter fun k => k ∈ a.kinds ∧ k ∈ b.kinds := by
  rw [kinds_eq_filter_has]
  congr 1
  funext k
  simp

theorem orAssign_eq_union (a b : Flags) : a.orAssign b = a.union b := rfl

theorem contains_iff_getLsbD :
    a.contains b = true ↔
      ∀ i < 32, b.bits.toBitVec.getLsbD i = true → a.bits.toBitVec.getLsbD i = true := by
  simp only [contains, beq_iff_eq]
  rw [← UInt32.toBitVec_inj, UInt32.toBitVec_and]
  constructor
  · intro h i _ hb
    have hbit := congrArg (·.getLsbD i) h
    simp only [BitVec.getLsbD_and, hb, Bool.and_true] at hbit
    exact hbit
  · intro h
    apply BitVec.eq_of_getLsbD_eq
    intro i hi
    rw [BitVec.getLsbD_and]
    cases hb : b.bits.toBitVec.getLsbD i
    · simp
    · simp [h i hi hb]

theorem contains_iff :
    a.contains b = true ↔
      b.kinds ⊆ a.kinds ∧ b.unknownBits &&& a.unknownBits = b.unknownBits := by
  rw [contains_iff_getLsbD]
  constructor
  · intro h
    refine ⟨fun k hk => ?_, ?_⟩
    · simp only [mem_kinds, has_eq] at hk ⊢
      exact h _ k.bitIndex_lt hk
    · apply UInt32.toBitVec_inj.1
      apply BitVec.eq_of_getLsbD_eq
      intro i hi
      simp only [UInt32.toBitVec_and, BitVec.getLsbD_and, getLsbD_unknownBits]
      cases hb : b.bits.toBitVec.getLsbD i
      · simp
      · simp [h i hi hb]
  · rintro ⟨hkinds, hunknown⟩ i _ hb
    cases hown : Kind.ownsBit i
    · -- an unknown bit of `b` is an unknown bit of `a`
      have hbit := congrArg (fun w : UInt32 => w.toBitVec.getLsbD i) hunknown
      simp only [UInt32.toBitVec_and, BitVec.getLsbD_and, getLsbD_unknownBits, hb, hown,
        Bool.not_false, Bool.and_true, Bool.true_and] at hbit
      exact hbit
    · -- a kind's bit of `b` is the bit of one of `a`'s kinds
      obtain ⟨k, rfl⟩ := Kind.exists_of_ownsBit hown
      have hk : k ∈ b.kinds := by simp [has_eq, hb]
      simpa [has_eq] using hkinds hk

end Flags

/-- Flag words and sets of kinds correspond exactly, whatever the words' unknown bits. Collecting
kinds gives a word whose kinds are the distinct kinds collected, in the order of their bits,
and which has no unknown bit. Collecting a word's kinds gives its known part, and the word is
its known part and its unknown bits, which share no bit. The kinds of a union and of an
intersection are the union and the intersection of the kinds, `|=` is `|`, and a word contains
another exactly when it has all the other's kinds and all its unknown bits. -/
theorem flags_correspond_to_kind_sets (a b : Flags) (ks : List Kind) :
    (Kind.all.Pairwise (fun j k => j.flagBit < k.flagBit) ∧
      (Flags.ofKinds ks).kinds = Kind.all.filter (· ∈ ks) ∧
      (Flags.ofKinds ks).unknownBits = 0) ∧
    (Flags.ofKinds a.kinds = a.inter ⟨Flags.knownBits⟩ ∧
      a.bits = (a.inter ⟨Flags.knownBits⟩).bits ||| a.unknownBits ∧
      (a.inter ⟨Flags.knownBits⟩).bits &&& a.unknownBits = 0) ∧
    ((a.union b).kinds = Kind.all.filter (fun k => k ∈ a.kinds ∨ k ∈ b.kinds) ∧
      (a.inter b).kinds = Kind.all.filter (fun k => k ∈ a.kinds ∧ k ∈ b.kinds) ∧
      a.orAssign b = a.union b ∧
      (a.contains b = true ↔
        b.kinds ⊆ a.kinds ∧ b.unknownBits &&& a.unknownBits = b.unknownBits)) :=
  ⟨⟨Kind.all_pairwise_flagBit, Flags.kinds_ofKinds ks, Flags.unknownBits_ofKinds ks⟩,
    ⟨Flags.ofKinds_kinds a, Flags.bits_eq_known_or_unknown a, Flags.known_and_unknown_eq_zero a⟩,
    ⟨Flags.kinds_union a b, Flags.kinds_inter a b, Flags.orAssign_eq_union a b,
      Flags.contains_iff⟩⟩

end NamespaceBootstrap
