import NamespaceBootstrap.Namespace.List
import NamespaceBootstrap.Proofs.Utf8

/-! The namespace list on the wire. A list that can be sent is not empty and each of its paths
is non-empty and free of commas. Building a list from raw handles succeeds exactly on the raw
forms of such lists, and a list that can be sent is read back from its encoding with the same
paths in the same order, each without a declared kind. -/

namespace NamespaceBootstrap

section CheckedInverse

/-! A fallible map `f` that reads an item back as `g y` exactly when it yields `y` with `P y`,
run over a list. -/

variable {α β ε : Type} {f : α → Except ε β} {g : β → α} {P : β → Prop}

theorem mapM_map_eq_ok (hf : ∀ x y, f x = .ok y ↔ g y = x ∧ P y) {ys : List β}
    (hall : ∀ y ∈ ys, P y) : (ys.map g).mapM f = .ok ys := by
  induction ys with
  | nil => rfl
  | cons y ys ih =>
    have hy : f (g y) = .ok y := (hf _ y).2 ⟨rfl, hall y List.mem_cons_self⟩
    simp only [List.map_cons, List.mapM_cons, hy,
      ih fun z hz => hall z (List.mem_cons_of_mem y hz)]
    rfl

theorem map_of_mapM_eq_ok (hf : ∀ x y, f x = .ok y ↔ g y = x ∧ P y) {xs : List α} {ys : List β}
    (h : xs.mapM f = .ok ys) : ys.map g = xs ∧ ∀ y ∈ ys, P y := by
  induction xs generalizing ys with
  | nil =>
    simp only [List.mapM_nil, pure, Except.pure, Except.ok.injEq] at h
    simp [← h]
  | cons x xs ih =>
    rw [List.mapM_cons] at h
    rcases hx : f x with e | y
    · simp [hx, bind, Except.bind] at h
    rcases hrest : xs.mapM f with e | zs
    · simp [hx, hrest, bind, Except.bind] at h
    simp only [hx, hrest, bind, Except.bind, pure, Except.pure, Except.ok.injEq] at h
    subst h
    obtain ⟨hy, hP⟩ := (hf x y).1 hx
    obtain ⟨hzs, hall⟩ := ih hrest
    exact ⟨by rw [List.map_cons, hy, hzs], List.forall_mem_cons.2 ⟨hP, hall⟩⟩

/-- Such a map reads a list back from its image under `g`, item by item, and nothing else. -/
theorem mapM_eq_ok_iff_map (hf : ∀ x y, f x = .ok y ↔ g y = x ∧ P y) {xs : List α}
    {ys : List β} : xs.mapM f = .ok ys ↔ ys.map g = xs ∧ ∀ y ∈ ys, P y :=
  ⟨map_of_mapM_eq_ok hf, fun ⟨hmap, hall⟩ => hmap ▸ mapM_map_eq_ok hf hall⟩

end CheckedInverse

/-- The raw handle a handle is built from: its path's bytes and its declared kind. -/
def Handle.raw (x : Handle) : RawHandle := { path := Text.utf8 x.path, kind := x.kind }

theorem Handle.raw_injective : Function.Injective Handle.raw := by
  rintro ⟨p, k⟩ ⟨q, j⟩ h
  simp only [raw, RawHandle.mk.injEq] at h
  obtain ⟨hpq, rfl⟩ := h
  have hdec := Text.decode_utf8 p
  rw [hpq, Text.decode_utf8, Except.ok.injEq] at hdec
  rw [hdec]

namespace PathList

/-- A list that can go on the wire: not empty, and every path sendable. -/
structure WellFormed (l : PathList) : Prop where
  nonempty : l.handles ≠ []
  sendable : ∀ p ∈ l.paths, sendable p = true

theorem sendable_iff (p : String) : sendable p = true ↔ p ≠ "" ∧ ',' ∉ p.toList := by
  simp [sendable]

theorem WellFormed.paths_ne_nil {l : PathList} (hl : l.WellFormed) : l.paths ≠ [] := by
  simpa [paths] using hl.nonempty

theorem splitOn_encode {l : PathList} (hl : l.WellFormed) :
    ((String.intercalate "," l.paths).toList.splitOn ',').map String.ofList = l.paths := by
  have hsep : ∀ cs ∈ l.paths.map String.toList, ',' ∉ cs := by
    simp only [List.mem_map]
    rintro _ ⟨p, hp, rfl⟩
    exact ((sendable_iff p).1 (hl.sendable p hp)).2
  rw [String.toList_intercalate, show ",".toList = [','] from rfl,
    List.splitOn_intercalate ',' hsep (by simpa using hl.paths_ne_nil)]
  simp

/-- A list that can be sent is read back from its encoding path for path. -/
theorem decode_encode {l : PathList} (hl : l.WellFormed) :
    decode l.encode = .ok ⟨l.paths.map fun p => { path := p }⟩ := by
  have hsplit := splitOn_encode hl
  -- an empty text would have one entry, the empty path, which cannot be sent
  have hne : String.intercalate "," l.paths ≠ "" := by
    intro h
    rw [h] at hsplit
    have hempty : l.paths = [""] := by simpa using hsplit.symm
    simpa [sendable] using hl.sendable "" (by simp [hempty])
  have hfirst : firstEmpty? l.paths = none := by
    simp only [firstEmpty?, List.findIdx?_eq_none_iff, beq_eq_false_iff_ne]
    exact fun p hp => ((sendable_iff p).1 (hl.sendable p hp)).1
  simp only [decode, encode, Text.decode_utf8, if_neg hne, hsplit, hfirst]

/-! Building a list from raw handles. -/

theorem checkPath_eq_ok {raw : List UInt8} {p : String} :
    checkPath raw = .ok p ↔ raw = Text.utf8 p ∧ sendable p = true := by
  constructor
  · intro h
    unfold checkPath at h
    cases hd : Text.decode raw with
    | error f => simp [hd] at h
    | ok q =>
      simp only [hd] at h
      split_ifs at h with hq
      simp only [Except.ok.injEq] at h
      subst h
      exact ⟨(Text.utf8_of_decode hd).symm, hq⟩
  · rintro ⟨rfl, hp⟩
    simp [checkPath, Text.decode_utf8, hp]

theorem checkHandle_eq_ok {h : RawHandle} {x : Handle} :
    checkHandle h = .ok x ↔ x.raw = h ∧ sendable x.path = true := by
  obtain ⟨raw, kind⟩ := h
  rcases hp : checkPath raw with e | p
  · simp only [checkHandle, hp, Except.map, reduceCtorEq, false_iff, not_and]
    intro hx hs
    simp only [Handle.raw, RawHandle.mk.injEq] at hx
    obtain ⟨rfl, rfl⟩ := hx
    simp [checkPath_eq_ok.2 ⟨rfl, hs⟩] at hp
  · obtain ⟨rfl, hs⟩ := checkPath_eq_ok.1 hp
    simp only [checkHandle, hp, Except.map, Except.ok.injEq]
    constructor
    · rintro rfl
      exact ⟨rfl, hs⟩
    · rintro ⟨hx, -⟩
      exact Handle.raw_injective hx.symm

/-- A list is built from raw handles exactly when it can be sent and the handles are its own. -/
theorem new_eq_ok {hs : List RawHandle} {l : PathList} :
    new hs = .ok l ↔ l.WellFormed ∧ l.handles.map Handle.raw = hs := by
  unfold new
  split
  · next hnil =>
    rw [List.isEmpty_iff.1 hnil]
    simp only [reduceCtorEq, false_iff, not_and, List.map_eq_nil_iff]
    exact fun hl => hl.nonempty
  · next hne =>
    have hmk : ∀ r : Except BootstrapError (List Handle), r.map PathList.mk = .ok l ↔
        r = .ok l.handles := by
      intro r
      cases r <;> cases l <;> simp [Except.map]
    rw [hmk, mapM_eq_ok_iff_map fun _ _ => checkHandle_eq_ok]
    constructor
    · rintro ⟨hmap, hall⟩
      refine ⟨⟨?_, ?_⟩, hmap⟩
      · rintro hnil
        simp [← hmap, hnil] at hne
      · simpa [paths] using hall
    · rintro ⟨hl, hmap⟩
      exact ⟨hmap, by simpa [paths] using hl.sendable⟩

theorem new_map_raw_eq_ok {xs : List Handle} {l : PathList} :
    new (xs.map Handle.raw) = .ok l ↔ l.WellFormed ∧ l.handles = xs := by
  rw [new_eq_ok, List.map_inj_right fun _ _ h => Handle.raw_injective h]

end PathList

end NamespaceBootstrap
