import NamespaceBootstrap.Proofs.ProcPaths

/-! The namespace list's wire form is one to one. A list that can be sent, and only such a list,
comes out of every constructor and out of decoding; decoding reads back what encoding wrote, and
encoding writes back the very blob that was read, since checking UTF-8 is one to one and
splitting at commas is undone by joining with them. So building a list from paths succeeds
exactly when the paths, joined by commas, are read back as themselves. -/

namespace NamespaceBootstrap.PathList

theorem sep_not_mem_of_mem_splitOn {α : Type} [DecidableEq α] {a : α} {xs e : List α}
    (h : e ∈ xs.splitOn a) : a ∉ e := by
  induction xs generalizing e with
  | nil => simp_all [List.splitOn_nil]
  | cons x xs ih =>
    rw [List.splitOn_cons_eq_if_modifyHead] at h
    split at h
    · rcases List.mem_cons.1 h with rfl | h
      · simp
      · exact ih h
    · next hx =>
      obtain ⟨hd, tl, hsplit⟩ := List.exists_cons_of_ne_nil (List.splitOn_ne_nil a xs)
      rw [hsplit, List.modifyHead_cons] at h
      rcases List.mem_cons.1 h with rfl | h
      · have hhd := ih (hsplit ▸ List.mem_cons_self)
        simp only [beq_iff_eq] at hx
        simp [Ne.symm hx, hhd]
      · exact ih (hsplit ▸ List.mem_cons_of_mem _ h)

theorem decode_eq_ok {b : List UInt8} {l : PathList} (h : decode b = .ok l) :
    ∃ text, Text.decode b = .ok text ∧ text ≠ "" ∧
      (∀ p ∈ (text.toList.splitOn ',').map String.ofList, p ≠ "") ∧
      l = ⟨((text.toList.splitOn ',').map String.ofList).map fun p => { path := p }⟩ := by
  unfold decode at h
  cases ht : Text.decode b with
  | error f => simp [ht] at h
  | ok text =>
    simp only [ht] at h
    by_cases hempty : text = ""
    · simp [hempty] at h
    simp only [if_neg hempty] at h
    cases hfirst : firstEmpty? ((text.toList.splitOn ',').map String.ofList) with
    | some i => simp [hfirst] at h
    | none =>
      simp only [hfirst, Except.ok.injEq] at h
      refine ⟨text, rfl, hempty, ?_, h.symm⟩
      simpa [firstEmpty?, List.findIdx?_eq_none_iff] using hfirst

theorem decode_wellFormed {b : List UInt8} {l : PathList} (h : decode b = .ok l) : l.WellFormed := by
  obtain ⟨text, -, -, hne, rfl⟩ := decode_eq_ok h
  refine ⟨by simp [List.splitOn_ne_nil], ?_⟩
  intro p hp
  simp only [paths, List.map_map, List.mem_map, Function.comp_apply] at hp
  obtain ⟨e, he, rfl⟩ := hp
  refine (sendable_iff _).2 ⟨hne _ (List.mem_map_of_mem he), ?_⟩
  rw [String.toList_ofList]
  exact sep_not_mem_of_mem_splitOn he

/-- A received list is sent as the very bytes it was read from. -/
theorem encode_of_decode {b : List UInt8} {l : PathList} (h : decode b = .ok l) : l.encode = b := by
  obtain ⟨text, htext, -, -, rfl⟩ := decode_eq_ok h
  have hjoin : String.intercalate "," ((text.toList.splitOn ',').map String.ofList) = text := by
    rw [← String.toList_inj, String.toList_intercalate, List.map_map]
    simp [List.intercalate_splitOn]
  simp only [encode, paths, List.map_map, Function.comp_def, hjoin]
  exact Text.utf8_of_decode htext

theorem eq_of_decode {b : List UInt8} {l : PathList} (h : decode b = .ok l) :
    l = ⟨l.paths.map fun p => { path := p }⟩ := by
  obtain ⟨text, -, -, -, rfl⟩ := decode_eq_ok h
  simp [paths]

theorem utf8_intercalate (ps : List String) :
    Text.utf8 (String.intercalate "," ps) = [0x2C].intercalate (ps.map Text.utf8) := by
  induction ps with
  | nil => rfl
  | cons p ps ih =>
    cases ps with
    | nil => simp [Text.utf8]
    | cons q qs =>
      have hcomma : String.utf8EncodeChar ',' = [0x2C] := rfl
      simp only [Text.utf8, String.toList_intercalate, List.map_cons, List.intercalate_cons_cons,
        List.flatMap_append] at ih ⊢
      rw [ih]
      simp [hcomma]

theorem ofRaw_eq_ok {raws : List (List UInt8)} {l : PathList} :
    ofRaw raws = .ok l ↔
      l.WellFormed ∧ l = ⟨l.paths.map fun p => { path := p }⟩ ∧ l.paths.map Text.utf8 = raws := by
  rw [ofRaw, new_eq_ok]
  refine and_congr_right fun _ => ⟨fun hmap => ?_, fun ⟨heq, hraws⟩ => ?_⟩
  · -- the handles' raw forms carry no kind, so neither do the handles
    have hraws : l.paths.map Text.utf8 = raws := by
      simpa [paths, Handle.raw, Function.comp_def] using congrArg (List.map RawHandle.path) hmap
    refine ⟨?_, hraws⟩
    rw [← hraws, List.map_map] at hmap
    obtain ⟨handles⟩ := l
    congr 1
    apply List.map_inj_right (fun _ _ h => Handle.raw_injective h) |>.1
    simpa [paths, Handle.raw, Function.comp_def] using hmap
  · rw [← hraws, heq]
    simp [paths, Handle.raw, Function.comp_def]

theorem ofPaths_eq_ok {ps : List String} {l : PathList} :
    ofPaths ps = .ok l ↔ l.WellFormed ∧ l = ⟨ps.map fun p => { path := p }⟩ := by
  have hraw : (ps.map fun p => ({ path := Text.utf8 p } : RawHandle)) =
      (ps.map fun p => ({ path := p } : Handle)).map Handle.raw := by
    simp [Handle.raw]
  rw [ofPaths, hraw, new_map_raw_eq_ok]
  cases l
  simp

@[simp] theorem paths_mk (ps : List String) :
    paths ⟨ps.map fun p => { path := p }⟩ = ps := by
  simp [paths, Function.comp_def]

/-- Raw paths form a list exactly when their bytes joined by commas are read as that list, with
those paths. -/
theorem ofRaw_iff_decode_join {raws : List (List UInt8)} {l : PathList} :
    ofRaw raws = .ok l ↔ decode ([0x2C].intercalate raws) = .ok l ∧ l.paths.map Text.utf8 = raws
    := by
  constructor
  · intro h
    obtain ⟨hl, heq, rfl⟩ := ofRaw_eq_ok.1 h
    refine ⟨?_, rfl⟩
    rw [← utf8_intercalate, heq]
    simpa [encode] using decode_encode hl
  · rintro ⟨hdec, rfl⟩
    exact ofRaw_eq_ok.2 ⟨decode_wellFormed hdec, eq_of_decode hdec, rfl⟩

/-- Text paths form a list exactly when they, joined by commas, are read as that list, with
those paths. -/
theorem ofPaths_iff_decode_join {ps : List String} {l : PathList} :
    ofPaths ps = .ok l ↔ decode (Text.utf8 (String.intercalate "," ps)) = .ok l ∧ l.paths = ps
    := by
  constructor
  · intro h
    obtain ⟨hl, rfl⟩ := ofPaths_eq_ok.1 h
    exact ⟨by simpa [encode] using decode_encode hl, paths_mk ps⟩
  · rintro ⟨hdec, rfl⟩
    exact ofPaths_eq_ok.2 ⟨decode_wellFormed hdec, eq_of_decode hdec⟩

/-- The namespace list's wire form is one to one. Every list built from raw paths, from text
paths, for a process, or read from a blob is not empty and has sendable paths; such a list is
read back from its encoding path for path; a blob that is read is the encoding of the list read
from it; and paths form a list exactly when, joined by commas, they are read as that list with
the same paths. -/
theorem pathList_codec_bijective :
    (∀ raws (l : PathList), ofRaw raws = .ok l → l.WellFormed) ∧
    (∀ ps (l : PathList), ofPaths ps = .ok l → l.WellFormed) ∧
    (∀ p ks (l : PathList), forProcess p ks = .ok l → l.WellFormed) ∧
    (∀ b (l : PathList), decode b = .ok l → l.WellFormed) ∧
    (∀ l : PathList, l.WellFormed → decode l.encode = .ok ⟨l.paths.map fun p => { path := p }⟩) ∧
    (∀ b (l : PathList), decode b = .ok l → l.encode = b) ∧
    (∀ raws (l : PathList), ofRaw raws = .ok l ↔
      decode ([0x2C].intercalate raws) = .ok l ∧ l.paths.map Text.utf8 = raws) ∧
    (∀ ps (l : PathList), ofPaths ps = .ok l ↔
      decode (Text.utf8 (String.intercalate "," ps)) = .ok l ∧ l.paths = ps) :=
  ⟨fun _ _ h => (new_eq_ok.1 h).1, fun _ _ h => (new_eq_ok.1 h).1, fun _ _ _ h => (new_eq_ok.1 h).1,
    fun _ _ => decode_wellFormed, fun _ => decode_encode, fun _ _ => encode_of_decode,
    fun _ _ => ofRaw_iff_decode_join, fun _ _ => ofPaths_iff_decode_join⟩

end NamespaceBootstrap.PathList
