import NamespaceBootstrap.Host.Bootstrap
import NamespaceBootstrap.Proofs.Codec

/-! The paths of a process's namespaces, `/proc/<pid>/ns/<name>`, carry their kind: whatever the
pid, the last name of such a path is the kind's file name, and no two kinds share one. So a list
built for a process keeps its kinds across the wire, where only its paths travel. -/

namespace NamespaceBootstrap

theorem ProcessId.render_chars (p : ProcessId) :
    ∀ c ∈ p.render.toList, c.isDigit = true ∨ c = '-' := by
  intro c hc
  have hdigit : ∀ n : Nat, c ∈ (Nat.repr n).toList → c.isDigit = true := by
    intro n h
    rw [Nat.toList_repr] at h
    exact Nat.isDigit_of_mem_toDigits (by decide) (by decide) h
  simp only [render, toString] at hc
  cases hp : p.toInt with
  | ofNat m => rw [hp] at hc; exact .inl (hdigit m hc)
  | negSucc m =>
    rw [hp] at hc
    simp only [Int.repr, String.toList_append, List.mem_append] at hc
    rcases hc with hc | hc
    · exact .inr (by simpa using hc)
    · exact .inl (hdigit _ hc)

namespace Kind

theorem procName_ne (k : Kind) :
    k.procName ≠ "" ∧ k.procName ≠ "." ∧ k.procName ≠ ".." ∧ '/' ∉ k.procName.toList ∧
      ',' ∉ k.procName.toList := by
  cases k <;> decide

theorem pathFor_toList (k : Kind) (p : ProcessId) :
    (k.pathFor p).toList = ("/proc/" ++ p.render ++ "/ns").toList ++ '/' :: k.procName.toList := by
  simp [pathFor]

theorem sendable_pathFor (k : Kind) (p : ProcessId) : PathList.sendable (k.pathFor p) = true := by
  have hrender : ',' ∉ p.render.toList := fun h => by
    rcases p.render_chars ',' h with h | h <;> simp_all
  rw [PathList.sendable_iff]
  refine ⟨fun h => by simpa [h] using pathFor_toList k p, ?_⟩
  simp [pathFor_toList, hrender, (procName_ne k).2.2.2.2]

/-- The last name of a process's namespace path is the kind's file name, whatever the pid. -/
theorem fileName_pathFor (k : Kind) (p : ProcessId) :
    Namespace.fileName? (k.pathFor p) = some k.procName := by
  obtain ⟨hne, hdot, hdots, hslash, -⟩ := procName_ne k
  have hsplit : ((k.pathFor p).toList.splitOn '/').map String.ofList =
      (("/proc/" ++ p.render ++ "/ns").toList.splitOn '/').map String.ofList ++ [k.procName] := by
    rw [pathFor_toList, List.splitOn_append_cons_self, List.splitOn_eq_singleton hslash]
    simp
  simp only [Namespace.fileName?, hsplit, List.filter_append, List.getLast?_append]
  simp [hne, hdot, hdots]

/-- The kind of a process's namespace path is read back from the path alone. -/
theorem ofPath_pathFor (k : Kind) (p : ProcessId) : ofPath? (k.pathFor p) = some k := by
  rw [ofPath?, fileName_pathFor, Option.bind_some]
  cases k <;> decide

end Kind

namespace PathList

theorem mem_foldl_once (k : Kind) (ks acc : List Kind) :
    k ∈ ks.foldl (fun acc k => if acc.contains k then acc else acc ++ [k]) acc ↔
      k ∈ acc ∨ k ∈ ks := by
  induction ks generalizing acc with
  | nil => simp
  | cons k' ks ih =>
    rw [List.foldl_cons, ih]
    by_cases h : k' ∈ acc <;> simp [h] <;> grind

theorem mem_arrange (k : Kind) (ks : List Kind) : k ∈ arrange ks ↔ k ∈ ks := by
  simp only [arrange, List.mem_append, List.mem_filter, mem_foldl_once, List.not_mem_nil,
    false_or]
  by_cases hk : k = .mnt <;> simp [hk]

/-- A list built for a process can be sent. -/
theorem forProcess_wellFormed (p : ProcessId) {ks : List Kind} (hks : ks ≠ []) :
    WellFormed ⟨(arrange ks).map fun k => { path := k.pathFor p, kind := some k }⟩ := by
  obtain ⟨k, ks', rfl⟩ := List.exists_cons_of_ne_nil hks
  have hmem : k ∈ arrange (k :: ks') := (mem_arrange k _).2 (List.mem_cons_self ..)
  refine ⟨by simpa using List.ne_nil_of_mem hmem, ?_⟩
  simp only [paths, List.map_map, List.mem_map, Function.comp_apply]
  rintro _ ⟨k', -, rfl⟩
  exact Kind.sendable_pathFor k' p

theorem forProcess_eq (p : ProcessId) {ks : List Kind} (hks : ks ≠ []) :
    forProcess p ks = .ok ⟨(arrange ks).map fun k => { path := k.pathFor p, kind := some k }⟩ := by
  -- the raw handles are those of the list's own handles
  have hraw : ((arrange ks).map fun k => ({ path := Text.utf8 (k.pathFor p), kind := some k } :
      RawHandle)) = ((arrange ks).map fun k => { path := k.pathFor p, kind := some k }).map
        Handle.raw := by
    simp [Handle.raw]
  rw [forProcess, hraw]
  exact new_map_raw_eq_ok.2 ⟨forProcess_wellFormed p hks, rfl⟩

end PathList

namespace Host

/-- Joining with kind checks looks at each handle's path and inferred kind only. -/
theorem joinHandles_congr (h : Host) (check : Bool) {hs hs' : List Handle}
    (heq : hs.map (fun x => (x.path, x.inferredKind)) = hs'.map fun x => (x.path, x.inferredKind)) :
    (joinHandles h check hs).2 = (joinHandles h check hs').2 := by
  induction hs generalizing hs' with
  | nil => cases hs' <;> simp_all [joinHandles]
  | cons x xs ih =>
    cases hs' with
    | nil => simp at heq
    | cons y ys =>
      simp only [List.map_cons, List.cons.injEq, Prod.mk.injEq] at heq
      obtain ⟨⟨hpath, hkind⟩, hrest⟩ := heq
      simp only [joinHandles, hpath, hkind]
      split <;> simp [ih hrest]

end Host

/-- The kinds a host declares survive the wire, though only paths travel. For every pid and
every non-empty choice of kinds, the list built for the process is read back from its encoding;
the received handles declare no kind, yet each infers the kind its sender declared, so the
bootstrap's joins with kind checks ask the kernel for the kinds the host meant; and the kind of
every process's namespace path is read back from the path. -/
theorem declared_kinds_survive_wire (p : ProcessId) (ks : List Kind) (hks : ks ≠ []) :
    ∃ l l', PathList.forProcess p ks = .ok l ∧ PathList.decode l.encode = .ok l' ∧
      (∀ x ∈ l'.handles, x.kind = none) ∧
      l'.handles.map Handle.inferredKind = l.handles.map Handle.kind ∧
      (∀ h : Host, (Host.joinHandles h true l'.handles).2 = (Host.joinHandles h true l.handles).2) ∧
      ∀ (k : Kind) (q : ProcessId), Kind.ofPath? (k.pathFor q) = some k := by
  refine ⟨_, _, PathList.forProcess_eq p hks,
    PathList.decode_encode (PathList.forProcess_wellFormed p hks), ?_, ?_, ?_, Kind.ofPath_pathFor⟩
  · simp
  · simp [PathList.paths, Handle.inferredKind, Kind.ofPath_pathFor]
  · intro h
    apply Host.joinHandles_congr
    simp [PathList.paths, Handle.inferredKind, Kind.ofPath_pathFor]

/-- The list for the user and mount namespaces of the least 32-bit pid. -/
theorem declared_kinds_survive_wire_min_pid :
    [Kind.user, .mnt] ≠ [] ∧ ∃ l l', PathList.forProcess ⟨-2147483648⟩ [.user, .mnt] = .ok l ∧
      PathList.decode l.encode = .ok l' ∧
      l'.handles.map Handle.inferredKind = [some .user, some .mnt] := by
  obtain ⟨l, l', hl, hl', -, hkinds, -⟩ :=
    declared_kinds_survive_wire ⟨-2147483648⟩ [.user, .mnt] (by decide)
  refine ⟨by decide, l, l', hl, hl', ?_⟩
  rw [hkinds]
  rw [PathList.forProcess_eq _ (by decide), Except.ok.injEq] at hl
  subst hl
  decide

end NamespaceBootstrap
