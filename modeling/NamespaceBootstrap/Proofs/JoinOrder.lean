import NamespaceBootstrap.Proofs.ListCodec
import NamespaceBootstrap.Proofs.Channel
import Mathlib.Data.List.Induction
import Mathlib.Data.List.Perm.Subperm

/-! The list of a process's namespaces, as the host builds it for the kinds it is asked to join.
It names each kind once, in the order the kinds were first named, except that the mount
namespace goes last, since joining it can hide the other paths. Every entry is the kind's path
under `/proc/<pid>/ns` with the kind declared, and the list always fits in a request frame: at
most seven paths of at most 27 characters.

The order is stated without the sorting that makes it: `JoinsBefore ks a b` says that `a` is not
the mount kind, and that `b` is the mount kind or was first named after `a`. -/

namespace NamespaceBootstrap

theorem ProcessId.length_render_le (p : ProcessId) : p.render.length ≤ 11 := by
  have hdigits : ∀ n : Nat, n ≤ 2147483648 → (Nat.repr n).length ≤ 10 := fun n hn => by
    rw [← String.length_toList, Nat.toList_repr]
    exact (Nat.length_toDigits_le_iff (by decide) (by decide)).2 (by omega)
  have hlo : -2147483648 ≤ p.toInt := p.raw.le_toInt
  have hhi : p.toInt < 2147483648 := p.raw.toInt_lt
  simp only [render, toString]
  cases hp : p.toInt with
  | ofNat m =>
    rw [hp, Int.ofNat_eq_natCast] at hhi
    have := hdigits m (by omega)
    simp only [Int.repr]
    omega
  | negSucc m =>
    rw [hp, Int.negSucc_eq] at hlo
    have := hdigits (m + 1) (by omega)
    have hminus : "-".length = 1 := rfl
    simp only [Int.repr, String.length_append, Nat.succ_eq_add_one]
    omega

theorem Kind.length_pathFor_le (k : Kind) (p : ProcessId) : (k.pathFor p).length ≤ 27 := by
  have hname : k.procName.length ≤ 6 := by cases k <;> decide
  have hsep : "/proc/".length = 6 ∧ "/ns/".length = 4 := ⟨rfl, rfl⟩
  have := p.length_render_le
  simp only [pathFor, String.length_append]
  omega

namespace Text

theorem length_utf8_le (s : String) : (utf8 s).length ≤ 4 * s.length := by
  rw [utf8, ← String.length_toList]
  induction s.toList with
  | nil => simp
  | cons c cs ih =>
    have := Char.utf8Size_le_four c
    simp only [List.flatMap_cons, List.length_append, String.length_utf8EncodeChar,
      List.length_cons]
    omega

end Text

theorem length_intercalate_comma_le {ps : List String} {m : Nat} (h : ∀ p ∈ ps, p.length ≤ m) :
    (String.intercalate "," ps).length ≤ ps.length * (m + 1) := by
  induction ps with
  | nil => simp
  | cons p ps ih =>
    have hp := h p (List.mem_cons_self ..)
    have hrest := ih fun q hq => h q (List.mem_cons_of_mem _ hq)
    cases ps with
    | nil => simp only [String.intercalate_singleton, List.length_singleton]; omega
    | cons q qs =>
      have hcomma : ",".length = 1 := rfl
      rw [String.intercalate_cons_cons, String.length_append, String.length_append,
        List.length_cons, Nat.succ_mul]
      omega

namespace PathList

theorem once_pairwise_idxOf (ks : List Kind) :
    (ks.foldl (fun acc k => if acc.contains k then acc else acc ++ [k]) []).Pairwise
      (fun a b => ks.idxOf a < ks.idxOf b) := by
  induction ks using List.reverseRecOn with
  | nil => simp
  | append_singleton ks k ih =>
    rw [List.foldl_append, List.foldl_cons, List.foldl_nil]
    have hmem : ∀ a, a ∈ ks.foldl (fun acc k => if acc.contains k then acc else acc ++ [k]) [] ↔
        a ∈ ks := fun a => by simpa using mem_foldl_once a ks []
    generalize ks.foldl (fun acc k => if acc.contains k then acc else acc ++ [k]) [] = once at ih hmem ⊢
    have hsub : ∀ a ∈ once, a ∈ ks := fun a ha => (hmem a).1 ha
    have hidx : ∀ a ∈ once, (ks ++ [k]).idxOf a = ks.idxOf a :=
      fun a ha => by rw [List.idxOf_append, if_pos (hsub a ha)]
    have hold : once.Pairwise (fun a b => (ks ++ [k]).idxOf a < (ks ++ [k]).idxOf b) :=
      ih.imp_of_mem fun ha hb hab => by rwa [hidx _ ha, hidx _ hb]
    -- a new kind goes to the end, and it is first named after every kind already kept
    by_cases hk : k ∈ once
    · simpa [hk] using hold
    · have hks : k ∉ ks := fun h => hk ((hmem k).2 h)
      have hlast : (ks ++ [k]).idxOf k = ks.length := by simp [List.idxOf_append, hks]
      simp only [List.contains_iff_mem, hk, if_false]
      rw [List.pairwise_append]
      refine ⟨hold, List.pairwise_singleton _ _, ?_⟩
      intro a ha b hb
      rw [List.mem_singleton] at hb
      subst hb
      rw [hidx a ha, hlast]
      exact List.idxOf_lt_length_of_mem (hsub a ha)

/-- The order of a process's namespaces: a kind other than mount comes before the mount kind and
before every kind first named after it. -/
def JoinsBefore (ks : List Kind) (a b : Kind) : Prop :=
  a ≠ .mnt ∧ (b = .mnt ∨ ks.idxOf a < ks.idxOf b)

theorem arrange_pairwise (ks : List Kind) : (arrange ks).Pairwise (JoinsBefore ks) := by
  have h := once_pairwise_idxOf ks
  simp only [arrange]
  rw [List.pairwise_append]
  refine ⟨(h.filter _).imp_of_mem ?_, (h.filter _).imp_of_mem ?_, ?_⟩
  · intro a b ha hb hab
    simp only [List.mem_filter, bne_iff_ne] at ha hb
    exact ⟨ha.2, .inr hab⟩
  · -- the mount kind is there at most once, so no two entries of this part are compared
    intro a b ha hb hab
    simp only [List.mem_filter, beq_iff_eq] at ha hb
    rw [ha.2, hb.2] at hab
    exact absurd hab (Nat.lt_irrefl _)
  · intro a ha b hb
    simp only [List.mem_filter, bne_iff_ne, beq_iff_eq] at ha hb
    exact ⟨ha.2, .inl hb.2⟩

theorem JoinsBefore.ne {ks : List Kind} {a b : Kind} (h : JoinsBefore ks a b) : a ≠ b := by
  rintro rfl
  rcases h with ⟨ha, hb | hlt⟩
  · exact ha hb
  · exact Nat.lt_irrefl _ hlt

theorem arrange_nodup (ks : List Kind) : (arrange ks).Nodup :=
  (arrange_pairwise ks).imp JoinsBefore.ne

theorem length_arrange_le (ks : List Kind) : (arrange ks).length ≤ 7 :=
  ((arrange_nodup ks).subperm fun k _ => Kind.mem_all k).length_le

theorem not_mem_dropLast_of_pairwise {α : Type} {R : α → α → Prop} {l : List α} {x : α}
    (hl : l.Pairwise R) (hx : ∀ b, ¬R x b) : x ∉ l.dropLast := by
  intro hmem
  have hne : l ≠ [] := by
    rintro rfl
    simp at hmem
  rw [← List.dropLast_concat_getLast hne, List.pairwise_append] at hl
  exact hx _ (hl.2.2 x hmem _ (List.mem_singleton_self _))

theorem mnt_not_mem_dropLast_arrange (ks : List Kind) : Kind.mnt ∉ (arrange ks).dropLast :=
  not_mem_dropLast_of_pairwise (arrange_pairwise ks) fun _ h => h.1 rfl

/-- The list of a process's namespaces takes at most 7 · 28 characters of four bytes each. -/
theorem length_encode_forProcess_le (p : ProcessId) (ks : List Kind) :
    (encode ⟨(arrange ks).map fun k => { path := k.pathFor p, kind := some k }⟩).length ≤ 784 := by
  have hpaths : ∀ q ∈ (arrange ks).map (·.pathFor p), q.length ≤ 27 := by
    simp only [List.mem_map]
    rintro _ ⟨k, -, rfl⟩
    exact k.length_pathFor_le p
  have htext := length_intercalate_comma_le hpaths
  have hbytes := Text.length_utf8_le (String.intercalate "," ((arrange ks).map (·.pathFor p)))
  have hcount := length_arrange_le ks
  simp only [List.length_map] at htext
  simp only [encode, paths, List.map_map]
  exact Nat.le_trans hbytes (by omega)

end PathList

/-- The list of a process's namespaces for some kinds. It fails exactly when no kind is given.
Otherwise it has one entry per kind given, each the kind's path under `/proc/<pid>/ns` with the
kind declared, in the order the kinds were first named but with the mount namespace last; so it
repeats no kind, has at most seven entries, can be sent, and fits in a request frame whatever the
flag word. -/
theorem forProcess_joins_each_kind_once (p : ProcessId) (ks : List Kind) :
    (PathList.forProcess p ks = .error (.config "namespace list cannot be empty") ↔ ks = []) ∧
    (ks ≠ [] → ∃ (order : List Kind) (l : PathList), PathList.forProcess p ks = .ok l ∧
      l.handles = order.map (fun k =>
        { path := "/proc/" ++ p.render ++ "/ns/" ++ k.procName, kind := some k }) ∧
      (∀ k, k ∈ order ↔ k ∈ ks) ∧ order.Pairwise (PathList.JoinsBefore ks) ∧ order.Nodup ∧
      order.length ≤ 7 ∧ Kind.mnt ∉ order.dropLast ∧
      l.WellFormed ∧ l.encode.length ≤ Wire.maxBlob ∧
      ∀ f, ∃ frame, Wire.encodeRequest l f = .ok frame) := by
  refine ⟨⟨fun h => ?_, fun h => ?_⟩, fun hks => ?_⟩
  · by_contra hne
    rw [PathList.forProcess_eq p hne] at h
    cases h
  · subst h
    rfl
  have hlen : (PathList.encode ⟨(PathList.arrange ks).map fun k =>
      { path := k.pathFor p, kind := some k }⟩).length ≤ Wire.maxBlob :=
    Nat.le_trans (PathList.length_encode_forProcess_le p ks) (by decide)
  refine ⟨PathList.arrange ks, _, PathList.forProcess_eq p hks, rfl, (PathList.mem_arrange · ks),
    PathList.arrange_pairwise ks, PathList.arrange_nodup ks, PathList.length_arrange_le ks,
    PathList.mnt_not_mem_dropLast_arrange ks, PathList.forProcess_wellFormed p hks, hlen,
    fun f => ?_⟩
  rw [Wire.encodeRequest_eq, if_pos hlen]
  exact ⟨_, rfl⟩

example : (PathList.forProcess ⟨42⟩ [.mnt, .net, .uts, .net]).map PathList.paths =
    .ok ["/proc/42/ns/net", "/proc/42/ns/uts", "/proc/42/ns/mnt"] := by decide +kernel

/-- Mount, network, UTS and network again, for process 42: the list is the network, UTS and
mount namespaces, and it fits in a frame. -/
theorem forProcess_mount_last_fits_frame :
    ∃ l, PathList.forProcess ⟨42⟩ [.mnt, .net, .uts, .net] = .ok l ∧
      l.encode.length ≤ Wire.maxBlob := by
  obtain ⟨-, l, hl, -, -, -, -, -, -, -, hlen, -⟩ :=
    (forProcess_joins_each_kind_once ⟨42⟩ [.mnt, .net, .uts, .net]).2 (by decide)
  exact ⟨l, hl, hlen⟩

end NamespaceBootstrap
