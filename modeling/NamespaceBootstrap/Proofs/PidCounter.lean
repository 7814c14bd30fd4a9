import NamespaceBootstrap.Bootstrap.Machine
import NamespaceBootstrap.Proofs.Channel
import NamespaceBootstrap.Proofs.Joining

/-! The recording cloner's id counter. A working cloner hands out its counter's value and then
steps the counter, so a cloner started at `first` answers its `k`-th request with the id
`first + k`, for as long as that id is below the largest 32-bit id. The request that would hand
out the largest id cannot step the counter past it: it is recorded, and fails, as does every
request after it. A cloner set to fail records each request and answers with its error, its
counter untouched. In a bootstrap run the child's id is the cloner's counter, so a run that
gets through reports the counter's value, and a run on a cloner at the largest id never does. -/

namespace NamespaceBootstrap

namespace Cloner

/-- Asks the cloner for one clone per flag word of `fs`, in order, collecting the answers. -/
def spawnAll (c : Cloner) : List Flags → List CloneResult × Cloner
  | [] => ([], c)
  | f :: fs =>
    let (r, c) := c.spawn f
    let (rs, c) := c.spawnAll fs
    (r :: rs, c)

/-- What the `k`-th request to a working cloner started at `first` comes to: the id
`first + k` while it is below the largest id, and the counter's overflow from there on. -/
def countedResult (first : Int32) (k : Nat) : CloneResult :=
  if first.toInt + k < Text.i32Max then .child ⟨Int32.ofInt (first.toInt + k)⟩
  else .counterOverflow

@[simp] theorem spawnAll_nil (c : Cloner) : c.spawnAll [] = ([], c) := rfl

theorem spawnAll_cons (c : Cloner) (f : Flags) (fs : List Flags) :
    c.spawnAll (f :: fs) =
      ((c.spawn f).1 :: ((c.spawn f).2.spawnAll fs).1, ((c.spawn f).2.spawnAll fs).2) := rfl

/-! One request. -/

section Step

variable {c : Cloner} (f : Flags)

theorem spawn_failing {e : Os.Errno} (hc : c.failWith = some e) :
    c.spawn f = (.failed (.clone e), { c with requested := c.requested ++ [f] }) := by
  simp [spawn, hc]

theorem spawn_at_largest (hc : c.failWith = none) (hmax : c.nextPid = Int32.maxValue) :
    c.spawn f = (.counterOverflow, { c with requested := c.requested ++ [f] }) := by
  simp [spawn, hc, hmax]

theorem spawn_below_largest (hc : c.failWith = none) (hmax : c.nextPid ≠ Int32.maxValue) :
    c.spawn f = (.child ⟨c.nextPid⟩,
      { c with requested := c.requested ++ [f], nextPid := c.nextPid + 1 }) := by
  simp [spawn, hc, hmax]

end Step

/-! Counting. -/

theorem toInt_lt_of_ne_maxValue {x : Int32} (h : x ≠ Int32.maxValue) : x.toInt < Text.i32Max := by
  have hle : x.toInt < 2147483648 := x.toInt_lt
  have hne : x.toInt ≠ 2147483647 := fun hx => h (Int32.toInt_inj.1 (by rw [hx]; rfl))
  have hmax : Text.i32Max = 2147483647 := rfl
  omega

theorem toInt_succ {x : Int32} (h : x ≠ Int32.maxValue) : (x + 1).toInt = x.toInt + 1 := by
  have hlt := toInt_lt_of_ne_maxValue h
  have hge : -2147483648 ≤ x.toInt := x.le_toInt
  have hmax : Text.i32Max = 2147483647 := rfl
  rw [Int32.toInt_add, Int.bmod_eq_of_le (by simp; omega) (by simp; omega)]
  rfl

theorem countedResult_zero {first : Int32} (h : first ≠ Int32.maxValue) :
    countedResult first 0 = .child ⟨first⟩ := by
  simp [countedResult, toInt_lt_of_ne_maxValue h, Int32.ofInt_toInt]

theorem countedResult_succ {first : Int32} (h : first ≠ Int32.maxValue) (k : Nat) :
    countedResult (first + 1) k = countedResult first (k + 1) := by
  have hk : first.toInt + 1 + (k : Int) = first.toInt + ((k + 1 : Nat) : Int) := by omega
  simp only [countedResult, toInt_succ h, hk]

theorem countedResult_at_largest {first : Int32} (h : first = Int32.maxValue) (k : Nat) :
    countedResult first k = .counterOverflow := by
  subst h
  have hmax : Text.i32Max = 2147483647 := rfl
  have htop : Int32.maxValue.toInt = 2147483647 := by simp [Int32.toInt_maxValue]
  unfold countedResult
  rw [if_neg]
  rw [htop, hmax]
  omega

/-- A working cloner answers its `k`-th request as `countedResult` says, from its counter, and
records every request. -/
theorem spawnAll_working {c : Cloner} (hc : c.failWith = none) (fs : List Flags) :
    (c.spawnAll fs).1 = (List.range fs.length).map (countedResult c.nextPid) ∧
      (c.spawnAll fs).2.requested = c.requested ++ fs := by
  induction fs generalizing c with
  | nil => simp
  | cons f fs ih =>
    rw [spawnAll_cons, List.length_cons, List.range_succ_eq_map, List.map_cons, List.map_map]
    by_cases hmax : c.nextPid = Int32.maxValue
    · -- the counter is stuck at the largest id: this request and every later one overflow
      rw [spawn_at_largest f hc hmax]
      have hnext : ({ c with requested := c.requested ++ [f] } : Cloner).failWith = none := hc
      obtain ⟨hrs, hreq⟩ := ih hnext
      refine ⟨?_, by simp [hreq]⟩
      rw [hrs]
      exact List.cons_eq_cons.2 ⟨(countedResult_at_largest hmax 0).symm,
        List.map_congr_left fun k _ =>
          (countedResult_at_largest hmax k).trans (countedResult_at_largest hmax (k + 1)).symm⟩
    · -- the request gets the counter's id and the rest count on from the next one
      rw [spawn_below_largest f hc hmax]
      have hnext : ({ c with requested := c.requested ++ [f], nextPid := c.nextPid + 1 } :
        Cloner).failWith = none := hc
      obtain ⟨hrs, hreq⟩ := ih hnext
      refine ⟨?_, by simp [hreq]⟩
      simp only [hrs, countedResult_zero hmax, List.cons.injEq, true_and]
      exact List.map_congr_left fun k _ => countedResult_succ hmax k

/-- A failing cloner answers every request with its error and records it, its counter
untouched. -/
theorem spawnAll_failing {c : Cloner} {e : Os.Errno} (hc : c.failWith = some e)
    (fs : List Flags) :
    c.spawnAll fs =
      (fs.map fun _ => .failed (.clone e), { c with requested := c.requested ++ fs }) := by
  induction fs generalizing c with
  | nil => simp
  | cons f fs ih =>
    have hnext : ({ c with requested := c.requested ++ [f] } : Cloner).failWith = some e := hc
    rw [spawnAll_cons, spawn_failing f hc, ih hnext]
    simp

end Cloner

namespace Machine

/-- A run that gets through reports the cloner's counter as the child's id, and the counter was
below the largest id. -/
theorem run_done (m : Machine) (s : Wire.Stream) (cont : Tag → Int) (o : Outcome) :
    (m.run s cont).ending = .done o →
      o = .parent ⟨m.cloner.nextPid⟩ (cont .asParent) ∧ m.cloner.nextPid ≠ Int32.maxValue := by
  unfold Machine.run
  -- every step that fails ends the run with a failure; only the clone decides the child's id
  rcases s.readPathList with ⟨e | l, s1⟩ <;> dsimp only
  · simp
  rcases m.joiner.joinAll l with ⟨e | ⟨⟩, j⟩ <;> dsimp only
  · simp
  rcases s1.readFlags with ⟨e | f, s2⟩ <;> dsimp only
  · simp
  cases hfail : m.cloner.failWith with
  | some e => simp [Cloner.spawn_failing f hfail]
  | none =>
    by_cases hmax : m.cloner.nextPid = Int32.maxValue
    · simp [Cloner.spawn_at_largest f hfail hmax]
    rw [Cloner.spawn_below_largest f hfail hmax]
    dsimp only
    rcases s2.writeChildPid ⟨m.cloner.nextPid⟩ with ⟨e | ⟨⟩, s3⟩ <;> dsimp only
    · simp
    rcases s3.releaseStep with ⟨e | ⟨⟩, s4⟩ <;> dsimp only
    · simp
    simp only [ResumePoint.establish, ResumePoint.signal, Ending.done.injEq]
    rintro rfl
    exact ⟨rfl, hmax⟩

end Machine

/-- The recording cloner's counter, as it is: a working cloner started at `first` answers its
`k`-th request with the id `first + k` while that id is below the largest one, and with the
counter's overflow from the request that would hand out the largest id on, recording every
request; a failing cloner answers each with its error, records it and leaves its counter alone.
In a bootstrap run over a fresh cloner at `p`, a run that gets through reports the child `p`,
which is then below the largest id. -/
theorem cloner_counts_below_largest_pid (first : Int32) (e : Os.Errno) (fs : List Flags)
    (m : Machine) (s : Wire.Stream) (cont : Tag → Int) (o : Outcome) :
    ((Cloner.mk first none []).spawnAll fs).1 =
        (List.range fs.length).map (Cloner.countedResult first) ∧
      ((Cloner.mk first none []).spawnAll fs).2.requested = fs ∧
      (Cloner.mk first (some e) []).spawnAll fs =
        (fs.map fun _ => .failed (.clone e), Cloner.mk first (some e) fs) ∧
      (({ m with cloner := Cloner.mk first none [] }.run s cont).ending = .done o →
        o = .parent ⟨first⟩ (cont .asParent) ∧ first ≠ Int32.maxValue) := by
  obtain ⟨hrs, hreq⟩ := Cloner.spawnAll_working (c := Cloner.mk first none []) rfl fs
  refine ⟨hrs, by simpa using hreq, ?_, Machine.run_done _ s cont o⟩
  simpa using Cloner.spawnAll_failing (c := Cloner.mk first (some e) []) rfl fs

/-- A fresh cloner at 100 over the request to join the UTS namespace of process 1 with the flag
word 0: the run gets through and reports the child 100. -/
theorem cloner_counts_below_largest_pid_uts :
    (({ joiner := {}, cloner := Cloner.mk 100 none [] } : Machine).run
        (Wire.Stream.ofInput (Wire.be32 14 ++ (⟨[{ path := "/proc/1/ns/uts" }]⟩ : PathList).encode ++
          Wire.be32 0)) fun _ => 0).ending = .done (.parent ⟨100⟩ 0) ∧
      (Outcome.parent ⟨100⟩ 0 = .parent ⟨100⟩ 0 ∧ (100 : Int32) ≠ Int32.maxValue) := by
  have hl : PathList.WellFormed ⟨[{ path := "/proc/1/ns/uts" }]⟩ := ⟨by decide, by decide⟩
  have hlen : (⟨[{ path := "/proc/1/ns/uts" }]⟩ : PathList).encode.length = 14 := by decide
  have hu : (Wire.Stream.ofInput (Wire.be32 14 ++ (⟨[{ path := "/proc/1/ns/uts" }]⟩ : PathList).encode ++
      Wire.be32 0)).unread =
      Wire.be32 (UInt32.ofNat (⟨[{ path := "/proc/1/ns/uts" }]⟩ : PathList).encode.length) ++
        (⟨[{ path := "/proc/1/ns/uts" }]⟩ : PathList).encode ++ Wire.be32 (⟨0⟩ : Flags).bits ++ [] := by
    simp [Wire.Stream.ofInput, hlen]
  obtain ⟨s1, hlist, hflags⟩ := Wire.Stream.read_request hl ⟨0⟩ hu rfl (by decide)
  have hjoin : ∀ p ∈ ["/proc/1/ns/uts"], p ∉ ({} : Joiner).failing := by simp
  have h100 : (100 : Int32) ≠ Int32.maxValue := by decide
  have hbytes : Wire.be32 (100 : Int32).toUInt32 ≠ [] := by decide
  have hrun : (({ joiner := {}, cloner := Cloner.mk 100 none [] } : Machine).run
      (Wire.Stream.ofInput (Wire.be32 14 ++ (⟨[{ path := "/proc/1/ns/uts" }]⟩ : PathList).encode ++
        Wire.be32 0)) fun _ => 0).ending = .done (.parent ⟨100⟩ 0) := by
    simp only [Machine.run, hlist, hflags, Joiner.joinAll, PathList.paths, List.map_map]
    simp [Joiner.joinPaths_of_forall_not_mem _ hjoin, Cloner.spawn, h100, hbytes, Wire.Stream.ofInput,
      Wire.Stream.writeChildPid, Wire.Stream.writeExact, Wire.Stream.write,
      Wire.Stream.releaseStep, Wire.Stream.releaseOnce, ResumePoint.establish, ResumePoint.signal]
  exact ⟨hrun, (cloner_counts_below_largest_pid 100 .perm []
    { joiner := {}, cloner := Cloner.mk 100 none [] }
    (Wire.Stream.ofInput (Wire.be32 14 ++ (⟨[{ path := "/proc/1/ns/uts" }]⟩ : PathList).encode ++
      Wire.be32 0)) (fun _ => 0) (.parent ⟨100⟩ 0)).2.2.2 hrun⟩

/-- A working cloner started a thousand below the largest id answers its first thousand
requests with the ids up to one below the largest, and the request after them, the one that
would hand out the largest id, with the counter's overflow. -/
theorem cloner_overflows_handing_out_largest_pid :
    ((Cloner.mk 2147482647 none []).spawnAll (List.replicate 1001 ⟨0⟩)).1 =
      (List.range 1000).map (fun k : Nat => CloneResult.child ⟨Int32.ofInt (2147482647 + k)⟩) ++
        [.counterOverflow] := by
  have hfirst : (2147482647 : Int32).toInt = 2147482647 := by decide
  have hmax : Text.i32Max = 2147483647 := rfl
  have hbelow : (List.range 1000).map (Cloner.countedResult 2147482647) =
      (List.range 1000).map fun k : Nat => CloneResult.child ⟨Int32.ofInt (2147482647 + k)⟩ := by
    apply List.map_congr_left
    intro k hk
    have hk : k < 1000 := List.mem_range.1 hk
    rw [Cloner.countedResult, hfirst, if_pos (by rw [hmax]; omega)]
  have hlast : Cloner.countedResult 2147482647 1000 = .counterOverflow := by
    rw [Cloner.countedResult, hfirst, if_neg (by rw [hmax]; omega)]
  rw [(Cloner.spawnAll_working (c := Cloner.mk 2147482647 none []) rfl _).1,
    List.length_replicate, List.range_succ, List.map_append, List.map_singleton, hbelow, hlast]

end NamespaceBootstrap
