import NamespaceBootstrap.Bootstrap.Joiner

/-! Joining is in list order and stops at the first failure. Over paths none of which fails,
every path is attempted and joined; over paths with a first failing one, the paths before it
are attempted and joined, it is attempted and not joined, and nothing after it is touched.
Both cases are one equation: the joiner appends to its records the longest prefix of paths that
do not fail, and to its attempts the first failing path if there is one. -/

namespace NamespaceBootstrap.Joiner

variable (j : Joiner)

theorem enter_eq (p : String) :
    j.enter p =
      if p ∈ j.failing then (.error (.join p .inval), { j with attempted := j.attempted ++ [p] })
      else (.ok (), { j with attempted := j.attempted ++ [p], joined := j.joined ++ [p] }) := by
  by_cases hp : p ∈ j.failing <;> simp [enter, hp]

theorem joinPaths_of_forall_not_mem {ps : List String} (h : ∀ p ∈ ps, p ∉ j.failing) :
    j.joinPaths ps =
      (.ok (), { j with attempted := j.attempted ++ ps, joined := j.joined ++ ps }) := by
  induction ps generalizing j with
  | nil => simp [joinPaths]
  | cons p ps ih =>
    have hp : p ∉ j.failing := h p (List.mem_cons_self ..)
    have hps : ∀ q ∈ ps, q ∉ j.failing := fun q hq => h q (List.mem_cons_of_mem _ hq)
    simp only [joinPaths, enter_eq, if_neg hp]
    rw [ih ⟨j.failing, j.attempted ++ [p], j.joined ++ [p]⟩ hps]
    simp

theorem joinPaths_eq (ps : List String) :
    j.joinPaths ps =
      (match ps.find? (fun p => j.failing.contains p) with
        | some q => .error (.join q .inval)
        | none => .ok (),
        { j with
          attempted := j.attempted ++ ps.takeWhile (fun p => !j.failing.contains p) ++
            (ps.find? fun p => j.failing.contains p).toList,
          joined := j.joined ++ ps.takeWhile (fun p => !j.failing.contains p) }) := by
  induction ps generalizing j with
  | nil => simp [joinPaths]
  | cons p ps ih =>
    by_cases hp : p ∈ j.failing
    · simp [joinPaths, enter_eq, hp]
    · -- the joiner that joined `p` fails on the same paths
      simp only [joinPaths, enter_eq, if_neg hp]
      rw [ih ⟨j.failing, j.attempted ++ [p], j.joined ++ [p]⟩]
      simp [hp]

/-- Joining a list is in order and fails fast, whatever the joiner recorded before and whichever
paths fail, repeats included. The paths before the first failing one are attempted and joined,
the first failing one is attempted and not joined, nothing after it is attempted, and the
failing paths stay as they were; the join fails with `EINVAL` naming the first failing path,
and it succeeds exactly when no path of the list fails. -/
theorem joinAll_in_order_fail_fast (l : PathList) :
    j.joinAll l =
      (match l.paths.find? (fun p => j.failing.contains p) with
        | some q => .error (.join q .inval)
        | none => .ok (),
        { j with
          attempted := j.attempted ++ l.paths.takeWhile (fun p => !j.failing.contains p) ++
            (l.paths.find? fun p => j.failing.contains p).toList,
          joined := j.joined ++ l.paths.takeWhile (fun p => !j.failing.contains p) }) ∧
    ((j.joinAll l).1 = .ok () ↔ ∀ p ∈ l.paths, p ∉ j.failing) := by
  have hjoin := j.joinPaths_eq l.paths
  refine ⟨hjoin, ?_⟩
  rw [joinAll, hjoin]
  cases hfind : l.paths.find? (fun p => j.failing.contains p) with
  | none => simpa using List.find?_eq_none.1 hfind
  | some q =>
    have hq : q ∈ j.failing := by simpa using List.find?_some hfind
    simp only [reduceCtorEq, false_iff]
    exact fun hall => hall q (List.mem_of_find?_eq_some hfind) hq

example : (Joiner.mk ["B"] [] []).joinAll ⟨[⟨"A", none⟩, ⟨"B", none⟩, ⟨"C", none⟩]⟩ =
    (.error (.join "B" .inval), ⟨["B"], ["A", "B"], ["A"]⟩) := by rfl

end NamespaceBootstrap.Joiner
