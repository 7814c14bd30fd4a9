import NamespaceBootstrap.Cli.Plan
import Mathlib.Data.List.DropRight

/-! Reading namespace kinds by name, as `exec` reads the kinds to join and to create. Blank names
are skipped; every other name, trimmed of white space and with its ASCII capitals lowered, must be
one of sixteen aliases, and the kinds come in the order of their names, repeats kept. The first
name that is no alias stops the reading, with a failure that quotes the name as it was compared.

A name is trimmed twice on the way, once by the reader and once by the kind's own parser; the two
agree because trimming is idempotent. -/

namespace NamespaceBootstrap

theorem lookup_eq_none_iff {α β : Type} [BEq α] [LawfulBEq α] {l : List (α × β)} {k : α} :
    l.lookup k = none ↔ k ∉ l.map Prod.fst := by
  induction l with
  | nil => simp
  | cons p l ih =>
    obtain ⟨a, b⟩ := p
    by_cases h : k = a
    · simp [h]
    · simp only [List.lookup_cons, beq_false_of_ne h, List.map_cons, List.mem_cons, h, false_or, ih]

section FirstFailure

/-! A fallible map over a list runs item by item and stops at the first failure. -/

variable {α β ε : Type} {f : α → Except ε β}

theorem mapM_eq_ok_iff {xs : List α} {ys : List β} :
    xs.mapM f = .ok ys ↔ xs.map (fun x => (f x).toOption) = ys.map some := by
  induction xs generalizing ys with
  | nil => cases ys <;> simp [pure, Except.pure]
  | cons x xs ih =>
    rcases hx : f x with e | y
    · cases ys <;> simp [List.mapM_cons, hx, bind, Except.bind, Except.toOption]
    · rcases hm : xs.mapM f with e | zs
      · cases ys with
        | nil => simp [List.mapM_cons, hx, hm, bind, Except.bind, Except.toOption]
        | cons y' ys =>
          simp only [List.mapM_cons, hx, hm, bind, Except.bind, List.map_cons, Except.toOption,
            List.cons.injEq, reduceCtorEq, false_iff, not_and]
          intro _ hys
          simp [ih.2 hys] at hm
      · cases ys with
        | nil => simp [List.mapM_cons, hx, hm, bind, Except.bind, pure, Except.pure]
        | cons y' ys =>
          simp only [List.mapM_cons, hx, hm, bind, Except.bind, pure, Except.pure, List.map_cons,
            ih.1 hm]
          simp [Except.toOption, List.map_inj_right (fun _ _ h => Option.some.inj h)]

theorem exists_mapM_eq_ok {xs : List α} (h : ∀ x ∈ xs, ∃ y, f x = .ok y) :
    ∃ ys, xs.mapM f = .ok ys := by
  induction xs with
  | nil => exact ⟨[], rfl⟩
  | cons x xs ih =>
    obtain ⟨y, hy⟩ := h x (List.mem_cons_self ..)
    obtain ⟨ys, hys⟩ := ih fun x' hx' => h x' (List.mem_cons_of_mem _ hx')
    exact ⟨y :: ys, by simp [List.mapM_cons, hy, hys, bind, Except.bind, pure, Except.pure]⟩

theorem mapM_eq_error_of_first {pre post : List α} {x : α} {e : ε}
    (hpre : ∀ y ∈ pre, ∃ z, f y = .ok z) (hx : f x = .error e) :
    (pre ++ x :: post).mapM f = .error e := by
  induction pre with
  | nil => simp [List.mapM_cons, hx, bind, Except.bind]
  | cons y pre ih =>
    obtain ⟨z, hz⟩ := hpre y (List.mem_cons_self ..)
    have hrest := ih fun w hw => hpre w (List.mem_cons_of_mem _ hw)
    simp [List.mapM_cons, hz, hrest, bind, Except.bind]

end FirstFailure

namespace Text

theorem trimChars_trimChars (cs : List Char) : trimChars (trimChars cs) = trimChars cs := by
  have hdrop : ∀ l, trimChars l = (l.dropWhile isBlank).rdropWhile isBlank := fun _ => rfl
  rw [hdrop (trimChars cs), hdrop cs]
  -- what is left after the front is trimmed starts with no blank, and cutting at the back keeps
  -- that first character
  have hfront : ((cs.dropWhile isBlank).rdropWhile isBlank).dropWhile isBlank =
      (cs.dropWhile isBlank).rdropWhile isBlank := by
    rw [List.dropWhile_eq_self_iff]
    intro hl
    have hpre := List.rdropWhile_prefix isBlank (cs.dropWhile isBlank)
    rw [hpre.getElem hl]
    simpa using List.dropWhile_get_zero_not isBlank cs (Nat.lt_of_lt_of_le hl hpre.length_le)
  rw [hfront, List.rdropWhile_idempotent]

end Text

namespace Kind

/-- The names of the kinds as `exec` accepts them once lowered: the name of the kind's file, the
flag's name without `clone_`, and `mount` and `network`. -/
def aliases : List (String × Kind) :=
  [("mnt", .mnt), ("mount", .mnt), ("newns", .mnt), ("cgroup", .cgroup),
    ("newcgroup", .cgroup), ("uts", .uts), ("newuts", .uts), ("ipc", .ipc), ("newipc", .ipc),
    ("user", .user), ("newuser", .user), ("pid", .pid), ("newpid", .pid), ("net", .net),
    ("network", .net), ("newnet", .net)]

theorem ofName_eq_lookup (s : String) : ofName? s = aliases.lookup s := by
  unfold ofName?
  split
  case h_17 =>
    rw [eq_comm, lookup_eq_none_iff]
    simp_all [aliases]
  all_goals rfl

theorem normalName_trim (s : String) : normalName (Text.trim s) = normalName s := by
  simp [normalName, Text.trim, Text.trimChars_trimChars]

theorem parse_trim (s : String) : parse (Text.trim s) = parse s := by
  simp only [parse, normalName_trim]

theorem parse_toOption (s : String) : (parse s).toOption = aliases.lookup (normalName s) := by
  rw [← ofName_eq_lookup]
  cases h : ofName? (normalName s) <;> simp [parse, h, Except.toOption]

theorem parse_eq_error {s : String} (h : normalName s ∉ aliases.map Prod.fst) :
    parse s = .error (.config s!"unknown namespace kind {Text.quote (normalName s)}") := by
  have hnone : ofName? (normalName s) = none := by
    rw [ofName_eq_lookup, lookup_eq_none_iff]
    exact h
  simp [parse, hnone]

theorem exists_parse_eq_ok {s : String} (h : normalName s ∈ aliases.map Prod.fst) :
    ∃ k, parse s = .ok k := by
  obtain ⟨k, hk⟩ := Option.ne_none_iff_exists'.1 (mt lookup_eq_none_iff.1 (not_not.2 h))
  refine ⟨k, ?_⟩
  rw [← ofName_eq_lookup] at hk
  simp [parse, hk]

end Kind

namespace Cli

theorem parseKinds_eq (names : List String) :
    parseKinds names = (names.filter (Text.trim · ≠ "")).mapM Kind.parse := by
  rw [parseKinds, List.filter_map, List.mapM_map]
  simp [Function.comp_def, Kind.parse_trim]

end Cli

/-- Kinds are read from names exactly by the aliases. The reading succeeds iff every name that is
not blank is an alias once trimmed and lowered; the kinds it gives are those of the names that
are not blank, in their order; and otherwise it fails at the first name that is no alias, quoting
that name trimmed and lowered. -/
theorem parseKinds_accepts_exactly_aliases (names : List String) :
    ((∃ ks, Cli.parseKinds names = .ok ks) ↔
      ∀ s ∈ names, Text.trim s ≠ "" → Kind.normalName s ∈ Kind.aliases.map Prod.fst) ∧
    (∀ ks, Cli.parseKinds names = .ok ks →
      ks.map some = (names.filter (Text.trim · ≠ "")).map fun s =>
        Kind.aliases.lookup (Kind.normalName s)) ∧
    ∀ pre bad post, names = pre ++ bad :: post →
      (∀ s ∈ pre, Text.trim s = "" ∨ Kind.normalName s ∈ Kind.aliases.map Prod.fst) →
      Text.trim bad ≠ "" → Kind.normalName bad ∉ Kind.aliases.map Prod.fst →
      Cli.parseKinds names =
        .error (.config s!"unknown namespace kind {Text.quote (Kind.normalName bad)}") := by
  have hkinds : ∀ ks, Cli.parseKinds names = .ok ks →
      ks.map some = (names.filter (Text.trim · ≠ "")).map fun s =>
        Kind.aliases.lookup (Kind.normalName s) := by
    intro ks hks
    rw [Cli.parseKinds_eq, mapM_eq_ok_iff] at hks
    simpa [Kind.parse_toOption] using hks.symm
  refine ⟨⟨?_, ?_⟩, hkinds, ?_⟩
  · rintro ⟨ks, hks⟩ s hs hne
    have hmem : Kind.aliases.lookup (Kind.normalName s) ∈ ks.map some := by
      rw [hkinds ks hks]
      exact List.mem_map_of_mem (List.mem_filter.2 ⟨hs, by simpa using hne⟩)
    obtain ⟨k, -, hk⟩ := List.mem_map.1 hmem
    by_contra hnot
    rw [← lookup_eq_none_iff] at hnot
    rw [hnot] at hk
    cases hk
  · intro hall
    rw [Cli.parseKinds_eq]
    apply exists_mapM_eq_ok
    intro s hs
    rw [List.mem_filter] at hs
    exact Kind.exists_parse_eq_ok (hall s hs.1 (by simpa using hs.2))
  · rintro pre bad post rfl hpre hbad hrej
    rw [Cli.parseKinds_eq, List.filter_append, List.filter_cons_of_pos (by simpa using hbad)]
    apply mapM_eq_error_of_first
    · intro s hs
      rw [List.mem_filter] at hs
      exact Kind.exists_parse_eq_ok ((hpre s hs.1).resolve_left (by simpa using hs.2))
    · exact Kind.parse_eq_error hrej

example : Cli.parseKinds ["uts", " NEWPID ", "", "uts"] = .ok [.uts, .pid, .uts] := by decide

/-- A blank name is passed over, and the first name that is no alias stops the reading. -/
theorem parseKinds_rejects_time :
    let bad := Kind.normalName " Time "
    Cli.parseKinds [" uts", "", " Time ", "newpid"] =
      .error (.config s!"unknown namespace kind {Text.quote bad}") :=
  (parseKinds_accepts_exactly_aliases _).2.2 [" uts", ""] " Time " ["newpid"] rfl (by decide)
    (by decide) (by decide)

end NamespaceBootstrap
