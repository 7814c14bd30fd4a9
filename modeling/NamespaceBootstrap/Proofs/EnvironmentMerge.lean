import NamespaceBootstrap.Launch.Environment
import NamespaceBootstrap.Launch.InitConfig
import NamespaceBootstrap.Proofs.KindNames
import Mathlib.Data.String.Basic
import Mathlib.Data.List.Induction

/-! The environment of the command the child runs, as a map from names to values. The inherited
variables are laid one by one over an empty list kept ordered by name, then the configuration's
entries over the result, each split at its first `=`; a variable that is set again replaces the
old value in place. So the environment has each name once, in increasing order, and a name's
value is that of the last entry setting it, else that of the last inherited variable of that
name, unless the name is one the bootstrap reserves.

Entries added to a configuration with `withEnv` reach the command as added when their names hold
no `=`. A name that holds one is cut at its first `=`, by the entry format: `A=B` set to `1` is
the entry `A=B=1`, which sets `A` to `B=1`. -/

namespace NamespaceBootstrap.Environment

/-- Variables with strictly increasing names, so each name once. -/
def Sorted (env : List (String × String)) : Prop := env.Pairwise (fun a b => a.1 < b.1)

theorem mem_set {k v : String} {a : String × String} {l : List (String × String)}
    (h : a ∈ set k v l) : a = (k, v) ∨ a ∈ l := by
  induction l with
  | nil => simpa [set] using h
  | cons p l ih =>
    obtain ⟨k', v'⟩ := p
    simp only [set] at h
    split_ifs at h with hlt heq
    · simpa using h
    · rcases List.mem_cons.1 h with h | h
      · exact .inl (by rw [h, heq])
      · exact .inr (List.mem_cons_of_mem _ h)
    · rcases List.mem_cons.1 h with h | h
      · exact .inr (h ▸ List.mem_cons_self ..)
      · rcases ih h with h | h
        · exact .inl h
        · exact .inr (List.mem_cons_of_mem _ h)

theorem sorted_set (k v : String) {l : List (String × String)} (h : Sorted l) :
    Sorted (set k v l) := by
  induction l with
  | nil => simp [set, Sorted]
  | cons p l ih =>
    obtain ⟨k', v'⟩ := p
    have hrest : Sorted l := h.of_cons
    have hk' : ∀ q ∈ l, k' < q.1 := fun q hq => List.rel_of_pairwise_cons h hq
    unfold Sorted at h ⊢
    simp only [set]
    split_ifs with hlt heq
    · refine List.Pairwise.cons ?_ h
      intro q hq
      rcases List.mem_cons.1 hq with rfl | hq
      · exact hlt
      · exact lt_trans hlt (hk' q hq)
    · subst heq
      exact hrest.cons fun q hq => hk' q hq
    · refine List.Pairwise.cons ?_ (ih hrest)
      intro q hq
      rcases mem_set hq with rfl | hq
      · exact lt_of_le_of_ne (not_lt.1 hlt) (Ne.symm heq)
      · exact hk' q hq

theorem mem_set_of_ne {k v a b : String} {l : List (String × String)} (hne : a ≠ k) :
    (a, b) ∈ set k v l ↔ (a, b) ∈ l := by
  induction l with
  | nil => simp [set, hne]
  | cons p l ih =>
    obtain ⟨k', v'⟩ := p
    simp only [set]
    split_ifs with hlt heq
    · simp [hne]
    · subst heq
      simp [hne]
    · simp [ih]

theorem mem_set_same {k v b : String} {l : List (String × String)} (h : Sorted l) :
    (k, b) ∈ set k v l ↔ b = v := by
  induction l with
  | nil => simp [set]
  | cons p l ih =>
    obtain ⟨k', v'⟩ := p
    have hk' : ∀ q ∈ l, k' < q.1 := fun q hq => List.rel_of_pairwise_cons h hq
    simp only [set]
    split_ifs with hlt heq
    · -- every name already there is above `k`
      have habove : (k, b) ∉ (k', v') :: l := by
        intro hm
        rcases List.mem_cons.1 hm with hm | hm
        · cases hm
          exact lt_irrefl _ hlt
        · exact lt_irrefl _ (lt_trans hlt (hk' _ hm))
      simp [habove]
    · subst heq
      have hbelow : (k, b) ∉ l := fun hm => lt_irrefl _ (hk' _ hm)
      simp [hbelow]
    · simp [ih h.of_cons, heq]

theorem mem_set_iff {k v a b : String} {l : List (String × String)} (h : Sorted l) :
    (a, b) ∈ set k v l ↔ (a = k ∧ b = v) ∨ (a ≠ k ∧ (a, b) ∈ l) := by
  by_cases hak : a = k
  · subst hak
    simp [mem_set_same h]
  · simp [mem_set_of_ne hak, hak]

theorem sorted_foldl_set {ps acc : List (String × String)} (h : Sorted acc) :
    Sorted (ps.foldl (fun acc p => set p.1 p.2 acc) acc) := by
  induction ps generalizing acc with
  | nil => exact h
  | cons p ps ih => exact ih (sorted_set p.1 p.2 h)

theorem mem_foldl_set {ps acc : List (String × String)} (h : Sorted acc) (k v : String) :
    (k, v) ∈ ps.foldl (fun acc p => set p.1 p.2 acc) acc ↔
      ps.reverse.lookup k = some v ∨ (ps.reverse.lookup k = none ∧ (k, v) ∈ acc) := by
  -- the last pair is laid last, and it is also the first that the reversed list looks up
  induction ps using List.reverseRecOn with
  | nil => simp
  | append_singleton ps p ih =>
    obtain ⟨k', v'⟩ := p
    rw [List.foldl_append, List.foldl_cons, List.foldl_nil, mem_set_iff (sorted_foldl_set h),
      List.reverse_append, List.reverse_singleton, List.singleton_append, List.lookup_cons]
    by_cases hk : k = k'
    · subst hk
      simp [eq_comm]
    · simp [beq_false_of_ne hk, hk, ih]

theorem cut_first_iff {c : Char} {cs k v : List Char} :
    (c ∈ cs ∧ cs.takeWhile (· ≠ c) = k ∧ (cs.dropWhile (· ≠ c)).drop 1 = v) ↔
      cs = k ++ c :: v ∧ c ∉ k := by
  constructor
  · rintro ⟨hc, rfl, rfl⟩
    induction cs with
    | nil => simp at hc
    | cons a cs ih =>
      by_cases ha : a = c
      · subst ha
        simp
      · have hcs : c ∈ cs := (List.mem_cons.1 hc).resolve_left (Ne.symm ha)
        obtain ⟨heq, hnot⟩ := ih hcs
        simp only [List.takeWhile_cons, List.dropWhile_cons, ne_eq, ha, not_false_eq_true,
          decide_true, if_true, List.cons_append, List.cons.injEq, true_and, List.mem_cons]
        exact ⟨heq, fun h => h.elim (fun h => ha h.symm) hnot⟩
  · rintro ⟨rfl, hk⟩
    have hall : ∀ a ∈ k, decide (a ≠ c) = true :=
      fun a ha => decide_eq_true fun (h : a = c) => hk (h ▸ ha)
    refine ⟨by simp, ?_, ?_⟩
    · rw [List.takeWhile_append_of_pos hall]
      simp
    · rw [List.dropWhile_append_of_pos hall]
      simp

theorem splitEntry_eq_some_iff {e k v : String} :
    splitEntry e = some (k, v) ↔ e = k ++ "=" ++ v ∧ '=' ∉ k.toList := by
  have hcut := @cut_first_iff '=' e.toList k.toList v.toList
  have htext : e = k ++ "=" ++ v ↔ e.toList = k.toList ++ '=' :: v.toList := by
    rw [← String.toList_inj]
    simp
  rw [htext, ← hcut]
  unfold splitEntry
  by_cases hc : '=' ∈ e.toList
  · simp [hc, String.ofList_eq]
  · simp [hc]

/-- The value the command's environment gives a name: that of the last entry of the
configuration that sets it, else, unless the name is reserved, that of the last inherited
variable of that name. -/
def lastValue (inherited : List (String × String)) (extra : List String) (k : String) :
    Option String :=
  ((extra.filterMap splitEntry).reverse.lookup k).or
    (if k.startsWith reservedPrefix then none else inherited.reverse.lookup k)

theorem lookup_filter_key {β : Type} (q : String → Bool) (l : List (String × β)) (k : String) :
    (l.filter fun p => q p.1).lookup k = if q k then l.lookup k else none := by
  induction l with
  | nil => simp
  | cons p l ih =>
    obtain ⟨a, b⟩ := p
    by_cases hk : k = a
    · subst hk
      by_cases hq : q k <;> simp [hq, ih]
    · have hskip : ∀ l' : List (String × β), ((a, b) :: l').lookup k = l'.lookup k := fun l' => by
        simp only [List.lookup_cons, beq_false_of_ne hk]
      by_cases hq : q a <;> simp [hq, ih, hskip]

theorem lookup_kept (inherited : List (String × String)) (k : String) :
    (kept inherited).reverse.lookup k =
      if k.startsWith reservedPrefix then none else inherited.reverse.lookup k := by
  have hkept : kept inherited = inherited.filter fun p => !p.1.startsWith reservedPrefix := rfl
  rw [hkept, ← List.filter_reverse, lookup_filter_key (fun n => !n.startsWith reservedPrefix)]
  by_cases hr : k.startsWith reservedPrefix <;> simp [hr]

theorem lastValue_ne_none_iff (inherited : List (String × String)) (extra : List String)
    (k : String) : lastValue inherited extra k ≠ none ↔
      (∃ v, (k, v) ∈ inherited ∧ k.startsWith reservedPrefix = false) ∨
        ∃ e ∈ extra, ∃ v, splitEntry e = some (k, v) := by
  have hextra : k ∈ (extra.filterMap splitEntry).reverse.map Prod.fst ↔
      ∃ e ∈ extra, ∃ v, splitEntry e = some (k, v) := by
    simp only [List.map_reverse, List.mem_reverse, List.mem_map, List.mem_filterMap, Prod.exists]
    constructor
    · rintro ⟨k', v, ⟨e, he, hs⟩, rfl⟩
      exact ⟨e, he, v, hs⟩
    · rintro ⟨e, he, v, hs⟩
      exact ⟨k, v, ⟨e, he, hs⟩, rfl⟩
  have hinherited : k ∈ inherited.reverse.map Prod.fst ↔ ∃ v, (k, v) ∈ inherited := by simp
  unfold lastValue
  rw [Ne, Option.or_eq_none_iff, lookup_eq_none_iff, hextra]
  by_cases hr : k.startsWith reservedPrefix
  · simp [hr]
  · simp only [hr, Bool.false_eq_true, if_false, lookup_eq_none_iff, hinherited]
    simp only [and_true]
    rw [not_and_or, not_not, not_not, or_comm]

/-- The command's environment is a map merged last-wins. Entries are split at their first `=`;
the environment lists each name once, in increasing order; its names are those of the inherited
variables that are not reserved and those the configuration's entries set; and each name has the
value `lastValue` gives it. -/
theorem build_merges_last_wins (inherited : List (String × String)) (extra : List String) :
    (∀ e k v, splitEntry e = some (k, v) ↔ e = k ++ "=" ++ v ∧ '=' ∉ k.toList) ∧
    ∃ env : List (String × String),
      build inherited extra = env.map (fun e => e.1 ++ "=" ++ e.2) ∧
      env.Pairwise (fun a b => a.1 < b.1) ∧
      (∀ k, k ∈ env.map Prod.fst ↔
        (∃ v, (k, v) ∈ inherited ∧ k.startsWith reservedPrefix = false) ∨
          ∃ e ∈ extra, ∃ v, splitEntry e = some (k, v)) ∧
      ∀ k v, (k, v) ∈ env ↔ lastValue inherited extra k = some v := by
  have hbase : Sorted ((kept inherited).foldl (fun acc p => set p.1 p.2 acc) []) :=
    sorted_foldl_set List.Pairwise.nil
  have hvalue : ∀ k v, (k, v) ∈ (extra.filterMap splitEntry).foldl (fun acc p => set p.1 p.2 acc)
      ((kept inherited).foldl (fun acc p => set p.1 p.2 acc) []) ↔
        lastValue inherited extra k = some v := by
    intro k v
    rw [mem_foldl_set hbase, mem_foldl_set List.Pairwise.nil, lastValue, Option.or_eq_some_iff,
      lookup_kept]
    simp
  refine ⟨fun _ _ _ => splitEntry_eq_some_iff, _, ?_, sorted_foldl_set hbase, fun k => ?_, hvalue⟩
  · -- the model skips entries without `=` inside its fold; here they are dropped first
    simp only [build, List.foldl_filterMap]
    congr 2
    funext acc e
    rcases h : splitEntry e with _ | ⟨k, v⟩ <;> rfl
  · rw [← lastValue_ne_none_iff, Option.ne_none_iff_exists']
    simp [hvalue]

end NamespaceBootstrap.Environment

namespace NamespaceBootstrap

theorem InitConfig.env_foldl_withEnv (c : InitConfig) (kvs : List (String × String)) :
    (kvs.foldl (fun c kv => c.withEnv kv.1 kv.2) c).env =
      c.env ++ kvs.map fun kv => kv.1 ++ "=" ++ kv.2 := by
  induction kvs generalizing c with
  | nil => simp
  | cons kv kvs ih =>
    rw [List.foldl_cons, ih]
    simp [InitConfig.withEnv]

/-- Entries added with `withEnv`, under names without `=`, reach the command as added: whatever
the inherited variables, each name gets the value it was last added with, and no other. -/
theorem withEnv_entries_reach_command (args : List String) (kvs inherited : List (String × String))
    (hkeys : ∀ kv ∈ kvs, '=' ∉ kv.1.toList) :
    ∃ env : List (String × String),
      Environment.build inherited
          (kvs.foldl (fun c kv => c.withEnv kv.1 kv.2) ({ args := args } : InitConfig)).env =
        env.map (fun e => e.1 ++ "=" ++ e.2) ∧
      env.Pairwise (fun a b => a.1 < b.1) ∧
      ∀ k ∈ kvs.map Prod.fst, ∀ v, (k, v) ∈ env ↔ kvs.reverse.lookup k = some v := by
  have hsplit : (kvs.map fun kv => kv.1 ++ "=" ++ kv.2).filterMap Environment.splitEntry = kvs := by
    rw [List.filterMap_map]
    refine (List.filterMap_congr fun kv hkv => ?_).trans List.filterMap_some
    exact Environment.splitEntry_eq_some_iff.2 ⟨rfl, hkeys kv hkv⟩
  obtain ⟨-, env, hbuild, hsorted, -, hvalue⟩ := Environment.build_merges_last_wins inherited
    (kvs.map fun kv => kv.1 ++ "=" ++ kv.2)
  refine ⟨env, by simpa [InitConfig.env_foldl_withEnv] using hbuild, hsorted, ?_⟩
  intro k hk v
  have hlast : kvs.reverse.lookup k ≠ none := by
    rw [Ne, lookup_eq_none_iff, List.map_reverse, List.mem_reverse]
    exact not_not.2 hk
  rw [hvalue, Environment.lastValue, hsplit]
  cases h : kvs.reverse.lookup k with
  | none => exact absurd h hlast
  | some w => simp

/-- A name added twice keeps its second value over the inherited one. -/
theorem withEnv_last_home_wins :
    ∃ env : List (String × String),
      Environment.build [("HOME", "/root")]
          ((({ args := ["sh"] } : InitConfig).withEnv "HOME" "/tmp").withEnv "HOME" "/srv").env =
        env.map (fun e => e.1 ++ "=" ++ e.2) ∧ ("HOME", "/srv") ∈ env := by
  obtain ⟨env, hbuild, -, hvalue⟩ := withEnv_entries_reach_command ["sh"]
    [("HOME", "/tmp"), ("HOME", "/srv")] [("HOME", "/root")] (by decide)
  exact ⟨env, hbuild, (hvalue "HOME" (by decide) "/srv").2 (by decide)⟩

/-- A name with `=` in it does not reach the command: `A=B` set to `1` becomes `A` set to `B=1`,
which the later `A` then replaces, though the configuration is valid. -/
theorem withEnv_key_with_equals_is_cut :
    let c := (({ args := ["sh"] } : InitConfig).withEnv "A=B" "1").withEnv "A" "2"
    c.validate = .ok () ∧ Environment.build [] c.env = ["A=2"] := by
  decide

end NamespaceBootstrap
