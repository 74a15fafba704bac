import Mathlib
import ApiAudit.Config.Resolve

/-!
# Proofs/ClasspathRoots — the class-loading roots of a resolved configuration

Both front ends resolve the classes directory and each classpath entry to a root: `~` and
variables expanded, then made absolute (`Classpath.normalize`).  When a run starts, the roots
are built from the configuration once more (`Classpath.build`), and so normalized a second
time.  This module says when the second pass changes nothing.

* `Path.absolute_absolute` — the absolute form of a path is its own absolute form: the lexical
  normal form of a rooted path is a fixed point (`Path.normalize_normalize`);
* `Environment.expandUser_of_isAbsolute` and `Environment.expandVars_of_no_dollar` — an
  absolute path has no `~` to expand, and a text without `$` no variable;
* `build_resolved_roots` — so the roots of a resolved configuration whose paths hold no `$` are
  its classpath entries in order, repetitions kept, then its classes directory.

The condition on `$` cannot be dropped: a variable's value is not expanded when the front end
resolves it, but the second pass reads any `$NAME` in it as a variable again
(`dollarValue_expanded_twice`).
-/

namespace ApiAudit

/-- A sequenced computation succeeds exactly when each step succeeds in turn. -/
theorem bind_eq_ok {ε α β : Type} {x : Except ε α} {f : α → Except ε β} {b : β} :
    (x >>= f) = .ok b ↔ ∃ a, x = .ok a ∧ f a = .ok b := by
  cases x <;> simp [bind, Except.bind]

/-- Each result of a list of steps that succeeded is the result of one item's step. -/
theorem exists_of_mem_mapM {ε α β : Type} {f : α → Except ε β} :
    ∀ {xs : List α} {ys : List β}, xs.mapM f = .ok ys → ∀ y ∈ ys, ∃ x ∈ xs, f x = .ok y
  | [], ys, h => by
    simp only [List.mapM_nil, pure, Except.pure, Except.ok.injEq] at h
    simp [← h]
  | x :: xs, ys, h => by
    rw [List.mapM_cons] at h
    simp only [bind_eq_ok, pure, Except.pure, Except.ok.injEq] at h
    obtain ⟨y, hy, ys', hys', rfl⟩ := h
    intro y' hy'
    rcases List.mem_cons.mp hy' with rfl | hy'
    · exact ⟨x, List.mem_cons_self, hy⟩
    · obtain ⟨x', hx', h'⟩ := exists_of_mem_mapM hys' y' hy'
      exact ⟨x', List.mem_cons_of_mem _ hx', h'⟩

namespace Path

/-! ## The lexical normal form of a rooted path -/

/-- A component of a path in normal form: a non-empty name without a slash, neither `.` nor
`..`. -/
def Settled (c : List Char) : Prop := c ≠ [] ∧ '/' ∉ c ∧ c ≠ ['.'] ∧ c ≠ ['.', '.']

/-- No piece of a text cut at slashes holds a slash. -/
theorem slash_not_mem_of_mem_splitOn : ∀ {cs c : List Char}, c ∈ cs.splitOn '/' → '/' ∉ c
  | [], c, h => by
    rw [List.splitOn_nil, List.mem_singleton] at h
    simp [h]
  | x :: xs, c, h => by
    rw [List.splitOn_cons_eq_if_modifyHead] at h
    split at h
    · rcases List.mem_cons.mp h with rfl | h
      · simp
      · exact slash_not_mem_of_mem_splitOn h
    · rename_i hx
      obtain ⟨p, ps, hps⟩ := List.exists_cons_of_ne_nil (List.splitOn_ne_nil '/' xs)
      rw [hps, List.modifyHead_cons] at h
      rcases List.mem_cons.mp h with rfl | h
      · have hp : '/' ∉ p := slash_not_mem_of_mem_splitOn (hps ▸ List.mem_cons_self)
        simp only [beq_iff_eq] at hx
        simp [hp, Ne.symm hx]
      · exact slash_not_mem_of_mem_splitOn (hps ▸ List.mem_cons_of_mem _ h)

theorem mem_componentChars {cs c : List Char} (h : c ∈ componentChars cs) :
    c ≠ [] ∧ '/' ∉ c := by
  obtain ⟨hc, hne⟩ := List.mem_filter.mp h
  exact ⟨by simpa using hne, slash_not_mem_of_mem_splitOn hc⟩

/-- **Folding `..` into a rooted path leaves settled components**: `.` is dropped, `..` either
cancels the component before it or, at the root, goes. -/
theorem cancelUp_settled (l acc : List (List Char)) :
    (∀ c ∈ l, c ≠ [] ∧ '/' ∉ c) → (∀ c ∈ acc, Settled c) →
      ∀ c ∈ cancelUp true l acc, Settled c := by
  fun_induction cancelUp true l acc with
  | case1 acc => intro _ hacc; simpa using hacc
  | case2 rest acc ih =>
    intro hl hacc
    exact ih (fun c' h => hl c' (List.mem_cons_of_mem _ h)) hacc
  | case3 rest _ _ ih =>
    intro hl _
    exact ih (fun c' h => hl c' (List.mem_cons_of_mem _ h)) (by simp)
  | case4 _ hrooted _ _ => exact absurd rfl hrooted
  | case5 rest up _ _ =>
    -- a settled component is never `..`, so there is none to keep
    intro _ hacc
    exact absurd rfl (hacc _ List.mem_cons_self).2.2.2
  | case6 rest d up _ _ ih =>
    intro hl hacc
    exact ih (fun c' h => hl c' (List.mem_cons_of_mem _ h))
      (fun c' h => hacc c' (List.mem_cons_of_mem _ h))
  | case7 c rest acc hdot hup ih =>
    intro hl hacc
    have hc := hl c List.mem_cons_self
    refine ih (fun c' h => hl c' (List.mem_cons_of_mem _ h)) fun c' h => ?_
    rcases List.mem_cons.mp h with rfl | h
    · exact ⟨hc.1, hc.2, hdot, hup⟩
    · exact hacc c' h

/-- **Settled components fold to themselves.** -/
theorem cancelUp_of_settled (rooted : Bool) :
    ∀ {l : List (List Char)} (acc : List (List Char)), (∀ c ∈ l, Settled c) →
      cancelUp rooted l acc = acc.reverse ++ l
  | [], acc, _ => by simp [cancelUp]
  | c :: rest, acc, h => by
    have hc := h c List.mem_cons_self
    rw [cancelUp.eq_def]
    dsimp only
    rw [if_neg hc.2.2.1, if_neg hc.2.2.2,
      cancelUp_of_settled rooted (c :: acc) fun c' h' => h c' (List.mem_cons_of_mem _ h')]
    simp

theorem componentChars_slash (cs : List Char) : componentChars ('/' :: cs) = componentChars cs := by
  simp [componentChars, List.splitOn_cons_eq_if_modifyHead]

theorem componentChars_replicate_append (k : Nat) (cs : List Char) :
    componentChars (List.replicate k '/' ++ cs) = componentChars cs := by
  induction k with
  | zero => rfl
  | succ k ih => rw [List.replicate_succ, List.cons_append, componentChars_slash, ih]

/-- Components joined by slashes are cut back into themselves. -/
theorem componentChars_intercalate {comps : List (List Char)} (h : ∀ c ∈ comps, c ≠ [] ∧ '/' ∉ c) :
    componentChars (['/'].intercalate comps) = comps := by
  rcases comps with _ | ⟨c, cs⟩
  · rfl
  · rw [componentChars, List.splitOn_intercalate '/' (fun c hc => (h c hc).2) (List.cons_ne_nil c cs)]
    exact List.filter_eq_self.mpr fun c hc => by simpa using (h c hc).1

/-- Components joined by slashes never start with one. -/
theorem intercalate_ne_slash_cons {comps : List (List Char)} (h : ∀ c ∈ comps, c ≠ [] ∧ '/' ∉ c)
    (rest : List Char) : ['/'].intercalate comps ≠ '/' :: rest := by
  intro hjoin
  rcases comps with _ | ⟨c, cs⟩
  · simp at hjoin
  · have hcut := List.splitOn_intercalate '/' (fun c hc => (h c hc).2) (List.cons_ne_nil c cs)
    rw [hjoin, List.splitOn_cons_eq_if_modifyHead, if_pos (beq_self_eq_true _),
      List.cons.injEq] at hcut
    exact (h c List.mem_cons_self).1 hcut.1.symm

theorem leadingSlashes_pos {cs : List Char} (h : cs.head? = some '/') : 0 < leadingSlashes cs := by
  obtain ⟨rest, rfl⟩ : ∃ rest, cs = '/' :: rest := by
    rcases cs with _ | ⟨c, rest⟩ <;> simp_all
  unfold leadingSlashes
  split <;> simp_all

theorem leadingSlashes_le_two (cs : List Char) : leadingSlashes cs ≤ 2 := by
  unfold leadingSlashes
  split <;> simp

/-- One or two leading slashes before a text that starts with none are read as such. -/
theorem leadingSlashes_replicate_append {k : Nat} (hpos : 0 < k) (hle : k ≤ 2) {cs : List Char}
    (hcs : ∀ rest, cs ≠ '/' :: rest) : leadingSlashes (List.replicate k '/' ++ cs) = k := by
  have hhead : ∀ c rest, cs = c :: rest → c ≠ '/' := by
    rintro c rest rfl rfl
    exact hcs rest rfl
  obtain rfl | rfl : k = 1 ∨ k = 2 := by omega
  all_goals
    rcases cs with _ | ⟨c, rest⟩
    · rfl
    · have hc := hhead c rest rfl
      simp [leadingSlashes, hc]

/-- The normal form of a rooted path: its leading slashes, then its settled components. -/
theorem normalize_of_rooted {s : String} (h : 0 < leadingSlashes s.toList) :
    normalize s = assemble (leadingSlashes s.toList) (cancelUp true (componentChars s.toList) []) := by
  have hne : (assemble (leadingSlashes s.toList)
      (cancelUp true (componentChars s.toList) [])).isEmpty = false := by
    obtain ⟨k, hk⟩ := Nat.exists_eq_add_of_lt h
    simp [assemble, hk, List.replicate_succ]
  simp only [normalize, gt_iff_lt, h, decide_true, hne, Bool.false_eq_true, if_false]

theorem toList_normalize_of_rooted {s : String} (h : 0 < leadingSlashes s.toList) :
    (normalize s).toList = List.replicate (leadingSlashes s.toList) '/' ++
      ['/'].intercalate (cancelUp true (componentChars s.toList) []) := by
  rw [normalize_of_rooted h, assemble, String.toList_ofList]

/-- **The normal form of a rooted path is its own normal form.** -/
theorem normalize_normalize {s : String} (h : 0 < leadingSlashes s.toList) :
    normalize (normalize s) = normalize s := by
  -- the normal form is its leading slashes and its settled components; reading it again gives
  -- both back
  have hcomps : ∀ c ∈ cancelUp true (componentChars s.toList) [], Settled c :=
    cancelUp_settled _ _ (fun c hc => mem_componentChars hc) (by simp)
  have hparts : ∀ c ∈ cancelUp true (componentChars s.toList) [], c ≠ [] ∧ '/' ∉ c :=
    fun c hc => ⟨(hcomps c hc).1, (hcomps c hc).2.1⟩
  have hslashes : leadingSlashes (normalize s).toList = leadingSlashes s.toList := by
    rw [toList_normalize_of_rooted h]
    exact leadingSlashes_replicate_append h (leadingSlashes_le_two _)
      (intercalate_ne_slash_cons hparts)
  have hcut : cancelUp true (componentChars (normalize s).toList) [] =
      cancelUp true (componentChars s.toList) [] := by
    rw [toList_normalize_of_rooted h, componentChars_replicate_append,
      componentChars_intercalate hparts, cancelUp_of_settled true [] hcomps]
    simp
  have hrooted : 0 < leadingSlashes (normalize s).toList := by
    rw [hslashes]
    exact h
  rw [normalize_of_rooted hrooted, hslashes, hcut, ← normalize_of_rooted h]

theorem head_of_isAbsolute {s : String} (h : isAbsolute s = true) : s.toList.head? = some '/' := by
  simpa [isAbsolute] using h

/-- The text that `absolute` normalizes starts at the root. -/
theorem head_absolute_arg (s : String) :
    (if isAbsolute s then s else join workDir s).toList.head? = some '/' := by
  split
  · exact head_of_isAbsolute (by assumption)
  · unfold join
    split_ifs <;> simp_all [workDir]

theorem isAbsolute_normalize {s : String} (h : 0 < leadingSlashes s.toList) :
    isAbsolute (normalize s) = true := by
  obtain ⟨k, hk⟩ := Nat.exists_eq_add_of_lt h
  simp [isAbsolute, toList_normalize_of_rooted h, hk, List.replicate_succ]

theorem isAbsolute_absolute (s : String) : isAbsolute (absolute s) = true :=
  isAbsolute_normalize (leadingSlashes_pos (head_absolute_arg s))

/-- **The absolute form of a path is its own absolute form.** -/
theorem absolute_absolute (s : String) : absolute (absolute s) = absolute s := by
  have hrooted := leadingSlashes_pos (head_absolute_arg s)
  rw [absolute.eq_def (absolute s), if_pos (isAbsolute_absolute s), absolute,
    normalize_normalize hrooted]

end Path

namespace Environment

/-! ## Expansion of texts that hold nothing to expand -/

/-- An absolute path has no leading `~`. -/
theorem expandUser_of_isAbsolute (env : Environment) {s : String} (h : Path.isAbsolute s = true) :
    env.expandUser s = .ok s := by
  obtain ⟨rest, hrest⟩ : ∃ rest, s.toList = '/' :: rest := by
    have := Path.head_of_isAbsolute h
    rcases hs : s.toList with _ | ⟨c, rest⟩ <;> simp_all
  unfold expandUser
  rw [hrest]
  rfl

/-- A text without `$` names no variable: the expansion copies it. -/
theorem expandVarsAux_of_no_dollar (env : Environment) (fuel : Nat) (cs acc : List Char) :
    '$' ∉ cs → env.expandVarsAux fuel cs acc = .ok (acc.reverse ++ cs) := by
  fun_induction expandVarsAux env fuel cs acc <;> intro h <;> simp_all

theorem expandVars_of_no_dollar (env : Environment) {s : String} (h : '$' ∉ s.toList) :
    env.expandVars s = .ok s := by
  simp [expandVars, expandVarsAux_of_no_dollar env _ _ [] h, Except.map]

end Environment

namespace Classpath

/-! ## Normalizing a root again -/

theorem exists_absolute_of_normalize {env : Environment} {s r : String}
    (h : normalize env s = .ok r) : ∃ y, r = Path.absolute y := by
  unfold normalize at h
  simp only [bind_eq_ok, pure, Except.pure, Except.ok.injEq] at h
  obtain ⟨_, -, y, -, rfl⟩ := h
  exact ⟨y, rfl⟩

/-- **A root without `$` normalizes to itself.** -/
theorem normalize_root {env : Environment} {s r : String} (h : normalize env s = .ok r)
    (hr : '$' ∉ r.toList) : normalize env r = .ok r := by
  -- rewriting, not substituting: substitution would try to unfold `Path.absolute y`
  obtain ⟨y, hy⟩ := exists_absolute_of_normalize h
  rw [hy] at hr ⊢
  unfold normalize
  rw [env.expandUser_of_isAbsolute (Path.isAbsolute_absolute y)]
  simp only [bind, Except.bind, env.expandVars_of_no_dollar hr, Path.absolute_absolute]
  rfl

/-- The root an entry gives is its normal form. -/
theorem normalize_of_entry {env : Environment} {s r : String} (h : entry env (.str s) = .ok r) :
    normalize env s = .ok r := by
  simp only [entry] at h
  split_ifs at h
  cases hn : normalize env s with
  | error f => simp [hn, Except.mapError, bind, Except.bind] at h
  | ok root =>
    simp only [hn, Except.mapError, bind, Except.bind] at h
    -- a root without a file address was refused
    split_ifs at h
    exact congrArg Except.ok (Except.ok.inj h)

/-- **The roots built from entries that are roots without `$` are those entries.** -/
theorem mapM_entry_roots {env : Environment} :
    ∀ {rs : List String}, (∀ r ∈ rs, (∃ s, normalize env s = .ok r) ∧ '$' ∉ r.toList) →
      ∀ {roots : List String}, (rs.map Value.str).mapM (entry env) = .ok roots → roots = rs
  | [], _, roots, h => by
    simp only [List.map_nil, List.mapM_nil, pure, Except.pure, Except.ok.injEq] at h
    exact h.symm
  | r :: rs, hrs, roots, h => by
    rw [List.map_cons, List.mapM_cons] at h
    simp only [bind_eq_ok, pure, Except.pure, Except.ok.injEq] at h
    obtain ⟨root, hroot, roots', hroots', rfl⟩ := h
    obtain ⟨⟨s, hs⟩, hdollar⟩ := hrs r List.mem_cons_self
    have hr := normalize_of_entry hroot
    rw [normalize_root hs hdollar, Except.ok.injEq] at hr
    rw [hr, mapM_entry_roots (fun r' h' => hrs r' (List.mem_cons_of_mem _ h')) hroots']

end Classpath

namespace Config

/-! ## The paths of a resolved configuration -/

/-- **The paths of a configuration are roots**: its classes directory and each of its classpath
entries is the normal form of some text. -/
def RootPaths (env : Environment) (config : RunConfig) : Prop :=
  (∃ s, Classpath.normalize env s = .ok config.classesDirectory) ∧
    ∃ rs : List String, config.classpathEntries = rs.map Value.str ∧
      ∀ r ∈ rs, ∃ s, Classpath.normalize env s = .ok r

theorem classesDirectory_root {env : Environment} {raw : Value} {key dir : String}
    (h : classesDirectory env raw key = .ok dir) : ∃ s, Classpath.normalize env s = .ok dir := by
  unfold classesDirectory at h
  split at h
  · split_ifs at h
    rename_i s _ _
    cases hn : Classpath.normalize env s with
    | error f => simp [hn, Except.mapError] at h
    | ok root =>
      simp only [hn, Except.mapError, Except.ok.injEq] at h
      exact ⟨s, h ▸ hn⟩
  · cases h

theorem assemble_rootPaths {env : Environment} {dir : String} {pats : Patterns} {sources : Sources}
    {policy : Policy} {config : RunConfig} (hdir : ∃ s, Classpath.normalize env s = .ok dir)
    (h : assemble env dir pats sources policy = .ok config) : RootPaths env config := by
  unfold assemble at h
  simp only [bind_eq_ok, pure, Except.pure, Except.ok.injEq] at h
  obtain ⟨roots, hroots, rfl⟩ := h
  refine ⟨hdir, roots, rfl, fun r hr => ?_⟩
  obtain ⟨e, -, he⟩ := exists_of_mem_mapM hroots r hr
  exact ⟨e, Classpath.normalize_of_entry he⟩

/-- **A command-line configuration has root paths.** -/
theorem resolveCommandLine_rootPaths {env : Environment} {raw : Value} {config : RunConfig}
    (h : resolveCommandLine env raw = .ok config) : RootPaths env config := by
  unfold resolveCommandLine at h
  simp only [bind_eq_ok] at h
  obtain ⟨dir, hdir, h⟩ := h
  -- every later step only chooses another argument of `assemble`
  repeat' obtain ⟨_, _, h⟩ := h
  exact assemble_rootPaths (classesDirectory_root hdir) h

/-- **A build-task configuration has root paths.** -/
theorem resolveTask_rootPaths {env : Environment} {raw : Value} {config : RunConfig}
    (h : resolveTask env raw = .ok config) : RootPaths env config := by
  unfold resolveTask at h
  simp only [bind_eq_ok] at h
  obtain ⟨dir, hdir, h⟩ := h
  repeat' obtain ⟨_, _, h⟩ := h
  -- inline signatures, when given, are one more step before the others
  split at h <;> simp only [bind_eq_ok] at h <;> repeat' obtain ⟨_, _, h⟩ := h
  all_goals exact assemble_rootPaths (classesDirectory_root hdir) h

end Config

/-! ## The roots of a run -/

/-- **The class-loading roots of a resolved configuration.**  When no path of the configuration
holds a `$`, the roots a run builds from it are its classpath entries, in order and with
repetitions kept, then its classes directory, the directory whose class files the run reads. -/
theorem build_resolved_roots {env : Environment} {raw : Value} {config : RunConfig}
    (hres : Config.resolveCommandLine env raw = .ok config ∨ Config.resolveTask env raw = .ok config)
    (hplain : ∀ p ∈ config.classesDirectory :: config.classpathEntries.filterMap Value.asStr?,
      '$' ∉ p.toList)
    {roots : List String}
    (hbuild : Classpath.build env config.classpathEntries (.str config.classesDirectory) = .ok roots) :
    roots = config.classpathEntries.filterMap Value.asStr? ++ [config.classesDirectory] := by
  obtain ⟨⟨s, hdir⟩, rs, hentries, hrs⟩ : Config.RootPaths env config :=
    hres.elim Config.resolveCommandLine_rootPaths Config.resolveTask_rootPaths
  have htexts : config.classpathEntries.filterMap Value.asStr? = rs := by
    rw [hentries, List.filterMap_map]
    exact List.filterMap_some
  rw [htexts] at hplain ⊢
  unfold Classpath.build at hbuild
  simp only [bind_eq_ok, pure, Except.pure, Except.ok.injEq] at hbuild
  obtain ⟨roots', hroots', d, hd, rfl⟩ := hbuild
  rw [hentries] at hroots'
  have hdollar := hplain config.classesDirectory List.mem_cons_self
  have hd' := Classpath.normalize_of_entry hd
  rw [Classpath.normalize_root hdir hdollar, Except.ok.injEq] at hd'
  rw [Classpath.mapM_entry_roots (fun r hr => ⟨hrs r hr, hplain r (List.mem_cons_of_mem _ hr)⟩)
    hroots', hd']

/-- Two equal classpath entries stay two roots, and the classes directory comes last. -/
theorem resolved_roots_keep_repeats :
    ∃ config, Config.resolveCommandLine Environment.base
        (.obj [("dir", .str "c"), ("internal_runtime_forbidden", .bool true),
          ("classpath", .list [.str "lib/a.jar", .str "lib/a.jar"])]) = .ok config ∧
      Classpath.build Environment.base config.classpathEntries (.str config.classesDirectory) =
        .ok ["/work/lib/a.jar", "/work/lib/a.jar", "/work/c"] ∧
      ["/work/lib/a.jar", "/work/lib/a.jar", "/work/c"] =
        config.classpathEntries.filterMap Value.asStr? ++ [config.classesDirectory] := by
  have hres : Config.resolveCommandLine Environment.base
      (.obj [("dir", .str "c"), ("internal_runtime_forbidden", .bool true),
        ("classpath", .list [.str "lib/a.jar", .str "lib/a.jar"])]) = .ok _ := rfl
  exact ⟨_, hres, rfl, build_resolved_roots (.inl hres) (by decide) rfl⟩

/-- **A variable's value is expanded twice.**  Resolving `$A`, where `A` holds `$HOME`, gives the
classes directory `/work/$HOME`; building the roots reads `$HOME` as a variable again, so the
last root is not the classes directory. -/
theorem dollarValue_expanded_twice :
    ∃ config, Config.resolveCommandLine (Environment.base.extend [("A", "$HOME")])
        (.obj [("dir", .str "$A"), ("internal_runtime_forbidden", .bool true)]) = .ok config ∧
      config.classesDirectory = "/work/$HOME" ∧ config.classpathEntries = [] ∧
      Classpath.build (Environment.base.extend [("A", "$HOME")]) config.classpathEntries
        (.str config.classesDirectory) = .ok ["/work/work/home"] :=
  ⟨_, rfl, rfl, rfl, rfl⟩

end ApiAudit
