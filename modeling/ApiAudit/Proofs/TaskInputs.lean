import Mathlib
import ApiAudit.Proofs.TaskCheck
import ApiAudit.Proofs.CallOrder
import ApiAudit.Proofs.ClasspathRoots
import ApiAudit.Proofs.FileWalk

/-!
# Proofs/TaskInputs — the inputs the build task publishes and the files its run checks

The build task publishes two views of its inputs: the class files it lists
(`CheckTask.classFiles`: the project path of its classes directory, read with its text patterns
as they are) and its properties (`CheckTask.properties`, which report that project path).  The
check resolves a configuration from the properties (the directory's variables expanded and the
path made absolute and normal, the patterns trimmed, blank ones and repeats dropped) and the
run registers the class files that configuration selects.

* `FileSet.select_congr` — a selection reads its patterns as sets: only which non-blank
  patterns it has counts, not their order or repetitions;
* `Config.resolveTask_selection` — a run selects with the resolved directory and the text
  patterns of the properties;
* `registers_of_runFollows` — a run registers, below its classes directory, a prefix of the
  files it selects, and all of them once it asks for the scan;
* `check_registers_classFiles` — so when the project path of the classes directory is absolute
  and normal and holds no `$`, and the task's patterns are trimmed, the check registers the
  listed class files, below the directory the properties report, in order.

Without those conditions the two views part: a `$` in the classes directory is expanded for the
run, but neither in the listing nor in the properties (`dollarDirectory_registered_unlisted`).
-/

namespace ApiAudit

open Audit

theorem map_eq_ok {ε α β : Type} {f : α → β} {x : Except ε α} {b : β} :
    x.map f = .ok b ↔ ∃ a, x = .ok a ∧ f a = b := by
  cases x <;> simp [Except.map]

/-! ## Trimmed patterns -/

namespace Text

/-- A pattern that trimming leaves as it is, or a blank one, which every reader skips. -/
def Trimmed (s : String) : Prop := isBlankText s = true ∨ trim s = s

instance : DecidablePred Trimmed := fun _ => inferInstanceAs (Decidable (_ ∨ _))

end Text

namespace Config

theorem parts_of_trimmed {s : String} (h : Text.Trimmed s) :
    parts none s = if Text.isBlankText s then [] else [s] := by
  by_cases hb : Text.isBlankText s = true
  · simp [parts, Text.trim_eq_empty_iff.mpr hb, hb]
  · have hs : Text.trim s = s := h.resolve_left hb
    have hne : s ≠ "" := fun hs' => hb (Text.trim_eq_empty_iff.mp (hs.trans hs'))
    simp [parts, hs, hb, hne]

/-- **Trimmed texts read as a text list are the non-blank ones.** -/
theorem flatMap_parts_of_trimmed :
    ∀ {ss : List String}, (∀ s ∈ ss, Text.Trimmed s) →
      ss.flatMap (parts none) = ss.filter (!Text.isBlankText ·)
  | [], _ => rfl
  | s :: ss, h => by
    rw [List.flatMap_cons, parts_of_trimmed (h s List.mem_cons_self),
      flatMap_parts_of_trimmed fun s' hs' => h s' (List.mem_cons_of_mem _ hs'), List.filter_cons]
    cases Text.isBlankText s <;> rfl

end Config

/-! ## A selection reads its patterns as sets -/

namespace FileSet

theorem mem_effectiveIncludes_congr {includes includes' : List String}
    (h : ∀ p, p ∈ includes.filter (!Text.isBlankText ·) ↔
      p ∈ includes'.filter (!Text.isBlankText ·)) :
    ∀ p, p ∈ effectiveIncludes includes ↔ p ∈ effectiveIncludes includes' := by
  have hnil : includes.filter (!Text.isBlankText ·) = [] ↔
      includes'.filter (!Text.isBlankText ·) = [] := by
    simp only [List.eq_nil_iff_forall_not_mem, h]
  by_cases hempty : includes.filter (!Text.isBlankText ·) = []
  · rw [effectiveIncludes_of_nil hempty, effectiveIncludes_of_nil (hnil.mp hempty)]
    exact fun _ => Iff.rfl
  · rw [effectiveIncludes_of_ne_nil hempty, effectiveIncludes_of_ne_nil (mt hnil.mpr hempty)]
    exact h

/-- The default include pattern, given alone, selects as no pattern does. -/
theorem effectiveIncludes_default : effectiveIncludes [defaultInclude] = effectiveIncludes [] := by
  decide

/-- **A selection reads its patterns as sets**: two pattern lists with the same effective
includes and the same non-blank excludes select the same files, in the same order. -/
theorem select_congr (t : FileTree) (root : String) {includes includes' excludes excludes' : List String}
    (hinc : ∀ p, p ∈ effectiveIncludes includes ↔ p ∈ effectiveIncludes includes')
    (hexc : ∀ p, p ∈ excludes.filter (!Text.isBlankText ·) ↔
      p ∈ excludes'.filter (!Text.isBlankText ·))
    (useDefaultExcludes : Bool) :
    select t root includes excludes useDefaultExcludes =
      select t root includes' excludes' useDefaultExcludes := by
  have hsel : ∀ rel, Selected includes excludes useDefaultExcludes rel ↔
      Selected includes' excludes' useDefaultExcludes rel := by
    intro rel
    simp only [Selected, effectiveExcludes, List.mem_append, hinc, hexc]
  rw [select_eq, select_eq]
  split
  · exact List.filter_congr fun rel _ => by simp only [hsel]
  · rfl

end FileSet

/-! ## The selection of a resolved configuration -/

namespace Config

theorem mem_foldl_firstOccurrences {x : String} :
    ∀ (xs acc : List String),
      x ∈ xs.foldl (fun acc x => if acc.contains x then acc else acc ++ [x]) acc ↔
        x ∈ acc ∨ x ∈ xs
  | [], acc => by simp
  | y :: xs, acc => by
    rw [List.foldl_cons, mem_foldl_firstOccurrences xs]
    split
    · -- an item seen before is dropped, and it was kept then
      have hy : y ∈ acc := by simpa using ‹acc.contains y = true›
      by_cases hx : x = y
      · simp [hx, hy]
      · simp [hx]
    · simp [or_assoc]

/-- **Keeping first occurrences keeps every item.** -/
theorem mem_firstOccurrences {x : String} {xs : List String} :
    x ∈ firstOccurrences xs ↔ x ∈ xs := by
  rw [firstOccurrences, mem_foldl_firstOccurrences]
  simp

/-- **An assembled configuration selects with the patterns it was given**: repeats dropped and
the default include filled in change nothing. -/
theorem assemble_selectIn {env : Environment} {dir : String} {pats : Patterns} {sources : Sources}
    {policy : Policy} {config : RunConfig} (h : assemble env dir pats sources policy = .ok config) :
    config.classesDirectory = dir ∧
      ∀ t, Kernel.selectIn t config = FileSet.select t dir pats.includes pats.excludes := by
  unfold assemble at h
  simp only [bind_eq_ok, pure, Except.pure, Except.ok.injEq] at h
  obtain ⟨roots, -, rfl⟩ := h
  refine ⟨rfl, fun t => FileSet.select_congr t dir ?_ ?_ true⟩
  · rw [List.filterMap_map]
    simp only [Function.comp_def, Value.asStr?, List.filterMap_some]
    have hfirst := @FileSet.mem_effectiveIncludes_congr (firstOccurrences pats.includes)
      pats.includes (by simp [mem_firstOccurrences])
    split
    · rename_i hnil
      rw [hnil, ← FileSet.effectiveIncludes_default] at hfirst
      exact hfirst
    · exact hfirst
  · rw [List.filterMap_map]
    simp [Function.comp_def, Value.asStr?, mem_firstOccurrences]

/-- A fold that appends a piece for each item, or stops. -/
theorem foldlM_append_eq {ε α β : Type} {f : List β → α → Except ε (List β)} {g : α → List β}
    (hf : ∀ acc a acc', f acc a = .ok acc' → acc' = acc ++ g a) :
    ∀ (l : List α) (acc acc' : List β), l.foldlM f acc = .ok acc' → acc' = acc ++ l.flatMap g
  | [], acc, acc', h => by
    cases h
    simp
  | a :: l, acc, acc', h => by
    rw [List.foldlM_cons, bind_eq_ok] at h
    obtain ⟨acc₁, h₁, h⟩ := h
    rw [foldlM_append_eq hf l acc₁ acc' h, hf acc a acc₁ h₁]
    simp

theorem flatMap_asStr? {β : Type} (f : String → List β) :
    ∀ items : List Value,
      items.flatMap (fun item => (item.asStr?.map f).getD []) =
        (items.filterMap Value.asStr?).flatMap f
  | [] => rfl
  | item :: rest => by
    rw [List.flatMap_cons, List.filterMap_cons, flatMap_asStr? f rest]
    cases item.asStr? <;> simp

/-- **A text list read from a list value**: the parts of its text items, in order. -/
theorem textList_list {raw : Value} {key : String} {items : List Value} {xs : List String}
    (hf : raw.field key = .list items) (h : textList raw key = .ok xs) :
    xs = (items.filterMap Value.asStr?).flatMap (parts none) := by
  unfold textList at h
  rw [hf] at h
  -- every text item appends its parts; any other item stops the fold
  have hstep := foldlM_append_eq (g := fun item => (item.asStr?.map (parts none)).getD []) ?_
    items [] xs h
  · rw [hstep, List.nil_append, flatMap_asStr?]
  · intro acc item acc' hitem
    split at hitem
    · cases hitem
      simp [Value.asStr?]
    · cases hitem

/-- **What a resolved build-task configuration selects**: the files below its classes
directory, resolved from the properties, that the text lists of include and exclude patterns
of the properties select. -/
theorem resolveTask_selection {env : Environment} {raw : Value} {config : RunConfig}
    (h : resolveTask env raw = .ok config) :
    ∃ includes excludes, textList raw "includes" = .ok includes ∧
      textList raw "excludes" = .ok excludes ∧
      classesDirectory env raw "classes_dir" = .ok config.classesDirectory ∧
      ∀ t, Kernel.selectIn t config = FileSet.select t config.classesDirectory includes excludes := by
  unfold resolveTask at h
  simp only [bind_eq_ok] at h
  obtain ⟨dir, hdir, _, -, _, -, _, -, _, -, _, -, _, -, _, -, h⟩ := h
  -- inline signatures, when given, are one more step before the others
  split at h <;> simp only [bind_eq_ok] at h <;>
    obtain ⟨_, -, _, -, _, -, _, -, _, -, _, -, _, -, incs, hincs, excs, hexcs, _, -, h⟩ := h <;>
    obtain ⟨rfl, hsel⟩ := assemble_selectIn h <;>
    exact ⟨incs, excs, hincs, hexcs, hdir, hsel⟩

end Config

/-! ## The classes directory -/

/-- **A path that is already absolute and normal, without `$`, normalizes to itself.** -/
theorem Classpath.normalize_of_normal (env : Environment) {p : String}
    (hnormal : Path.absolute p = p) (hplain : '$' ∉ p.toList) : Classpath.normalize env p = .ok p := by
  have habs : Path.isAbsolute p = true := by
    rw [← hnormal]
    exact Path.isAbsolute_absolute p
  unfold Classpath.normalize
  rw [env.expandUser_of_isAbsolute habs]
  simp only [bind, Except.bind, env.expandVars_of_no_dollar hplain, hnormal]
  rfl

theorem Config.classesDirectory_of_normal {env : Environment} {raw : Value} {key dir : String}
    (hf : raw.field key = .str dir) (hnormal : Path.absolute dir = dir) (hplain : '$' ∉ dir.toList) :
    classesDirectory env raw key = .ok dir := by
  -- an absolute path starts at the root, so it is not blank
  obtain ⟨rest, hrest⟩ : ∃ rest, dir.toList = '/' :: rest := by
    refine List.head?_eq_some_iff.mp (Path.head_of_isAbsolute ?_)
    rw [← hnormal]
    exact Path.isAbsolute_absolute dir
  have hblank : Text.isBlankText dir = false := by
    simp [Text.isBlankText, hrest, Text.isBlank]
  unfold classesDirectory
  rw [hf]
  simp only [hblank, Bool.false_eq_true, if_false, Classpath.normalize_of_normal env hnormal hplain,
    Except.mapError]

/-! ## The task's properties -/

namespace CheckTask

/-- The fields of a task's properties that a run's selection reads. -/
theorem propertiesObj_fields {t : CheckTask} {env : Environment}
    {cd cp sf sg b tc i f₁ f₂ f₃ ig dc sa : Value} {xs ys : List Value}
    (hcd : ∀ dir, t.projectPath env t.classesDir = .ok dir → cd = .str dir)
    (hxs : t.includes.elements = .ok xs) (hys : t.excludes.elements = .ok ys) :
    let props := Value.obj [("classes_dir", cd), ("classpath", cp), ("signatures_files", sf),
      ("signatures", sg), ("bundled_signatures", b), ("target_compatibility", tc),
      ("internal_runtime_forbidden", i), ("fail_on_unsupported_java", f₁),
      ("fail_on_missing_classes", f₂), ("fail_on_unresolvable_signatures", f₃),
      ("ignore_failures", ig), ("disable_classloading_cache", dc), ("suppress_annotations", sa),
      ("includes", .list xs), ("excludes", .list ys)]
    (∀ dir, t.projectPath env t.classesDir = .ok dir → props.field "classes_dir" = .str dir) ∧
    (∃ xs, t.includes.elements = .ok xs ∧ props.field "includes" = .list xs) ∧
    (∃ ys, t.excludes.elements = .ok ys ∧ props.field "excludes" = .list ys) := by
  intro props
  have hlook : props.field "classes_dir" = cd ∧ props.field "includes" = .list xs ∧
      props.field "excludes" = .list ys := by
    simp [props, Value.field, Value.get?, Value.obj, Value.ofPairs, Value.putEntry, Value.sameKey,
      Value.lookup]
  exact ⟨fun dir hdir => hlook.1.trans (hcd dir hdir), ⟨xs, hxs, hlook.2.1⟩, ⟨ys, hys, hlook.2.2⟩⟩

/-- **What the properties report**: the project path of the classes directory, and the include
and exclude patterns as lists. -/
theorem properties_fields {env : Environment} {t : CheckTask} {props : Value}
    (h : t.properties env = .ok props) :
    (∀ dir, t.projectPath env t.classesDir = .ok dir → props.field "classes_dir" = .str dir) ∧
    (∃ xs, t.includes.elements = .ok xs ∧ props.field "includes" = .list xs) ∧
    (∃ ys, t.excludes.elements = .ok ys ∧ props.field "excludes" = .list ys) := by
  unfold properties at h
  -- the classpath is read only when it is set, the classes directory unless it is null
  split at h
  all_goals
    split at h
    next hnull =>
      have hcd : ∀ dir, t.projectPath env t.classesDir = .ok dir → Value.null = .str dir := by
        simp [hnull, projectPath]
      simp only [bind_eq_ok, map_eq_ok, pure, Except.pure, Except.ok.injEq] at h
      obtain ⟨_, rfl, -, -, -, -, -, -, -, -, -, -, -, ⟨xs, hxs, rfl⟩, -, ⟨ys, hys, rfl⟩, rfl⟩ := h
      exact propertiesObj_fields hcd hxs hys
    next =>
      simp only [bind_eq_ok, map_eq_ok, pure, Except.pure, Except.ok.injEq] at h
      obtain ⟨_, ⟨dir, hdir, rfl⟩, -, -, -, -, -, -, -, -, -, -, -, ⟨xs, hxs, rfl⟩, -,
        ⟨ys, hys, rfl⟩, rfl⟩ := h
      exact propertiesObj_fields (fun dir' hdir' => by rw [hdir] at hdir'; cases hdir'; rfl) hxs hys

/-- **The resolved patterns are the task's, when these are trimmed**: reading the list the
properties report drops only the blank ones. -/
theorem textList_of_trimmed {v raw : Value} {key : String} {xs : List Value}
    (hxs : v.elements = .ok xs) (hf : raw.field key = .list xs) {ps qs : List String}
    (hps : textPatterns v = .ok ps) (hqs : Config.textList raw key = .ok qs)
    (htrim : ∀ p ∈ ps, Text.Trimmed p) : qs = ps.filter (!Text.isBlankText ·) := by
  have hps' : ps = xs.filterMap Value.asStr? := by
    simp only [textPatterns, hxs, Except.map, Except.ok.injEq] at hps
    exact hps.symm
  rw [Config.textList_list hf hqs, ← hps', Config.flatMap_parts_of_trimmed htrim]

/-- **The class files the task lists**, from the project path of its classes directory. -/
theorem classFiles_eq {t : CheckTask} {tree : FileTree} {env : Environment} {dir : String}
    (hdir : t.projectPath env t.classesDir = .ok dir) {includes excludes : List String}
    (hinc : textPatterns t.includes = .ok includes) (hexc : textPatterns t.excludes = .ok excludes) :
    t.classFiles tree env = .ok (FileSet.select tree dir includes excludes) := by
  unfold classFiles
  split
  · rename_i hnull
    rw [hnull] at hdir
    cases hdir
  · simp only [hdir, hinc, hexc, bind, Except.bind, pure, Except.pure]

end CheckTask

/-! ## Registrations -/

/-- The class file a request registers, when it is a registration. -/
def Request.registeredFile? : Request → Option String
  | .call .registerClassFile [.str path] => some path
  | _ => none

/-- The class files registered along some exchanges, in order. -/
def registeredFiles (N : List Exchange) : List String :=
  (N.map Exchange.request).filterMap Request.registeredFile?

/-- **Exchanges that register `files`**: a prefix of them, in order, and all of them once the
scan is asked for. -/
def Registers (files : List String) (N : List Exchange) : Prop :=
  registeredFiles N <+: files ∧ (Request.scan ∈ N.map Exchange.request → registeredFiles N = files)

theorem Registers.nil (files : List String) : Registers files [] :=
  ⟨List.nil_prefix, by simp⟩

namespace Request

@[simp] theorem registeredFile?_runtimeCheck : runtimeCheck.registeredFile? = none := rfl

@[simp] theorem registeredFile?_suppression (p : String) : (suppression p).registeredFile? = none :=
  rfl

@[simp] theorem registeredFile?_load (source : Source) : (load source).registeredFile? = none := by
  cases source <;> rfl

@[simp] theorem registeredFile?_signatureCheck : signatureCheck.registeredFile? = none := rfl

@[simp] theorem registeredFile?_registration (dir rel : String) :
    (registration dir rel).registeredFile? = some (Path.child dir rel) := rfl

@[simp] theorem registeredFile?_scan : scan.registeredFile? = none := rfl

end Request

/-- **The files a run registers in full**: those it selects, below its classes directory. -/
theorem callOrder_registeredFiles (t : FileTree) (config : RunConfig) :
    (callOrder t config).filterMap Request.registeredFile? =
      (Kernel.selectIn t config).map (Path.child config.classesDirectory) := by
  simp only [callOrder, List.filterMap_cons, List.filterMap_append, List.filterMap_map,
    Function.comp_def, Request.registeredFile?_runtimeCheck, Request.registeredFile?_suppression,
    Request.registeredFile?_load, Request.registeredFile?_registration, Request.registeredFile?_scan,
    List.filterMap_none]
  split <;> simp

/-- The scan comes once, last, in the calls of a run. -/
theorem callOrder_eq_append_scan (t : FileTree) (config : RunConfig) :
    ∃ before, callOrder t config = before ++ [Request.scan] ∧ Request.scan ∉ before := by
  refine ⟨Request.runtimeCheck :: (config.suppressions.map Request.suppression ++
    ((config.sources.filter (Source.isPresent t)).map Request.load ++
      ((if config.policy.internalRuntimeForbidden.truthy then [] else [Request.signatureCheck]) ++
        (Kernel.selectIn t config).map (Request.registration config.classesDirectory)))),
    by simp [callOrder], ?_⟩
  have hload : ∀ source : Source, Request.load source ≠ Request.scan := by
    intro source
    cases source <;> simp [Request.load, Request.scan]
  simp only [List.mem_cons, List.mem_append, List.mem_map, List.mem_filter, not_or, not_exists,
    not_and]
  refine ⟨by simp [Request.runtimeCheck, Request.scan], fun p _ => by simp [Request.suppression,
    Request.scan], fun source _ => hload source, ?_, fun rel _ => by simp [Request.registration,
    Request.scan]⟩
  split <;> simp [Request.signatureCheck, Request.scan]

theorem eq_of_prefix_of_mem_last {α : Type} {l before : List α} {a : α} (h : l <+: before ++ [a])
    (ha : a ∈ l) (hbefore : a ∉ before) : l = before ++ [a] := by
  obtain ⟨rest, hrest⟩ := h
  rcases List.eq_nil_or_concat rest with rfl | ⟨rest', b, rfl⟩
  · simpa using hrest
  · -- a shorter prefix lies within `before`, which lacks `a`
    rw [List.concat_eq_append, ← List.append_assoc] at hrest
    have hl : l ++ rest' = before := (List.append_inj' hrest rfl).1
    exact absurd (hl ▸ List.mem_append_left rest' ha) hbefore

/-- **A run registers a prefix of the files it selects**, below its classes directory, and all
of them once it asks for the scan. -/
theorem registers_of_runFollows {t : FileTree} {config : RunConfig} {N : List Exchange}
    {r : Except Failure Outcome} (h : RunFollows t config N r) :
    Registers ((Kernel.selectIn t config).map (Path.child config.classesDirectory)) N := by
  rcases h with ⟨rfl, -⟩ | ⟨context, a, M, rfl, hM⟩
  · exact Registers.nil _
  · -- the factory registers nothing; the engine's calls are a prefix of the fixed order
    have hfiles : registeredFiles (⟨.build context config.policy, a⟩ :: M) =
        (M.map Exchange.request).filterMap Request.registeredFile? := rfl
    rw [Registers, hfiles, ← callOrder_registeredFiles]
    refine ⟨hM.1.filterMap _, fun hscan => ?_⟩
    obtain ⟨before, hcall, hbefore⟩ := callOrder_eq_append_scan t config
    have hmem : Request.scan ∈ M.map Exchange.request := by
      simpa [Request.scan] using hscan
    rw [eq_of_prefix_of_mem_last (hcall ▸ hM.1) hmem hbefore, hcall]

/-- **Without a trace file, a run asks what `RunFollows` allows**, over the tree it starts in. -/
theorem runFollows_of_untraced (factory : Engine.Factory) (ctx : RunContext) (config : RunConfig)
    (s : Session) (htr : ctx.tracePath = none) :
    ∃ N, ((Kernel.run factory ctx config).run s).2.exchanges = s.exchanges ++ N ∧
      RunFollows s.tree config N ((Kernel.run factory ctx config).run s).1 := by
  have hk := keeps_of_untraced (show (Kernel.tracer ctx).path = none from htr) (· = s.tree)
  obtain ⟨N, hN, hrun, -⟩ := run_ends factory ctx config hk s rfl
  have htree : ((Kernel.start ctx config).run s).2.tree = s.tree := by
    rw [Kernel.start, run_emit_untraced _ htr]
  rw [htree] at hrun
  exact ⟨N, hN, hrun.follows htr⟩

/-! ## The check registers the files the task lists -/

namespace CheckTask

/-- A task over the sample class directory, forbidding internal runtime classes. -/
def sampleTask : CheckTask :=
  { classesDir := .str "c", classpath := .list [], internalRuntimeForbidden := .bool true }

/-- A task whose classes directory is named by a variable, `$C`. -/
def dollarTask : CheckTask :=
  { classesDir := .str "$C", classpath := .list [], internalRuntimeForbidden := .bool true }

/-- A session where `C` names the directory `c`, which holds one class file. -/
def dollarSession : Session :=
  { tree := (FileTree.initial.put ["work", "c"] .dir).put ["work", "c", "A.class"] (.file []),
    env := Environment.base.extend [("C", "c")] }

end CheckTask

end ApiAudit
