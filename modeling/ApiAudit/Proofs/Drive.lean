import ApiAudit.Proofs.Ends

/-!
# Proofs/Drive — every way a drive can end

A drive takes the engine through a run (`drive`).  Each of its parts gets a relation that lists
every way the part can end, with the exchanges it appended and what it answered, and a
soundness theorem in the form of an exchange triple (`Audit.Ends`):

* `Calling` — a loop of engine calls, one per item, the first failure ending it; the
  suppression patterns (`Suppressing`) and the class files (`Registering`) are two of them;
* `Loading` — the signature sources, a missing file found before its call;
* `Scanning`, `Finishing`, `Checking` — the scan, the registrations before it, the signature
  check before those;
* `Finding`, `Obtained` — the class files, found in a tree the run saw;
* `Preparing`, `Supported`, `Driving` — the drive as a whole, from the runtime check on.

The requests a run makes are named here (`Request.runtimeCheck`, ...).  A trace event that fails
ends a part with a fault (`stopped`), and only when there is a trace file.  Trees the run reads
are only known to be `seen`: for a run without a trace file, that is the tree it started with.
-/

namespace ApiAudit

open Audit

namespace Request

/-- The runtime check. -/
def runtimeCheck : Request := .call .isRuntimeSupported []

/-- The registration of a suppression pattern. -/
def suppression (p : String) : Request := .call .registerSuppression [.str p]

/-- The load of a signature source. -/
def load : Source → Request
  | .bundled name hint => .call .loadBundledSignatures [.str name, Value.optStr hint]
  | .inline text => .call .loadInlineSignatures [.str text]
  | .file path => .call .loadSignatureFile [.str path]

/-- The question whether any signature was loaded. -/
def signatureCheck : Request := .call .hasAnySignaturesLoaded []

/-- The registration of a class file below a directory. -/
def registration (dir rel : String) : Request := .call .registerClassFile [.str (Path.child dir rel)]

/-- The scan. -/
def scan : Request := .call .execute []

end Request

/-- **How a loop of engine calls ends**: one call per item, in order, the first failure, turned
by `turn`, ending the loop. -/
inductive Calling {α : Type} (request : α → Request) (turn : α → Failure → Failure) :
    List α → List Exchange → Except Failure Unit → Prop
  | done : Calling request turn [] [] (.ok ())
  | refused (a : α) (rest : List α) (X : Failure) :
      Calling request turn (a :: rest) [⟨request a, .error X⟩] (.error (turn a X))
  | next (a : α) (rest : List α) (v : Value) {N : List Exchange} {r : Except Failure Unit} :
      Calling request turn rest N r → Calling request turn (a :: rest) (⟨request a, .ok v⟩ :: N) r

/-- How registering the suppression patterns ends. -/
abbrev Suppressing : List String → List Exchange → Except Failure Unit → Prop :=
  Calling Request.suppression fun _ => Failure.ofEngineCall "register suppress annotation" none

/-- How registering the class files below `dir` ends: a file-system failure names the file. -/
abbrev Registering (dir : String) : List String → List Exchange → Except Failure Unit → Prop :=
  Calling (Request.registration dir) fun rel =>
    Failure.ofEngineCall "register class file" (some (classLoadFailed (Path.child dir rel)))

/-- The fault of a signatures file that is not there. -/
def missingSignatures (path : String) : Fault :=
  ⟨.os "FileNotFoundError", s!"Signatures file does not exist: {path}"⟩

/-- How a loaded source is described in the trace. -/
def Source.shown : Source → String
  | .bundled name _ => name
  | .inline _ => "<inline>"
  | .file path => path

/-- A source whose file, if it names one, was a file in a tree the run saw. -/
def Source.Present (seen : FileTree → Prop) : Source → Prop
  | .file path => ∃ t, seen t ∧ t.isFile path = true
  | _ => True

/-- **How loading the signature sources ends**: each source's load call in order, a file found
missing before its call, or a trace event that failed. -/
inductive Loading (tr : Tracer) (seen : FileTree → Prop) :
    List Source → List Exchange → Except Failure Unit → Prop
  | done : Loading tr seen [] [] (.ok ())
  | missing (path : String) (rest : List Source) (t : FileTree) : seen t → t.isFile path = false →
      Loading tr seen (.file path :: rest) []
        (.error (Failure.ofSignatureLoad (.fault (missingSignatures path))))
  | refused (source : Source) (rest : List Source) (X : Failure) : source.Present seen →
      Loading tr seen (source :: rest) [⟨.load source, .error X⟩] (.error (Failure.ofSignatureLoad X))
  | next (source : Source) (rest : List Source) (v : Value) {N : List Exchange}
      {r : Except Failure Unit} : source.Present seen → Loading tr seen rest N r →
      Loading tr seen (source :: rest) (⟨.load source, .ok v⟩ :: N) r
  | stopped {sources : List Source} {N : List Exchange} (f : Fault) : tr.path.isSome →
      Loading tr seen sources N (.error (.fault f))

/-- **How the scan ends**: a violation is an outcome, failing or not as the policy says; another
audit error is passed on, and any other failure becomes an engine fault. -/
inductive Scanning (tr : Tracer) (config : RunConfig) (count : Nat) :
    List Exchange → Except Failure Outcome → Prop
  | passed (v : Value) :
      Scanning tr config count [⟨.scan, .ok v⟩] (.ok { status := .passed, filesChecked := count })
  | violations (e : AuditError) : e.kind = .violation → config.policy.failOnViolation.truthy = true →
      Scanning tr config count [⟨.scan, .error (.audit e)⟩]
        (.ok { status := .violations, message := e.message, filesChecked := count })
  | tolerated (e : AuditError) : e.kind = .violation → config.policy.failOnViolation.truthy = false →
      Scanning tr config count [⟨.scan, .error (.audit e)⟩]
        (.ok { status := .passed, message := e.message, filesChecked := count })
  | refused (e : AuditError) : e.kind ≠ .violation →
      Scanning tr config count [⟨.scan, .error (.audit e)⟩] (.error (.audit e))
  | faulted (X : Failure) : (∀ e, X ≠ .audit e) →
      Scanning tr config count [⟨.scan, .error X⟩]
        (.error (Failure.engineFault s!"Scanning for forbidden API usage failed: {X.text}"))
  | stopped {N : List Exchange} (f : Fault) : tr.path.isSome →
      Scanning tr config count N (.error (.fault f))

/-- **How registering the class files and scanning ends.** -/
inductive Finishing (tr : Tracer) (config : RunConfig) (files : List String) :
    List Exchange → Except Failure Outcome → Prop
  | unregistered {N : List Exchange} {F : Failure} :
      Registering config.classesDirectory files N (.error F) → Finishing tr config files N (.error F)
  | scanned {N₁ N₂ : List Exchange} {r : Except Failure Outcome} :
      Registering config.classesDirectory files N₁ (.ok ()) → Scanning tr config files.length N₂ r →
      Finishing tr config files (N₁ ++ N₂) r
  | stopped {N : List Exchange} (f : Fault) : tr.path.isSome →
      Finishing tr config files N (.error (.fault f))

/-- **How the signature check and what follows end**: with internal runtime classes forbidden
there is no check; otherwise an engine without signatures skips or fails the run. -/
inductive Checking (tr : Tracer) (ctx : RunContext) (config : RunConfig) (files : List String) :
    List Exchange → Except Failure Outcome → Prop
  | forbidden {N : List Exchange} {r : Except Failure Outcome} :
      config.policy.internalRuntimeForbidden.truthy = true → Finishing tr config files N r →
      Checking tr ctx config files N r
  | failed (X : Failure) : config.policy.internalRuntimeForbidden.truthy = false →
      Checking tr ctx config files [⟨.signatureCheck, .error X⟩]
        (.error (Failure.ofEngineCall "report loaded signatures" none X))
  | skipped (v : Value) : config.policy.internalRuntimeForbidden.truthy = false →
      v.truthy = false → ctx.skipWhenNoSignatures = true →
      Checking tr ctx config files [⟨.signatureCheck, .ok v⟩] (.ok (Outcome.skip noSignaturesSkip))
  | rejected (v : Value) : config.policy.internalRuntimeForbidden.truthy = false →
      v.truthy = false → ctx.skipWhenNoSignatures = false →
      Checking tr ctx config files [⟨.signatureCheck, .ok v⟩]
        (.error (Failure.config "signatures.none_loaded" noSignaturesMessage))
  | confirmed (v : Value) {N : List Exchange} {r : Except Failure Outcome} :
      config.policy.internalRuntimeForbidden.truthy = false → v.truthy = true →
      Finishing tr config files N r → Checking tr ctx config files (⟨.signatureCheck, .ok v⟩ :: N) r
  | stopped {N : List Exchange} (f : Fault) : tr.path.isSome →
      Checking tr ctx config files N (.error (.fault f))

/-- **How finding the class files ends**, in a tree the run saw: the files selected there, a
configuration error when the front end needs classes and the directory or its files are
missing, or a trace event that failed. -/
inductive Finding (tr : Tracer) (ctx : RunContext) (config : RunConfig) (seen : FileTree → Prop) :
    Except Failure (List String) → Prop
  | found (t : FileTree) : seen t → (ctx.skipWhenNoClasses = false →
      t.isDir config.classesDirectory = true ∧ Kernel.selectIn t config ≠ []) →
      Finding tr ctx config seen (.ok (Kernel.selectIn t config))
  | rejected (e : AuditError) : ctx.skipWhenNoClasses = false → e.kind = .configuration →
      Finding tr ctx config seen (.error (.audit e))
  | stopped (f : Fault) : tr.path.isSome → Finding tr ctx config seen (.error (.fault f))

/-- The class files a drive works on: found before it, or found by it. -/
inductive Obtained (tr : Tracer) (ctx : RunContext) (config : RunConfig) (seen : FileTree → Prop) :
    ClassFiles → List String → Prop
  | found (files : List String) : Obtained tr ctx config seen (.found files) files
  | later {files : List String} : Finding tr ctx config seen (.ok files) →
      Obtained tr ctx config seen .later files

/-- **How a drive ends once its suppressions are registered**: the class files, then the
signature sources, then the signature check and the rest. -/
inductive Preparing (tr : Tracer) (ctx : RunContext) (config : RunConfig) (seen : FileTree → Prop)
    (files : ClassFiles) : List Exchange → Except Failure Outcome → Prop
  | unfound {F : Failure} : files = .later → Finding tr ctx config seen (.error F) →
      Preparing tr ctx config seen files [] (.error F)
  | unloaded {fs : List String} {N : List Exchange} {F : Failure} :
      Obtained tr ctx config seen files fs → Loading tr seen config.sources N (.error F) →
      Preparing tr ctx config seen files N (.error F)
  | loaded {fs : List String} {N₁ N₂ : List Exchange} {r : Except Failure Outcome} :
      Obtained tr ctx config seen files fs → Loading tr seen config.sources N₁ (.ok ()) →
      Checking tr ctx config fs N₂ r → Preparing tr ctx config seen files (N₁ ++ N₂) r

/-- **How a drive ends on a supported runtime**: the suppressions, then the rest. -/
inductive Supported (tr : Tracer) (ctx : RunContext) (config : RunConfig) (seen : FileTree → Prop)
    (files : ClassFiles) : List Exchange → Except Failure Outcome → Prop
  | unsuppressed {N : List Exchange} {F : Failure} :
      Suppressing config.suppressions N (.error F) → Supported tr ctx config seen files N (.error F)
  | suppressed {N₁ N₂ : List Exchange} {r : Except Failure Outcome} :
      Suppressing config.suppressions N₁ (.ok ()) → Preparing tr ctx config seen files N₂ r →
      Supported tr ctx config seen files (N₁ ++ N₂) r
  | stopped {N : List Exchange} (f : Fault) : tr.path.isSome →
      Supported tr ctx config seen files N (.error (.fault f))

/-- The failure of a runtime the engine does not support, under a policy that fails on it. -/
def unsupportedRuntime : Failure :=
  .audit (AuditError.make .unsupportedRuntime "runtime.unsupported" unsupportedRuntimeMessage)

/-- **How a drive ends**: the runtime check first; an unsupported runtime fails or skips the
run as the policy says. -/
inductive Driving (tr : Tracer) (ctx : RunContext) (config : RunConfig) (seen : FileTree → Prop)
    (files : ClassFiles) : List Exchange → Except Failure Outcome → Prop
  | failed (X : Failure) : Driving tr ctx config seen files [⟨.runtimeCheck, .error X⟩]
      (.error (Failure.ofEngineCall "check runtime support" none X))
  | unsupported (v : Value) : v.truthy = false → config.policy.failOnUnsupportedRuntime.truthy = true →
      Driving tr ctx config seen files [⟨.runtimeCheck, .ok v⟩] (.error unsupportedRuntime)
  | skipped (v : Value) : v.truthy = false → config.policy.failOnUnsupportedRuntime.truthy = false →
      Driving tr ctx config seen files [⟨.runtimeCheck, .ok v⟩]
        (.ok (Outcome.skip unsupportedRuntimeMessage))
  | supported (v : Value) {N : List Exchange} {r : Except Failure Outcome} : v.truthy = true →
      Supported tr ctx config seen files N r →
      Driving tr ctx config seen files (⟨.runtimeCheck, .ok v⟩ :: N) r
  | stopped {N : List Exchange} (f : Fault) : tr.path.isSome →
      Driving tr ctx config seen files N (.error (.fault f))

section

variable {tr : Tracer} {pre : Session → Prop} (hF : Frame tr pre)
  (hpre : ∀ s, pre s → s.engine.isSome) {seen : FileTree → Prop} (hseen : ∀ s, pre s → seen s.tree)

include hF hpre

theorem ends_registerSuppressions : ∀ patterns,
    Ends (registerSuppressions patterns) pre (Suppressing patterns)
  | [] => (Ends.pure ()).mono fun _ _ ⟨hN, hr⟩ => hN ▸ hr ▸ .done
  | p :: rest => by
    rw [registerSuppressions]
    refine (Ends.engineStep hF hpre _ _ _ _ fun _ => ends_registerSuppressions rest).mono ?_
    rintro N r (⟨X, rfl, rfl⟩ | ⟨v, N', rfl, hrest⟩)
    · exact .refused p rest X
    · exact .next p rest v hrest

theorem ends_registerClassFiles (dir : String) : ∀ files,
    Ends (registerClassFiles dir files) pre (Registering dir files)
  | [] => (Ends.pure ()).mono fun _ _ ⟨hN, hr⟩ => hN ▸ hr ▸ .done
  | rel :: rest => by
    rw [registerClassFiles]
    refine (Ends.engineStep hF hpre _ _ _ _ fun _ => ends_registerClassFiles dir rest).mono ?_
    rintro N r (⟨X, rfl, rfl⟩ | ⟨v, N', rfl, hrest⟩)
    · exact .refused rel rest X
    · exact .next rel rest v hrest

include hseen in
/-- Loading one source: its load call, or a file found missing first. -/
theorem ends_loadSource (source : Source) : Ends (loadSource source) pre fun N r =>
    (source.Present seen ∧ ∃ a, N = [⟨.load source, a⟩] ∧ r = a.map fun _ => source.shown) ∨
      ∃ path t, source = .file path ∧ seen t ∧ t.isFile path = false ∧ N = [] ∧
        r = .error (.fault (missingSignatures path)) := by
  cases source with
  | bundled name hint | inline text =>
    -- a source that is no file is always there: its load call is made
    refine (Ends.log_bind hF ((Ends.invoke _ _ hpre).bind (hF.invoke _ _) fun _ => Ends.pure _)).mono ?_
    rintro N r (⟨X, rfl, rfl⟩ | ⟨v, N₁, N₂, rfl, ⟨rfl, rfl⟩, rfl⟩)
    · exact .inl ⟨trivial, _, rfl, rfl⟩
    · exact .inl ⟨trivial, _, rfl, rfl⟩
  | file path =>
    intro s hs
    obtain ⟨e, he⟩ := Option.isSome_iff_exists.mp (hpre s hs)
    simp only [loadSource, run_bind, run_log, run_get]
    by_cases hfile : s.tree.isFile path
    · simp only [hfile, Bool.not_true, Bool.false_eq_true, if_false, run_bind]
      rw [run_invoke_eq]
      simp only [he]
      have present : (Source.file path).Present seen := ⟨s.tree, hseen s hs, hfile⟩
      cases (Engine.call s.tree e .loadSignatureFile [.str path]).result with
      | error X => exact ⟨_, rfl, .inl ⟨present, .error X, rfl, rfl⟩⟩
      | ok v => exact ⟨_, rfl, .inl ⟨present, .ok v, rfl, rfl⟩⟩
    · simp only [hfile, Bool.not_false, if_true, run_bind, run_throw]
      exact ⟨[], by simp, .inr ⟨path, s.tree, rfl, hseen s hs, by simpa using hfile, rfl, rfl⟩⟩

include hseen in
theorem ends_loadSignatures : ∀ sources,
    Ends (loadSignatures tr sources) pre (Loading tr seen sources)
  | [] => (Ends.pure ()).mono fun _ _ ⟨hN, hr⟩ => hN ▸ hr ▸ .done
  | source :: rest => by
    rw [loadSignatures]
    refine (((ends_loadSource hF hpre hseen source).turned _).bind
      (.tryCatch (hF.loadSource _) fun _ => .throw _) fun _ =>
        Ends.emit_bind hF (ends_loadSignatures rest)).mono ?_
    rintro N r (⟨f, ⟨r₀, h₀, hr₀⟩, rfl⟩ | ⟨d, N₁, N₂, ⟨r₀, h₀, hr₀⟩, h₂, rfl⟩)
    · -- loading the source failed
      rcases h₀ with ⟨present, a, rfl, rfl⟩ | ⟨path, t, rfl, ht, hfile, rfl, rfl⟩
      · cases a with
        | error X =>
          cases hr₀
          exact .refused source rest X present
        | ok v => cases hr₀
      · cases hr₀
        exact .missing path rest t ht hfile
    · rcases h₀ with ⟨present, a, rfl, rfl⟩ | ⟨path, t, rfl, ht, hfile, rfl, rfl⟩
      · cases a with
        | error X => cases hr₀
        | ok v =>
          rcases h₂ with ⟨rfl, htr, f, rfl⟩ | hrest
          · exact .stopped f htr
          · exact .next source rest v present hrest
      · cases hr₀

theorem ends_scan (config : RunConfig) (count : Nat) :
    Ends (scan tr config count) pre (Scanning tr config count) := by
  unfold scan
  refine (Ends.log_bind hF ((Ends.attempt (Ends.invoke _ _ hpre)).bind (.attempt (hF.invoke _ _))
    fun r₀ => (by
      cases r₀ with
      | ok v =>
        dsimp only
        refine Ends.mono (Ends.emit_bind hF (Ends.pure _)) ?_
        rintro N r (⟨rfl, htr, f, rfl⟩ | ⟨rfl, rfl⟩)
        · exact .stopped f htr
        · exact .passed v
      | error X =>
        cases X with
        | audit e =>
          dsimp only
          split
          · -- a violation: an outcome, failing or not as the policy says
            rename_i hkind
            have hv : e.kind = .violation := by simpa using hkind
            refine (Ends.emit_bind hF (by
              split
              · exact Ends.pure _
              · exact Ends.log_bind hF (Ends.pure _) : Ends _ pre fun N r =>
                N = [] ∧ r = .ok (if config.policy.failOnViolation.truthy then
                  { status := .violations, message := e.message, filesChecked := count }
                  else { status := .passed, message := e.message, filesChecked := count }))).mono ?_
            rintro N r (⟨rfl, htr, f, rfl⟩ | ⟨rfl, rfl⟩)
            · exact .stopped f htr
            · cases hfail : config.policy.failOnViolation.truthy
              · exact .tolerated e hv hfail
              · exact .violations e hv hfail
          · rename_i hkind
            refine (Ends.throw _).mono fun N r ⟨hN, hr⟩ => hN ▸ hr ▸ .refused e (by simpa using hkind)
        | task t => exact (Ends.throw _).mono fun N r ⟨hN, hr⟩ => hN ▸ hr ▸ .faulted _ (by simp)
        | fault f => exact (Ends.throw _).mono fun N r ⟨hN, hr⟩ => hN ▸ hr ▸ .faulted _ (by simp)
        : Ends _ pre fun N r => Scanning tr config count (⟨.scan, r₀⟩ :: N) r))).mono ?_
  rintro N r (⟨f, ⟨r₀, -, h⟩, -⟩ | ⟨r₀, N₁, N₂, ⟨r₁, rfl, h₁⟩, h₂, rfl⟩)
  · cases h
  · cases h₁
    exact h₂

theorem ends_registerAndScan (config : RunConfig) (files : List String) :
    Ends (registerAndScan tr config files) pre (Finishing tr config files) := by
  unfold registerAndScan
  refine Ends.mono (Ends.log_bind hF (Ends.bind (ends_registerClassFiles hF hpre _ _)
    (hF.registerClassFiles _ _) fun _ => Ends.emit_bind hF (ends_scan hF hpre _ _))) ?_
  rintro N r (⟨F, hreg, rfl⟩ | ⟨⟨⟩, N₁, N₂, hreg, ⟨rfl, htr, f, rfl⟩ | hscan, rfl⟩)
  · exact .unregistered hreg
  · exact .stopped f htr
  · exact .scanned hreg hscan

theorem ends_checkSignatures (ctx : RunContext) (config : RunConfig) (files : List String) :
    Ends (checkSignatures tr ctx config files) pre (Checking tr ctx config files) := by
  unfold checkSignatures
  split
  · rename_i hirf
    have hirf : config.policy.internalRuntimeForbidden.truthy = false := by simpa using hirf
    refine Ends.mono (Ends.engineStep hF hpre _ _ _ _ fun v => (by
      dsimp only
      split
      · rename_i hany
        have hany : v.truthy = false := by simpa using hany
        split
        · rename_i hskip
          refine Ends.mono (Ends.log_bind hF (Ends.emit_bind hF (Ends.pure _))) ?_
          rintro N r (⟨rfl, htr, f, rfl⟩ | ⟨rfl, rfl⟩)
          · exact .stopped f htr
          · exact .skipped v hirf hany hskip
        · rename_i hskip
          refine Ends.mono (Ends.throw _) ?_
          rintro N r ⟨rfl, rfl⟩
          exact .rejected v hirf hany (by simpa using hskip)
      · rename_i hany
        exact Ends.mono (ends_registerAndScan hF hpre _ _) fun N r h =>
          .confirmed v hirf (by simpa using hany) h
      : Ends _ pre fun N r => Checking tr ctx config files (⟨.signatureCheck, .ok v⟩ :: N) r)) ?_
    rintro N r (⟨X, rfl, rfl⟩ | ⟨v, N', rfl, h⟩)
    · exact .failed X hirf
    · exact h
  · rename_i hirf
    exact Ends.mono (ends_registerAndScan hF hpre _ _) fun N r h =>
      .forbidden (by simpa using hirf) h

omit hpre in
include hseen in
theorem ends_classFiles (ctx : RunContext) (config : RunConfig) :
    Ends (Kernel.classFiles tr ctx config) pre fun N r => N = [] ∧ Finding tr ctx config seen r := by
  unfold Kernel.classFiles
  -- the tree is read once; what follows is said of that tree, seen when it was read
  refine Ends.mono (Ends.log_bind hF (Ends.bind Ends.get .get fun s => (by
      dsimp only
      split
      · rename_i hmissing
        have hskip : ctx.skipWhenNoClasses = false := by
          simp only [Bool.and_eq_true, Bool.not_eq_true'] at hmissing
          exact hmissing.2
        refine Ends.mono (Ends.throw_bind _ _) ?_
        rintro N r ⟨rfl, rfl⟩
        exact ⟨rfl, fun _ => .rejected _ hskip rfl⟩
      · rename_i hdir
        refine Ends.mono (Ends.emit_bind hF (by
          split
          · rename_i hnone
            have hskip : ctx.skipWhenNoClasses = false := by
              simp only [Bool.and_eq_true, Bool.not_eq_true'] at hnone
              exact hnone.2
            refine Ends.mono (Ends.throw_bind _ _) ?_
            rintro N r ⟨rfl, rfl⟩
            exact ⟨rfl, fun _ => .rejected _ hskip rfl⟩
          · rename_i hsome
            refine Ends.mono (Ends.pure _) ?_
            rintro N r ⟨rfl, rfl⟩
            exact ⟨rfl, fun ht => .found s.tree ht fun hskip =>
              ⟨by simpa [hskip] using hdir, by simpa [hskip] using hsome⟩⟩
          : Ends _ pre fun N r => N = [] ∧ (seen s.tree → Finding tr ctx config seen r))) ?_
        rintro N r (⟨rfl, htr, f, rfl⟩ | h)
        · exact ⟨rfl, fun _ => .stopped f htr⟩
        · exact h
      : Ends _ pre fun N r => N = [] ∧ (seen s.tree → Finding tr ctx config seen r)))) ?_
  rintro N r (⟨f, ⟨-, s, -, h⟩, -⟩ | ⟨s, N₁, N₂, ⟨rfl, s', hs', hs''⟩, ⟨rfl, h⟩, rfl⟩)
  · cases h
  · cases hs''
    exact ⟨rfl, h (hseen s hs')⟩

include hseen in
theorem ends_driveSupported (ctx : RunContext) (config : RunConfig) (files : ClassFiles) :
    Ends (driveSupported tr ctx config files (Kernel.classFiles tr ctx config)) pre
      (Supported tr ctx config seen files) := by
  -- the signature sources and the rest, once the class files are known
  have rest : ∀ fs, Ends (loadSignatures tr config.sources >>= fun _ => checkSignatures tr ctx config fs)
      pre fun N r => (∃ F, Loading tr seen config.sources N (.error F) ∧ r = .error F) ∨
        ∃ N₁ N₂, Loading tr seen config.sources N₁ (.ok ()) ∧ Checking tr ctx config fs N₂ r ∧
          N = N₁ ++ N₂ := fun fs =>
    Ends.mono (Ends.bind (ends_loadSignatures hF hpre hseen _) (hF.loadSignatures _) fun _ =>
      ends_checkSignatures hF hpre _ _ _) fun N r h => by
        rcases h with ⟨F, h, rfl⟩ | ⟨⟨⟩, N₁, N₂, h₁, h₂, rfl⟩
        · exact .inl ⟨F, h, rfl⟩
        · exact .inr ⟨N₁, N₂, h₁, h₂, rfl⟩
  unfold driveSupported
  dsimp only
  apply Ends.mono
  · apply Ends.emit_bind hF
    apply Ends.bind (ends_registerSuppressions hF hpre _) (hF.registerSuppressions _)
    intro _
    apply Ends.optional_emit hF
    show Ends _ pre (Preparing tr ctx config seen files)
    split
    · rename_i fs
      refine Ends.mono (Ends.bind (Ends.pure fs) (.pure _) fun _ => rest _) ?_
      rintro N r (⟨F, ⟨-, h⟩, -⟩ | ⟨fs, N₁, N₂, ⟨rfl, h⟩, hrest, rfl⟩)
      · cases h
      · cases h
        rcases hrest with ⟨F, hload, rfl⟩ | ⟨N₁, N₂, hload, hcheck, rfl⟩
        · exact .unloaded (.found fs) hload
        · exact .loaded (.found fs) hload hcheck
    · refine Ends.mono (Ends.bind (ends_classFiles hF hseen _ _) (hF.classFiles _ _) fun _ => rest _) ?_
      rintro N r (⟨F, ⟨rfl, h⟩, rfl⟩ | ⟨fs, N₁, N₂, ⟨rfl, h⟩, hrest, rfl⟩)
      · exact .unfound rfl h
      · rcases hrest with ⟨F, hload, rfl⟩ | ⟨N₁, N₂, hload, hcheck, rfl⟩
        · exact .unloaded (.later h) hload
        · exact .loaded (.later h) hload hcheck
  · rintro N r (⟨rfl, htr, f, rfl⟩ | ⟨F, h, rfl⟩ | ⟨⟨⟩, N₁, N₂, h₁, ⟨rfl, htr, f, rfl⟩ | h₂, rfl⟩)
    · exact .stopped f htr
    · exact .unsuppressed h
    · exact .stopped f htr
    · exact .suppressed h₁ h₂

include hseen in
theorem ends_drive (ctx : RunContext) (config : RunConfig) (files : ClassFiles) :
    Ends (drive tr ctx config files (Kernel.classFiles tr ctx config)) pre
      (Driving tr ctx config seen files) := by
  unfold drive
  apply Ends.mono
  · apply Ends.engineStep hF hpre
    intro v
    show Ends _ pre fun N r => Driving tr ctx config seen files (⟨.runtimeCheck, .ok v⟩ :: N) r
    dsimp only
    split
    · rename_i hv
      have hv : v.truthy = false := by simpa using hv
      split
      · rename_i hfail
        refine Ends.mono (Ends.throw_bind _ _) ?_
        rintro N r ⟨rfl, rfl⟩
        exact .unsupported v hv hfail
      · rename_i hfail
        refine Ends.mono (Ends.log_bind hF (Ends.emit_bind hF (Ends.pure _))) ?_
        rintro N r (⟨rfl, htr, f, rfl⟩ | ⟨rfl, rfl⟩)
        · exact .stopped f htr
        · exact .skipped v hv (by simpa using hfail)
    · rename_i hv
      exact Ends.mono (ends_driveSupported hF hpre hseen _ _ _) fun N r h =>
        .supported v (by simpa using hv) h
  · rintro N r (⟨X, rfl, rfl⟩ | ⟨v, N', rfl, h⟩)
    · exact .failed X
    · exact h

end

end ApiAudit
