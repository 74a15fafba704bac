import ApiAudit.Proofs.Verdict

/-!
# Proofs/Outcome — when a run is skipped, passes, or finds violations

A run's outcome is read off its exchanges (`runOutcome_status`):

* it is skipped exactly when it reached one of four skips (`SkipReached`): no signature source,
  no class files, a runtime the engine does not support, an engine without signatures; the
  engine never scanned;
* it finds violations exactly when the scan raised violations and the policy fails on them
  (`ViolationsRaised`);
* it passes exactly when the scan went through (`ScanPassed`);
* either way its count is that of the class files registered, at least one.

Each "exactly" holds up to a trace file that cannot be written: such a run fails instead.
-/

namespace ApiAudit

open Audit

section Inversion

variable {ctx : RunContext} {config : RunConfig} {x : Exchange} {m : Value}

/-- Only four exchanges settle an outcome: a runtime the engine does not support, an engine
without signatures, and the scan, whether it returned or raised violations. -/
theorem settles_ends {status : Status} (h : settles ctx config x = some (.ends status m)) :
    (∃ v, x = ⟨.runtimeCheck, .ok v⟩ ∧ v.truthy = false ∧
      config.policy.failOnUnsupportedRuntime.truthy = false ∧
      status = .skipped ∧ m = .str unsupportedRuntimeMessage) ∨
    (∃ v, x = ⟨.signatureCheck, .ok v⟩ ∧ v.truthy = false ∧
      config.policy.internalRuntimeForbidden.truthy = false ∧ ctx.skipWhenNoSignatures = true ∧
      status = .skipped ∧ m = .str noSignaturesSkip) ∨
    (∃ v, x = ⟨.scan, .ok v⟩ ∧ status = .passed ∧ m = .null) ∨
    (∃ e, x = ⟨.scan, .error (.audit e)⟩ ∧ e.kind = .violation ∧
      status = (if config.policy.failOnViolation.truthy then .violations else .passed) ∧
      m = e.message) := by
  obtain ⟨request, answer⟩ := x
  revert h
  -- one case per arm of `settles`; the arms that settle a failure or nothing are out at once
  fun_cases settles ctx config ⟨request, answer⟩ <;> intro h <;> cases h
  case case5 v hanswer hrequest hv hfail =>
    obtain rfl : request = .runtimeCheck := hrequest
    obtain rfl : answer = .ok v := hanswer
    exact .inl ⟨v, rfl, by simpa using hv, by simpa using hfail, rfl, rfl⟩
  case case12 v hanswer hrequest hv hskip =>
    obtain rfl : request = .signatureCheck := hrequest
    obtain rfl : answer = .ok v := hanswer
    simp only [Bool.or_eq_true, not_or] at hv
    exact .inr (.inl ⟨v, rfl, by simpa using hv.1, by simpa using hv.2, hskip, rfl, rfl⟩)
  case case15 v hanswer hrequest =>
    obtain rfl : request = .scan := hrequest
    obtain rfl : answer = .ok v := hanswer
    exact .inr (.inr (.inl ⟨v, rfl, rfl, rfl⟩))
  case case16 e hanswer hrequest hkind =>
    obtain rfl : request = .scan := hrequest
    obtain rfl : answer = .error (.audit e) := hanswer
    exact .inr (.inr (.inr ⟨e, rfl, hkind, rfl, rfl⟩))

/-- Only a runtime the engine does not support and an engine without signatures settle a skip. -/
theorem settles_skipped (h : settles ctx config x = some (.ends .skipped m)) :
    (∃ v, x = ⟨.runtimeCheck, .ok v⟩ ∧ v.truthy = false ∧
      config.policy.failOnUnsupportedRuntime.truthy = false ∧
      m = .str unsupportedRuntimeMessage) ∨
    (∃ v, x = ⟨.signatureCheck, .ok v⟩ ∧ v.truthy = false ∧
      config.policy.internalRuntimeForbidden.truthy = false ∧ ctx.skipWhenNoSignatures = true ∧
      m = .str noSignaturesSkip) := by
  rcases settles_ends h with ⟨v, hx, hv, hfail, -, hm⟩ | ⟨v, hx, hv, hirf, hskip, -, hm⟩ |
    ⟨-, -, hs, -⟩ | ⟨-, -, -, hs, -⟩
  · exact .inl ⟨v, hx, hv, hfail, hm⟩
  · exact .inr ⟨v, hx, hv, hirf, hskip, hm⟩
  · cases hs
  · split at hs <;> cases hs

/-- Only the scan settles violations, when they fail the run. -/
theorem settles_violations (h : settles ctx config x = some (.ends .violations m)) :
    ∃ e, x = ⟨.scan, .error (.audit e)⟩ ∧ e.kind = .violation ∧
      config.policy.failOnViolation.truthy = true ∧ m = e.message := by
  rcases settles_ends h with ⟨-, -, -, -, hs, -⟩ | ⟨-, -, -, -, -, hs, -⟩ | ⟨-, -, hs, -⟩ |
    ⟨e, hx, hkind, hs, hm⟩
  · cases hs
  · cases hs
  · cases hs
  · split at hs
    next hfail => exact ⟨e, hx, hkind, hfail, hm⟩
    next => cases hs

/-- Only the scan settles a pass: it returned, or raised violations the policy tolerates. -/
theorem settles_passed (h : settles ctx config x = some (.ends .passed m)) :
    (∃ v, x = ⟨.scan, .ok v⟩ ∧ m = .null) ∨
      ∃ e, x = ⟨.scan, .error (.audit e)⟩ ∧ e.kind = .violation ∧
        config.policy.failOnViolation.truthy = false ∧ m = e.message := by
  rcases settles_ends h with ⟨-, -, -, -, hs, -⟩ | ⟨-, -, -, -, -, hs, -⟩ | ⟨v, hx, -, hm⟩ |
    ⟨e, hx, hkind, hs, hm⟩
  · cases hs
  · cases hs
  · exact .inl ⟨v, hx, hm⟩
  · split at hs
    next => cases hs
    next hfail => exact .inr ⟨e, hx, hkind, by simpa using hfail, hm⟩

/-- The scan never settles a skip. -/
theorem settles_scan_ne_skipped (a : Except Failure Value) :
    settles ctx config ⟨.scan, a⟩ ≠ some (.ends .skipped m) := by
  intro h
  rcases settles_skipped h with ⟨v, hx, -⟩ | ⟨v, hx, -⟩ <;> cases hx

end Inversion

/-- A result that is an outcome of the status `status`. -/
def EndedWith (r : Except Failure Outcome) (status : Status) : Prop :=
  ∃ o, r = .ok o ∧ o.status = status

/-- **The skips of a run**, from the environment `env` and the tree `t` its body starts in,
and its exchanges `N`: (a) no signature source, where the front end tolerates that; (b) no class
files selected, where it tolerates that; (c) a runtime the engine does not support, where the
policy does not fail on it; (d) an engine without signatures, where the front end tolerates
that. -/
def SkipReached (ctx : RunContext) (config : RunConfig) (env : Environment) (t : FileTree)
    (N : List Exchange) : Prop :=
  (config.Unsigned ∧ ctx.skipWhenNoSignatures = true) ∨
    (¬config.Unsigned ∧
      (∃ classpath, Classpath.build env config.classpathEntries (.str config.classesDirectory) =
        .ok classpath) ∧
      ctx.skipWhenNoClasses = true ∧ Kernel.selectIn t config = []) ∨
    (∃ v, ⟨.runtimeCheck, .ok v⟩ ∈ N ∧ v.truthy = false ∧
      config.policy.failOnUnsupportedRuntime.truthy = false) ∨
    (∃ v, ⟨.signatureCheck, .ok v⟩ ∈ N ∧ v.truthy = false ∧
      config.policy.internalRuntimeForbidden.truthy = false ∧ ctx.skipWhenNoSignatures = true)

/-- The scan raised violations, and the policy fails on them. -/
def ViolationsRaised (config : RunConfig) (N : List Exchange) : Prop :=
  ∃ e, ⟨.scan, .error (.audit e)⟩ ∈ N ∧ e.kind = .violation ∧
    config.policy.failOnViolation.truthy = true

/-- Whether an exchange is the scan raising violations. -/
def Exchange.raisesViolation : Exchange → Bool
  | ⟨.call .execute [], .error (.audit e)⟩ => e.kind == .violation
  | _ => false

theorem Exchange.raisesViolation_iff {x : Exchange} :
    x.raisesViolation = true ↔
      ∃ e, x = ⟨.scan, .error (.audit e)⟩ ∧ e.kind = .violation := by
  obtain ⟨request, answer⟩ := x
  constructor
  · intro h
    unfold raisesViolation at h
    split at h <;> simp_all [Request.scan]
  · rintro ⟨e, h, hkind⟩
    cases h
    simp [raisesViolation, Request.scan, hkind]

instance (config : RunConfig) (N : List Exchange) : Decidable (ViolationsRaised config N) :=
  decidable_of_iff (N.any Exchange.raisesViolation && config.policy.failOnViolation.truthy) <| by
    simp only [Bool.and_eq_true, List.any_eq_true, Exchange.raisesViolation_iff, ViolationsRaised]
    constructor
    · rintro ⟨⟨x, hx, e, rfl, hkind⟩, hfail⟩
      exact ⟨e, hx, hkind, hfail⟩
    · rintro ⟨e, hx, hkind, hfail⟩
      exact ⟨⟨_, hx, e, rfl, hkind⟩, hfail⟩

instance (r : Except Failure Outcome) (status : Status) : Decidable (EndedWith r status) :=
  match r with
  | .ok o => decidable_of_iff (o.status = status)
      ⟨fun h => ⟨o, rfl, h⟩, fun ⟨o', h, hs⟩ => by cases h; exact hs⟩
  | .error _ => isFalse fun ⟨_, h, _⟩ => by cases h

/-- The scan went through: it returned, or raised violations the policy tolerates. -/
def ScanPassed (config : RunConfig) (N : List Exchange) : Prop :=
  (∃ v, ⟨.scan, .ok v⟩ ∈ N) ∨
    ∃ e, ⟨.scan, .error (.audit e)⟩ ∈ N ∧ e.kind = .violation ∧
      config.policy.failOnViolation.truthy = false

section Early

variable {ctx : RunContext} {config : RunConfig} {seen : FileTree → Prop} {t : FileTree}
  {env : Environment} {N : List Exchange} {r : Except Failure Outcome}

/-- **A body that reaches one of the two early skips is skipped**, unless its trace file stops
it. -/
theorem Body.skips {tr : Tracer} (h : Body tr ctx config seen t env N r)
    (hreach : (config.Unsigned ∧ ctx.skipWhenNoSignatures = true) ∨
      (¬config.Unsigned ∧
        (∃ classpath, Classpath.build env config.classpathEntries (.str config.classesDirectory) =
          .ok classpath) ∧
        ctx.skipWhenNoClasses = true ∧ Kernel.selectIn t config = [])) :
    EndedWith r .skipped ∨ TraceStopped tr r := by
  cases h with
  | unsignedSkipped _ _ => exact .inl ⟨_, rfl, rfl⟩
  | unsigned hu hskip =>
    rcases hreach with ⟨-, hskip'⟩ | ⟨hu', -⟩
    · rw [hskip] at hskip'
      cases hskip'
    · exact absurd hu hu'
  | unbuilt F hu hcp =>
    rcases hreach with ⟨hu', -⟩ | ⟨-, ⟨classpath, hok⟩, -⟩
    · exact absurd hu' hu
    · rw [hcp] at hok
      cases hok
  | empty _ _ _ _ _ => exact .inl ⟨_, rfl, rfl⟩
  | executed _ hu _ _ hsome _ =>
    rcases hreach with ⟨hu', -⟩ | ⟨-, -, hskip, hnone⟩
    · exact absurd hu' hu
    · exact absurd hnone (hsome hskip)
  | stopped f hpath => exact .inr ⟨hpath, f, rfl⟩

theorem Running.skips {started : Except Failure Unit}
    (h : Running ctx config seen started t env N r)
    (hreach : (config.Unsigned ∧ ctx.skipWhenNoSignatures = true) ∨
      (¬config.Unsigned ∧
        (∃ classpath, Classpath.build env config.classpathEntries (.str config.classesDirectory) =
          .ok classpath) ∧
        ctx.skipWhenNoClasses = true ∧ Kernel.selectIn t config = [])) :
    EndedWith r .skipped ∨ TraceStopped (Kernel.tracer ctx) r := by
  cases h with
  | unstarted f _ hpath => exact .inr ⟨hpath, f, rfl⟩
  | ran _ hbody hrel =>
    rcases hbody.skips hreach with hskip | hstop
    · rcases hrel with rfl | hstop'
      · exact .inl hskip
      · exact .inr hstop'
    · exact .inr (hrel.traceStopped hstop)

end Early

/-- **The laws of a run's outcome**, for a run with the trace file of `tr`, whose body starts
in the environment `env` and the tree `t`, that made the exchanges `N` and ended with `r`. -/
structure OutcomeLaws (tr : Tracer) (ctx : RunContext) (config : RunConfig) (env : Environment)
    (t : FileTree) (N : List Exchange) (r : Except Failure Outcome) : Prop where
  /-- A skipped run reached a skip, and never scanned. -/
  skipped : EndedWith r .skipped →
    SkipReached ctx config env t N ∧ ∀ x ∈ N, x.request ≠ .scan
  /-- A run that reaches a skip is skipped. -/
  skip_reached : SkipReached ctx config env t N → EndedWith r .skipped ∨ TraceStopped tr r
  /-- A run that finds violations had its scan raise them, under a policy that fails on them. -/
  violations : EndedWith r .violations → ViolationsRaised config N
  /-- Violations raised by the scan under such a policy are found. -/
  violations_raised : ViolationsRaised config N → EndedWith r .violations ∨ TraceStopped tr r
  /-- A run that passes had its scan go through. -/
  passed : EndedWith r .passed → ScanPassed config N
  /-- A scan that went through passes the run. -/
  scan_passed : ScanPassed config N → EndedWith r .passed ∨ TraceStopped tr r
  /-- An outcome other than a skip counts the class files registered, at least one. -/
  counted : ∀ o, r = .ok o → o.status ≠ .skipped →
    o.filesChecked = registrations N ∧ 0 < o.filesChecked
  /-- An unsupported runtime fails a run whose policy says so. -/
  unsupported : config.policy.failOnUnsupportedRuntime.truthy = true →
    (∃ v, ⟨.runtimeCheck, .ok v⟩ ∈ N ∧ v.truthy = false) →
    r = .error unsupportedRuntime ∨ TraceStopped tr r

/-- A result ends with at most one status. -/
theorem EndedWith.unique {r : Except Failure Outcome} {s₁ s₂ : Status} (h₁ : EndedWith r s₁)
    (h₂ : EndedWith r s₂) : s₁ = s₂ := by
  obtain ⟨o, rfl, rfl⟩ := h₁
  obtain ⟨o', ho', rfl⟩ := h₂
  cases ho'
  rfl

namespace Settled

variable {tr : Tracer} {ctx : RunContext} {config : RunConfig} {N : List Exchange}
  {r : Except Failure Outcome}

/-- An outcome of a part is settled by one of its exchanges, with its status. -/
theorem settled_status (h : Settled tr ctx config N r) {o : Outcome} (ho : r = .ok o)
    {status : Status} (hs : o.status = status) :
    ∃ x ∈ N, settles ctx config x = some (.ends status o.message) := by
  obtain ⟨x, hx, hV⟩ := h.decided o ho
  exact ⟨x, hx, hs ▸ hV⟩

/-- **A skipped part never scanned**: whatever the scan answers settles an outcome, and never
a skip. -/
theorem unscanned (h : Settled tr ctx config N r) (hskip : EndedWith r .skipped) :
    ∀ x ∈ N, x.request ≠ .scan := by
  obtain ⟨o, ho, hs⟩ := hskip
  rintro ⟨request, answer⟩ hx rfl
  obtain ⟨V, hV⟩ := Option.isSome_iff_exists.mp (settles_scan_isSome ctx config answer)
  rcases h.agrees _ hx V hV with hagree | ⟨-, f, hf⟩
  · cases V with
    | fails F =>
      rw [ho] at hagree
      cases hagree
    | ends status message =>
      obtain ⟨o', ho', hs', -⟩ := hagree
      rw [ho] at ho'
      cases ho'
      rw [hs] at hs'
      subst hs'
      exact settles_scan_ne_skipped answer hV
  · rw [ho] at hf
    cases hf

/-- **The laws of a part that keeps to what its exchanges settle**, given that the two skips
decided before the engine exists skip it. -/
theorem outcomeLaws (h : Settled tr ctx config N r) {env : Environment} {t : FileTree}
    (hearly : (config.Unsigned ∧ ctx.skipWhenNoSignatures = true) ∨
      (¬config.Unsigned ∧
        (∃ classpath, Classpath.build env config.classpathEntries (.str config.classesDirectory) =
          .ok classpath) ∧
        ctx.skipWhenNoClasses = true ∧ Kernel.selectIn t config = []) →
      EndedWith r .skipped ∨ TraceStopped tr r) :
    OutcomeLaws tr ctx config env t N r where
  skipped := fun ⟨o, ho, hs⟩ => by
    obtain ⟨x, hx, hV⟩ := h.settled_status ho hs
    refine ⟨?_, h.unscanned ⟨o, ho, hs⟩⟩
    -- only the runtime check and the signature check settle a skip
    rcases settles_skipped hV with ⟨v, rfl, hv, hfail, -⟩ | ⟨v, rfl, hv, hirf, hskip, -⟩
    · exact .inr (.inr (.inl ⟨v, hx, hv, hfail⟩))
    · exact .inr (.inr (.inr ⟨v, hx, hv, hirf, hskip⟩))
  skip_reached hreach := by
    rcases hreach with hreach | hreach | ⟨v, hx, hv, hfail⟩ | ⟨v, hx, hv, hirf, hskip⟩
    · exact hearly (.inl hreach)
    · exact hearly (.inr hreach)
    · exact h.ends_of_mem hx (.str unsupportedRuntimeMessage) (by simp [hv, hfail])
    · exact h.ends_of_mem hx (.str noSignaturesSkip) (by simp [hv, hirf, hskip])
  violations := fun ⟨o, ho, hs⟩ => by
    obtain ⟨x, hx, hV⟩ := h.settled_status ho hs
    obtain ⟨e, rfl, hkind, hfail, -⟩ := settles_violations hV
    exact ⟨e, hx, hkind, hfail⟩
  violations_raised := fun ⟨e, hx, hkind, hfail⟩ =>
    h.ends_of_mem hx e.message (by simp [hkind, hfail])
  passed := fun ⟨o, ho, hs⟩ => by
    obtain ⟨x, hx, hV⟩ := h.settled_status ho hs
    rcases settles_passed hV with ⟨v, rfl, -⟩ | ⟨e, rfl, hkind, hfail, -⟩
    · exact .inl ⟨v, hx⟩
    · exact .inr ⟨e, hx, hkind, hfail⟩
  scan_passed hpass := by
    rcases hpass with ⟨v, hx⟩ | ⟨e, hx, hkind, hfail⟩
    · exact h.ends_of_mem hx .null (settles_scan_ok ctx config v)
    · exact h.ends_of_mem hx e.message (by simp [hkind, hfail])
  counted := h.counted
  unsupported hfail := fun ⟨v, hx, hv⟩ => h.fails_of_mem hx (by simp [hv, hfail])

end Settled

/-- **The laws of a run skipped before its engine exists**, with no exchange. -/
theorem OutcomeLaws.skippedEarly {tr : Tracer} {ctx : RunContext} {config : RunConfig}
    {env : Environment} {t : FileTree} {r : Except Failure Outcome}
    (h : SkippedEarly ctx config env t r) : OutcomeLaws tr ctx config env t [] r := by
  have hskip : EndedWith r .skipped := by
    rcases h with ⟨-, -, rfl⟩ | ⟨-, -, -, -, rfl⟩ <;> exact ⟨_, rfl, rfl⟩
  have hnil : ∀ x, x ∉ ([] : List Exchange) := fun _ => List.not_mem_nil
  refine ⟨fun _ => ⟨?_, by simp⟩, fun _ => .inl hskip, fun hend => ?_,
    fun ⟨_, hx, _⟩ => absurd hx (hnil _), fun hend => ?_, fun hpass => ?_,
    fun o ho hs => absurd (EndedWith.unique ⟨o, ho, rfl⟩ hskip) hs,
    fun _ ⟨_, hx, _⟩ => absurd hx (hnil _)⟩
  · rcases h with ⟨hu, hns, -⟩ | ⟨hu, hcp, hnc, hnone, -⟩
    · exact .inl ⟨hu, hns⟩
    · exact .inr (.inl ⟨hu, hcp, hnc, hnone⟩)
  · cases hend.unique hskip
  · cases hend.unique hskip
  · rcases hpass with ⟨_, hx⟩ | ⟨_, hx, _⟩ <;> exact absurd hx (hnil _)

/-- A violation whose message holds a lone surrogate. -/
def surrogateViolation : AuditError :=
  ⟨.violation, .str "test.code",
    .str ("bad " ++ String.singleton (Text.ofUnit 0xD800) ++ " call"), none⟩

/-- Inline signatures, the classes below `/work/c`, and a policy that fails on violations. -/
def failingConfig : RunConfig :=
  { classesDirectory := "/work/c", sources := [.inline "java.lang.Thread#stop()"],
    policy := { failOnViolation := .bool true } }

/-- A run with a trace file over one class file, whose scan raises `surrogateViolation`. -/
def surrogateViolationRun : Except Failure Outcome × Session :=
  (Kernel.run (.planned .recording [(.execute, .audit surrogateViolation)] none)
    { tracePath := some "/work/trace.jsonl" } failingConfig).run
    { tree := (FileTree.initial.put ["work", "c"] .dir).put ["work", "c", "A.class"] (.file []),
      env := Environment.base }

end ApiAudit
