import ApiAudit.Proofs.SignatureSyntax
import ApiAudit.Engine.Calls

/-!
# Proofs/EngineLoading — what loading signatures does to a deterministic engine

A deterministic engine with no planned failure records each call and then does the
operation's work.  Loading signatures moves one number, the engine's signature count:

* a signature text (`LoadsText`) counts its significant lines when every one of them is a
  signature; otherwise the call fails with the first significant line that is none, named by its
  number from one and its trimmed text, and the count keeps the significant lines before it;
* a signature file loads as the text it holds, read as UTF-8;
* a bundled set (`LoadsBundled`) counts one, unless the name's base is no bundled set, or is a
  JDK set named without a version and without a hint;
* asking whether signatures are loaded answers true exactly when some are counted or the policy
  forbids internal runtime classes, except for the engine that resolves no signatures, which
  always answers false.

`signatureLoading_counts` gathers the four for every deterministic engine, whatever its kind and
state.
-/

namespace ApiAudit

namespace Engine

variable {t : FileTree} {e : Engine}

/-! ## One call -/

/-- A call with as many arguments as the operation's parameters is never refused for its
count. -/
theorem arityFault_params (k : Kind) (m : Method) : arityFault k m m.params.length = none := by
  simp [arityFault]

/-- **A deterministic engine without planned failures**, called with the right number of
arguments, records the call and does the operation's work. -/
theorem call_deterministic (hb : e.behaviour = none) (hp : e.planned = []) {m : Method}
    {args : List Value} (harity : arityFault e.kind m args.length = none) :
    e.call t m args = perform t (e.record m (recordedArg m args)) m args := by
  simp [call, hb, harity, plannedFor, record, hp]

/-! ## Signature texts -/

/-- **How a signature text loads** into an engine, from an origin: when every significant line
is a signature, the call answers and the count grows by the number of significant lines;
otherwise the call fails with the first significant line that is none, named by its number from
one and its trimmed text, and the count grows by the significant lines before it. -/
def LoadsText (e : Engine) (origin text : String) (reply : Reply) : Prop :=
  ((∀ raw ∈ Text.splitLines text, Signature.significant raw → Signature.Syntax (Text.trim raw).toList) ∧
    reply.result = .ok .null ∧
    reply.engine.signatureCount = e.signatureCount + (Text.splitLines text).countP Signature.significant) ∨
  ∃ pre raw post, Text.splitLines text = pre ++ raw :: post ∧
    (∀ r ∈ pre, Signature.significant r → Signature.Syntax (Text.trim r).toList) ∧
    Signature.significant raw ∧ ¬ Signature.Syntax (Text.trim raw).toList ∧
    reply.result = .error (invalidLine origin (pre.length + 1) (Text.trim raw)) ∧
    reply.engine.signatureCount = e.signatureCount + pre.countP Signature.significant

/-- **Loading a text loads it as `LoadsText` says**, whatever the text: the counting loop is
read off `Signature.checkText_finds`, its first bad line becoming the failure. -/
theorem loadText_loads (e : Engine) (origin text : String) :
    LoadsText e origin text ⟨(loadText e origin text).1, [],
      match (loadText e origin text).2 with | some f => .error f | none => .ok .null⟩ := by
  have hfinds := Signature.checkText_finds text
  unfold loadText
  cases hcheck : Signature.checkText text with
  | counted n =>
    rw [hcheck] at hfinds
    obtain ⟨hall, hn⟩ := hfinds
    exact Or.inl ⟨hall, rfl, by simp [hn]⟩
  | badLine n i line =>
    rw [hcheck] at hfinds
    obtain ⟨pre, raw, post, hsplit, hpre, hsig, hbad, hn, hi, hline⟩ := hfinds
    refine Or.inr ⟨pre, raw, post, hsplit, hpre, hsig, hbad, ?_, by simp [hn]⟩
    simp only [hi, hline, Nat.add_comm]

/-! ## Bundled sets -/

/-- **How a bundled set loads**, for a name of a given base: the call fails when the base names
no bundled set, or names a JDK set while the name ends in no version and no hint is given, and
it then counts nothing.  Otherwise it counts one. -/
def LoadsBundled (e : Engine) (name : String) (hint : Value) (base : List Char) (reply : Reply) : Prop :=
  let unknown := String.ofList base ∉ Signature.bundledNames
  let unversioned := (String.ofList base).startsWith "jdk-" = true ∧ Signature.NoSuffix name ∧
    hint.truthy = false
  ((unknown ∨ unversioned) ∧
      reply.result = .error (if unknown then invalidBundled name else needsVersion name) ∧
      reply.engine.signatureCount = e.signatureCount) ∨
    (¬ (unknown ∨ unversioned) ∧ reply.result = .ok .null ∧
      reply.engine.signatureCount = e.signatureCount + 1)

/-- **The base a name refers to decides a bundled load.** -/
theorem loadBundled_loads (name : String) (hint : Value) {base : List Char}
    (hbase : Signature.BaseOf name.toList base) :
    LoadsBundled e name hint base
      (match loadBundled e (.str name) hint with
        | .ok e' => ⟨e', [], .ok .null⟩
        | .error f => ⟨e, [], .error f⟩) := by
  by_cases hlast : name.toList.getLast? = some '\n'
  · -- both the base the name refers to and the one computed keep the line feed last
    have hunknown : String.ofList base ∉ Signature.bundledNames := by
      apply Signature.not_mem_bundledNames
      rw [String.toList_ofList, hbase.eq_of_getLast hlast, hlast]
    have hcomputed : Signature.bundledBase name ∉ Signature.bundledNames :=
      Signature.not_mem_bundledNames (Signature.bundledBase_getLast hlast)
    exact Or.inl ⟨Or.inl hunknown, by simp [loadBundled, hcomputed, hunknown], by simp [loadBundled, hcomputed]⟩
  · -- the computed base is the base the name refers to, and it equals the name exactly when the
    -- name carries no version
    have hcond : ((String.ofList base).startsWith "jdk-" && String.ofList base == name &&
        !hint.truthy) = true ↔
        (String.ofList base).startsWith "jdk-" = true ∧ Signature.NoSuffix name ∧ hint.truthy = false := by
      rw [← hbase.eq_iff]
      simp only [Bool.and_eq_true, beq_iff_eq, Bool.not_eq_true', and_assoc]
    simp only [LoadsBundled, loadBundled, Signature.bundledBase_of_base hlast hbase]
    by_cases hknown : String.ofList base ∈ Signature.bundledNames
    · have hin : (!Signature.bundledNames.contains (String.ofList base)) = false := by simpa using hknown
      by_cases hjdk : (String.ofList base).startsWith "jdk-" = true ∧ Signature.NoSuffix name ∧
          hint.truthy = false
      · simp only [hin, hcond.mpr hjdk, Bool.false_eq_true, if_false, if_true]
        exact Or.inl ⟨Or.inr hjdk, by simp [hknown], trivial⟩
      · simp only [hin, Bool.false_eq_true, if_false, hcond, hjdk]
        exact Or.inr ⟨by simp [hknown], trivial, trivial⟩
    · have hin : (!Signature.bundledNames.contains (String.ofList base)) = true := by simpa using hknown
      simp only [hin, if_true]
      exact Or.inl ⟨Or.inl hknown, by simp [hknown], trivial⟩

/-! ## Whether signatures are loaded -/

/-- **Whether signatures are loaded** is true exactly when the engine resolves signatures at
all, and some are counted or the policy forbids internal runtime classes. -/
theorem reportsSignatures_truthy (e : Engine) :
    e.reportsSignatures.truthy = true ↔
      e.kind ≠ .noSignatures ∧
        (0 < e.signatureCount ∨ e.policy.internalRuntimeForbidden.truthy = true) := by
  unfold reportsSignatures
  split
  · next hk => simp [hk, Value.truthy]
  · next hk =>
    have hresolves : e.kind ≠ .noSignatures := hk
    by_cases hcount : 0 < e.signatureCount
    · simp [hresolves, hcount, Value.truthy]
    · simp [hresolves, hcount]

/-! ## Loading into a deterministic engine -/

/-- **What loading signatures does** to an engine, for every text, signature file, bundled name
and hint. -/
def LoadsSignatures (t : FileTree) (e : Engine) : Prop :=
  (∀ text, LoadsText e "inline signatures" text (e.call t .loadInlineSignatures [.str text])) ∧
  (∀ path text, readText t path = .ok text →
    LoadsText e path text (e.call t .loadSignatureFile [.str path])) ∧
  (∀ name hint base, Signature.BaseOf name.toList base →
    LoadsBundled e name hint base (e.call t .loadBundledSignatures [.str name, hint])) ∧
  ∃ v, (e.call t .hasAnySignaturesLoaded []).result = .ok v ∧
    (v.truthy = true ↔ e.kind ≠ .noSignatures ∧
      (0 < e.signatureCount ∨ e.policy.internalRuntimeForbidden.truthy = true))

/-- **Loading signatures into a deterministic engine**, of any kind and in any state, without
planned failures: texts and files count their significant lines up to the first that is no
signature, bundled sets count one unless refused, and the engine reports signatures loaded
exactly when some are counted or internal runtime classes are forbidden. -/
theorem signatureLoading_counts (t : FileTree) (e : Engine) (hb : e.behaviour = none)
    (hp : e.planned = []) : LoadsSignatures t e := by
  refine ⟨fun text => ?_, fun path text hread => ?_, fun name hint base hbase => ?_, ?_⟩
  · rw [call_deterministic hb hp (arityFault_params _ _)]
    exact loadText_loads _ _ text
  · rw [call_deterministic hb hp (arityFault_params _ _)]
    simp only [perform, List.headD, hread]
    exact loadText_loads _ _ text
  · rw [call_deterministic hb hp (arityFault_params _ _)]
    exact loadBundled_loads name hint hbase
  · rw [call_deterministic hb hp (arityFault_params _ _)]
    exact ⟨_, rfl, reportsSignatures_truthy _⟩

/-- The engine a named factory builds: recording, with the default policy. -/
def freshRecording : Engine := { kind := .recording, policy := {} }

theorem freshRecording_loadsSignatures :
    freshRecording.behaviour = none ∧ freshRecording.planned = [] ∧
      LoadsSignatures FileTree.initial freshRecording :=
  ⟨rfl, rfl, signatureLoading_counts FileTree.initial freshRecording rfl rfl⟩

end Engine

end ApiAudit
