import ApiAudit.Config.Basic
import ApiAudit.Classpath
import ApiAudit.Data.Value.Text

/-!
# Config/Resolve — from raw front-end values to a run configuration

The command line and the build task hand over **raw values**: a dictionary whose entries may be
missing, null, or of the wrong type.  Reading them:

* a **text list** (`textList`) accepts a text (as a one-item list) or a list of texts, may cut
  each item at a separator, trims the parts and drops blank ones; anything else is the error
  `config.invalid`;
* a **switch** (`switch`) is a boolean, null or missing meaning its default;
* the **classes directory** must be a non-blank text (`classes.dir_missing`); `~` and variables
  are expanded and it is made absolute.

Patterns keep their first occurrence; no include pattern means `**/*.class`.  Without any
signature source, and unless internal runtime classes are forbidden, a configuration is refused
(`signatures.none`), with a hint that names the front end's own parameters.

`resolveCommandLine` reads the directory first, then the switches, the bundled names (cut at
commas, without version hints) and the signature files; `resolveTask` reads the directory, the
switches, the target version (any non-text is written as its text), the inline signatures
(joined, each line ending in a line feed), the bundled names (with the target version) and the
signature files.  Both then read the classpath, includes, excludes and suppressions, and last
turn the classpath into roots.
-/

namespace ApiAudit.Config

/-- The error of a raw value that is no text list. -/
def notAList (key : String) : Failure :=
  .config "config.invalid" s!"'{key}' must be a list of strings" (some (Value.obj [("key", .str key)]))

/-- The error of a text list with a non-text item. -/
def notOnlyTexts (key : String) : Failure :=
  .config "config.invalid" s!"'{key}' must contain only strings" (some (Value.obj [("key", .str key)]))

/-- The error of a switch that is no boolean. -/
def notASwitch (key : String) : Failure :=
  .config "config.invalid" s!"'{key}' must be a boolean" (some (Value.obj [("key", .str key)]))

/-- The error of a missing classes directory. -/
def missingDirectory (key : String) : Failure :=
  .config "classes.dir_missing" s!"Missing '{key}' property: directory with class files is required"

/-- The error of a configuration without signatures; `hint` names the parameters. -/
def noSignatures (hint : String) : Failure :=
  .config "signatures.none" s!"No API signatures found; use {hint} to define those!"

/-- The parts of one text: cut at `sep` when given, trimmed, blank parts dropped. -/
def parts (sep : Option String) (s : String) : List String :=
  let pieces := match sep with
    | some sp => (Classpath.cutAt sp.toList s.toList).map String.ofList
    | none => [s]
  (pieces.map Text.trim).filter (!·.isEmpty)

/-- **Reads a text list.** -/
def textList (raw : Value) (key : String) (sep : Option String := none) :
    Except Failure (List String) :=
  match raw.field key with
  | .null => .ok []
  | .str s => .ok (parts sep s)
  | .list items =>
    items.foldlM (fun acc item =>
      match item with
      | .str s => .ok (acc ++ parts sep s)
      | _ => .error (notOnlyTexts key)) []
  | _ => .error (notAList key)

/-- **Reads a switch.** -/
def switch (raw : Value) (key : String) (dflt : Bool := false) : Except Failure Bool :=
  match raw.field key with
  | .null => .ok dflt
  | .bool b => .ok b
  | _ => .error (notASwitch key)

/-- **Reads the classes directory.** -/
def classesDirectory (env : Environment) (raw : Value) (key : String) : Except Failure String :=
  match raw.field key with
  | .str s =>
    if Text.isBlankText s then .error (missingDirectory key)
    else (Classpath.normalize env s).mapError Failure.fault
  | _ => .error (missingDirectory key)

/-- Keeps the first occurrence of each item. -/
def firstOccurrences (xs : List String) : List String :=
  xs.foldl (fun acc x => if acc.contains x then acc else acc ++ [x]) []

/-- Lifts a fault of collecting sources. -/
def liftFault {α : Type} : Except Fault α → Except Failure α
  | .ok a => .ok a
  | .error f => .error (.fault f)

/-- The remaining parts of a configuration, shared by both front ends. -/
structure Patterns where
  classpath : List String
  includes : List String
  excludes : List String
  suppressions : List String

/-- Puts a configuration together and turns the classpath into roots. -/
def assemble (env : Environment) (dir : String) (pats : Patterns) (sources : Sources)
    (policy : Policy) : Except Failure RunConfig := do
  let roots ← pats.classpath.mapM fun e => Classpath.entry env (.str e)
  let includes := match firstOccurrences pats.includes with
    | [] => ["**/*.class"]
    | xs => xs
  pure { classesDirectory := dir, classpathEntries := roots.map .str, includes := includes.map .str,
         excludes := (firstOccurrences pats.excludes).map .str,
         suppressions := firstOccurrences pats.suppressions,
         sources := sources.items, policy, missingHint := sources.missingHint }

/-- Refuses a configuration without signatures. -/
def requireSignatures (sources : Sources) (policy : Policy) (hint : String) : Except Failure Unit :=
  if sources.items.isEmpty && !policy.internalRuntimeForbidden.truthy then .error (noSignatures hint)
  else .ok ()

/-- **The configuration of a command-line run.** -/
def resolveCommandLine (env : Environment) (raw : Value) : Except Failure RunConfig := do
  let dir ← classesDirectory env raw "dir"
  let allowMissing ← switch raw "allow_missing_classes"
  let allowUnresolvable ← switch raw "allow_unresolvable_signatures"
  let internal ← switch raw "internal_runtime_forbidden"
  let policy : Policy :=
    { failOnViolation := .bool true, failOnMissingClasses := .bool !allowMissing,
      failOnUnresolvableSignatures := .bool !allowUnresolvable, internalRuntimeForbidden := .bool internal,
      disableClassloadingCache := .bool false, failOnUnsupportedRuntime := .bool true }
  let names ← textList raw "bundled_signatures" (some ",")
  let s ← liftFault (names.foldlM (fun s n => s.addBundled (.str n) .null) ({} : Sources))
  let files ← textList raw "signatures_files"
  let s ← liftFault (files.foldlM (fun s p => s.addFile env (.str p)) s)
  requireSignatures s policy
    "parameters '--bundledsignatures', '--signaturesfile', and/or '--internalruntimeforbidden'"
  let classpath ← textList raw "classpath"
  let classpath ← (Classpath.split (classpath.map .str) (.str ":"))
  let includes ← textList raw "includes" (some ",")
  let excludes ← textList raw "excludes" (some ",")
  let suppressions ← textList raw "suppress_annotations" (some ",")
  assemble env dir ⟨classpath, includes, excludes, suppressions⟩ s policy

/-- **The configuration of a build-task run.** -/
def resolveTask (env : Environment) (raw : Value) : Except Failure RunConfig := do
  let dir ← classesDirectory env raw "classes_dir"
  let ignoreFailures ← switch raw "ignore_failures"
  let failOnMissing ← switch raw "fail_on_missing_classes"
  let failOnUnresolvable ← switch raw "fail_on_unresolvable_signatures"
  let internal ← switch raw "internal_runtime_forbidden"
  let disableCache ← switch raw "disable_classloading_cache"
  let failOnUnsupported ← switch raw "fail_on_unsupported_java"
  let policy : Policy :=
    { failOnViolation := .bool !ignoreFailures, failOnMissingClasses := .bool failOnMissing,
      failOnUnresolvableSignatures := .bool failOnUnresolvable, internalRuntimeForbidden := .bool internal,
      disableClassloadingCache := .bool disableCache, failOnUnsupportedRuntime := .bool failOnUnsupported }
  let target : Value := match raw.field "target_compatibility" with
    | .null => .null
    | .str t => .str t
    | v => .str v.text
  let inline ← textList raw "signatures"
  let s : Sources := {}
  let s ← if inline.isEmpty then pure s
    else liftFault (s.addInline (.str (String.join (inline.map (· ++ "\n")))))
  let names ← textList raw "bundled_signatures"
  let s ← liftFault (names.foldlM (fun s n => s.addBundled (.str n) target) s)
  let files ← textList raw "signatures_files"
  let s ← liftFault (files.foldlM (fun s p => s.addFile env (.str p)) s)
  requireSignatures s policy
    "parameters 'signatures', 'bundled_signatures', and/or 'signatures_files'"
  let classpath ← textList raw "classpath"
  let includes ← textList raw "includes"
  let excludes ← textList raw "excludes"
  let suppressions ← textList raw "suppress_annotations"
  assemble env dir ⟨classpath, includes, excludes, suppressions⟩ s policy

end ApiAudit.Config
