import ApiAudit.Signature.Source

/-!
# Config/Basic — the policy and the configuration of one audit run

`Policy` holds the six switches of a run; all are off unless a front end turns them on.
`RunConfig` is the front-end independent description of a run: the classes directory, the
classpath entries (turned into roots when the run starts), the include, exclude and
suppression patterns, the signature sources and whether a bundled source lacked a version.
Include and exclude patterns are values: a run only uses the texts among them, but messages
show them all.
-/

namespace ApiAudit

/-- The switches of an audit run.  The front ends set booleans; a switch given directly may be
any value, and is on when the value is true. -/
structure Policy where
  failOnViolation : Value := .bool false
  failOnMissingClasses : Value := .bool false
  failOnUnresolvableSignatures : Value := .bool false
  internalRuntimeForbidden : Value := .bool false
  disableClassloadingCache : Value := .bool false
  failOnUnsupportedRuntime : Value := .bool false
  deriving Inhabited

/-- The description of one audit run. -/
structure RunConfig where
  classesDirectory : String
  classpathEntries : List Value := []
  includes : List Value := [.str "**/*.class"]
  excludes : List Value := []
  suppressions : List String := []
  sources : List Source := []
  policy : Policy := {}
  missingHint : Bool := false
  deriving Inhabited

end ApiAudit
