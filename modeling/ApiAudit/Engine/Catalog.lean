import ApiAudit.Engine.Factory
import ApiAudit.Environment
import ApiAudit.Text.Blank

/-!
# Engine/Catalog — finding an engine by its spec

An engine is named by a spec `module:object`, where the object part is a dotted path of
attributes inside the module.  `Catalog.load` checks the spec's form, finds the module and the
object in a catalog of importable objects (`Catalog`: the members of each module that can be
imported), and refuses an object that cannot be called.  The factory it returns builds the
engine only when the run asks for it, so errors of construction come later
(`Factory.construct`).  `loadFactory` loads from this library's own catalog.

`resolveSpec` picks the spec of a run: an explicit non-blank text, else the environment
variable `FORBIDDENAPIS_ENGINE`, else a configuration error.

The catalog lists the objects of this library's own modules (the names each defines or
imports, and the attributes of its types and functions) and of the built-in module; each
object is a module, a plain value, or a callable with what calling it with (context, policy,
logger) gives.
-/

namespace ApiAudit.Engine

/-- What an importable object is: a module, a plain value, or something that can be called,
with what calling it with (context, policy, logger) does; values and callables have
attributes. -/
inductive Shape where
  | module
  | value (members : List (String × Shape))
  | callable (c : Construction) (members : List (String × Shape))
  deriving Inhabited

/-- Plain values under names. -/
def plainValues (names : List String) : List (String × Shape) := names.map (·, .value [])

/-- The methods every object has; called with three arguments they all refuse them. -/
def objectMethodNames : List String :=
  ["__class__", "__delattr__", "__dir__", "__eq__", "__format__", "__ge__", "__getattribute__",
   "__gt__", "__hash__", "__init_subclass__", "__le__", "__lt__", "__ne__", "__new__",
   "__reduce__", "__reduce_ex__", "__repr__", "__setattr__", "__sizeof__", "__str__",
   "__subclasshook__"]

/-- The methods every object has, as attributes. -/
def objectMethods : List (String × Shape) :=
  objectMethodNames.map (·, .callable .refusesArguments [])

/-- The plain attributes of a function. -/
def functionValueNames : List String :=
  ["__name__", "__qualname__", "__module__", "__doc__", "__dict__", "__defaults__",
   "__kwdefaults__", "__code__", "__globals__", "__annotations__", "__closure__", "__builtins__"]

/-- **A function** that does `c` when called with three arguments.  Calling it through
`__call__` does the same; its `__init__` accepts anything and gives nothing. -/
def function (c : Construction) : Shape :=
  .callable c ([("__call__", .callable c []), ("__init__", .callable .buildsIncomplete [])] ++
    plainValues functionValueNames ++ objectMethods)

/-- A function that refuses three arguments. -/
def refuser : Shape := function .refusesArguments

/-- A function that accepts three arguments and gives something with no engine operation. -/
def nonEngine : Shape := function .buildsIncomplete

/-- A function that fails with an attribute error when called with three arguments. -/
def missingAttribute (message : String) : Shape := function (.fails ⟨.attribute, message⟩)

/-- The plain attributes of a class. -/
def classValueNames : List String := ["__name__", "__qualname__", "__module__", "__doc__", "__dict__"]

/-- **A class**: calling it does `c`, its `__init__` called with three arguments does `init`,
and `own` are the attributes it defines or inherits beyond those every class has. -/
def klass (c init : Construction) (own : List (String × Shape)) : Shape :=
  .callable c (own ++ [("__init__", function init), ("__call__", function c)] ++
    plainValues classValueNames ++ objectMethods)

/-- Typing forms and library types that refuse three arguments. -/
def refusing (names : List String) : List (String × Shape) := names.map (·, refuser)

/-- The attributes of a frozen record type beyond its fields. -/
def recordValues : List (String × Shape) :=
  plainValues ["__dataclass_fields__", "__dataclass_params__", "__match_args__"]

/-- **A record type**: constructing it takes three arguments when `takesThree`, and its fields
with defaults are plain class attributes. -/
def recordType (takesThree : Bool) (defaults : List String) : Shape :=
  let c := if takesThree then Construction.buildsIncomplete else .refusesArguments
  klass c c (plainValues defaults ++ recordValues)

/-- The fault of building an engine through an unbound engine method that takes three
arguments: the context has no call record. -/
def noCallRecord : Fault := ⟨.attribute, "'ClassLoadingContext' object has no attribute 'calls'"⟩

/-- The members every engine class has, by name. -/
def engineClassMembers : List (String × Shape) :=
  [("runtime_supported", .value []),
   ("is_runtime_supported", refuser),
   ("register_suppress_annotation", refuser),
   ("load_bundled_signatures", function (.fails noCallRecord)),
   ("load_inline_signatures", refuser),
   ("load_signature_file", refuser),
   ("_parse", refuser),
   ("has_any_signatures_loaded", refuser),
   ("register_class_file", refuser),
   ("execute", refuser),
   ("call_names", refuser)]

/-- An engine class of a kind. -/
def engineClass (k : Kind) : Shape := klass (.builds k) .buildsIncomplete engineClassMembers

/-- The engine contract type: it cannot be built, and only its three-argument operation can be
called. -/
def contractClass : Shape :=
  klass .refusesArguments
    (.fails ⟨.attribute, "type object 'ClassLoadingContext' has no attribute '_is_protocol'"⟩)
    (Method.all.map fun m =>
      (m.name, if m == .loadBundledSignatures then nonEngine else refuser))

/-- The error types of the library: records of code, message and data. -/
def errorTypes : List String :=
  ["ForbiddenApisError", "ConfigurationError", "ResourceError", "SignatureParseError",
   "ViolationError", "EngineFault", "UnsupportedRuntimeError"]

/-- An error type of the library. -/
def errorType : Shape := recordType true ["data"]

/-- The error types of the task front end: records of task, message and code. -/
def taskErrorTypes : List String :=
  ["TaskFailure", "InvalidUserDataError", "ResourceFailure", "TaskExecutionError"]

/-- An error type of the task front end. -/
def taskErrorType : Shape := recordType true ["code"]

/-- The classpath context type. -/
def contextClass : Shape :=
  klass .refusesArguments .refusesArguments
    (plainValues ["roots", "closed"] ++ refusing ["__enter__", "__exit__", "find_resource", "_read_entry", "close"] ++
      [("_read_from_archive", missingAttribute "'PolicyFlags' object has no attribute 'seek'")])

/-- The run-description types. -/
def policyType : Shape :=
  recordType true ["fail_on_violation", "fail_on_missing_classes", "fail_on_unresolvable_signatures",
    "internal_runtime_forbidden", "disable_classloading_cache", "fail_on_unsupported_runtime"]

/-- The type of run configurations. -/
def configurationType : Shape :=
  recordType true ["classpath_entries", "include_patterns", "exclude_patterns",
    "suppress_annotation_patterns", "signature_sources", "policy", "missing_version_hint"]

/-- The type of run descriptions. -/
def runContextType : Shape :=
  recordType true ["front_end", "skip_when_no_classes", "skip_when_no_signatures", "trace_path"]

/-- The type of run outcomes. -/
def outcomeType : Shape := recordType true ["message", "files_checked", "failed"]

/-- The type of bundled signature sources. -/
def bundledType : Shape :=
  klass .refusesArguments .buildsIncomplete (plainValues ["version_hint"] ++ recordValues)

/-- The type of run statuses: its members are plain plainValues. -/
def statusType : Shape :=
  klass .refusesArguments .buildsIncomplete (plainValues ["PASSED", "VIOLATIONS", "SKIPPED"])

/-- The type of glob patterns. -/
def globType : Shape := klass .refusesArguments .refusesArguments (refusing ["matches"])

/-- The audit kernel type. -/
def kernelType : Shape :=
  klass .refusesArguments .refusesArguments
    ([("run", missingAttribute "'PolicyFlags' object has no attribute 'trace_path'")] ++
      refusing ["_run", "_no_classes_message", "_class_files"])

/-- The execution driver type. -/
def driverType : Shape :=
  klass .refusesArguments .buildsIncomplete
    (refusing ["execute", "_drive"] ++
      [("_load_signatures", missingAttribute "'Logger' object has no attribute 'signature_sources'")])

/-- The signature-source collector type. -/
def aggregatorType : Shape :=
  klass .refusesArguments .refusesArguments
    (plainValues ["missing_version_hint"] ++ refusing ["__len__", "add_inline", "add_file", "sources"] ++
      [("add_bundled", missingAttribute "'PolicyFlags' object has no attribute 'strip'")])

/-- The trace emitter type. -/
def emitterType : Shape := klass .refusesArguments .buildsIncomplete (plainValues ["enabled"] ++ refusing ["emit"])

/-- The trace store type. -/
def storeType : Shape :=
  klass .refusesArguments .refusesArguments (plainValues ["path"] ++ refusing ["append", "read"])

/-- The contract store type. -/
def contractStoreType : Shape :=
  klass .refusesArguments .refusesArguments
    (plainValues ["schemas_dir"] ++ refusing ["load", "list_schema_names", "_get", "check_schemas"] ++
      [("validate", missingAttribute "'ClassLoadingContext' object has no attribute '_get'"),
       ("validate_yaml_file", missingAttribute "'Logger' object has no attribute 'read_text'"),
       ("validate_jsonl_file", missingAttribute "'Logger' object has no attribute 'open'")])

/-- The task type. -/
def taskType : Shape :=
  klass .refusesArguments .refusesArguments
    ([("include", missingAttribute "'ClassLoadingContext' object has no attribute 'includes'"),
      ("exclude", missingAttribute "'ClassLoadingContext' object has no attribute 'excludes'")] ++
      refusing ["set_includes", "set_excludes", "_project_path", "class_files", "to_properties",
        "check_forbidden", "_translate"])

/-- The plain attributes of every module. -/
def moduleValues : List (String × Shape) :=
  plainValues ["__name__", "__doc__", "__package__", "__loader__", "__spec__"]

/-- The plain attributes of a module read from a file. -/
def fileModuleValues : List (String × Shape) :=
  moduleValues ++ plainValues ["__file__", "__cached__", "__builtins__"]

/-- Names of library modules and of typing forms that a module imports. -/
def imported (modules : List String) (forms : List String) : List (String × Shape) :=
  [("annotations", .value [])] ++ modules.map (·, .module) ++ refusing forms

/-- The error types under their names. -/
def errorsNamed (names : List String) : List (String × Shape) := names.map (·, errorType)

/-- The members of the errors module. -/
def errorsModule : List (String × Shape) :=
  imported [] ["dataclass", "Any"] ++ errorsNamed errorTypes

/-- The members of the run-description module. -/
def runtimeContextModule : List (String × Shape) :=
  imported [] ["dataclass", "field", "Enum", "Path", "Any", "Optional", "Tuple", "Union",
    "SignatureSource"] ++
  [("BundledSignatures", bundledType), ("InlineSignatures", refuser), ("SignaturesFile", refuser),
   ("PolicyFlags", policyType), ("RunConfiguration", configurationType),
   ("RuntimeContext", runContextType), ("RunStatus", statusType), ("RunOutcome", outcomeType)]

/-- The members of the deterministic-engines module. -/
def testingModule : List (String × Shape) :=
  imported ["logging", "re"] ["Path", "Any", "List", "Optional", "Tuple"] ++
  plainValues ["_SIGNATURE_RE", "_VERSIONED_RE", "BUNDLED_NAMES", "CLASS_MAGIC"] ++
  [("ClassLoadingContext", contextClass), ("PolicyFlags", policyType)] ++
  errorsNamed ["SignatureParseError", "ViolationError"] ++
  Kind.all.map fun k => (k.className, engineClass k)

/-- The members of the engine-contract module. -/
def baseModule : List (String × Shape) :=
  imported ["logging"] ["Path", "Callable", "Optional", "Protocol", "EngineFactory"] ++
  [("ENGINE_METHODS", .value []), ("ClassLoadingContext", contextClass), ("PolicyFlags", policyType),
   ("Engine", contractClass)]

/-- The members of the engine-loading module. -/
def loadingModule : List (String × Shape) :=
  imported ["importlib", "inspect", "logging", "os"]
    ["Any", "Optional", "EngineFactory", "_import_object", "_check_engine", "load_engine_factory",
     "resolve_engine_spec"] ++
  [("ENGINE_ENV_VAR", .value []), ("ENGINE_METHODS", .value []), ("ClassLoadingContext", contextClass),
   ("PolicyFlags", policyType), ("Engine", contractClass)] ++ errorsNamed ["ConfigurationError"]

/-- The members of the core package that are not modules. -/
def corePackage : List (String × Shape) :=
  [("__path__", .value []), ("__all__", .value [])] ++ errorsNamed errorTypes ++
  [("BundledSignatures", bundledType), ("InlineSignatures", refuser), ("SignaturesFile", refuser),
   ("PolicyFlags", policyType), ("RunConfiguration", configurationType),
   ("RuntimeContext", runContextType), ("RunStatus", statusType), ("RunOutcome", outcomeType),
   ("GlobPattern", globType), ("ClassLoadingContext", contextClass),
   ("SignatureSourceAggregator", aggregatorType), ("ExecutionDriver", driverType),
   ("Kernel", kernelType)] ++
  refusing ["resolve_file_set", "build_classpath", "resolve_cli_configuration",
    "resolve_task_configuration"]

/-- The members of the classpath module. -/
def classpathModule : List (String × Shape) :=
  imported ["logging", "os", "zipfile"] ["Path", "Dict", "Iterable", "List", "Optional", "Tuple",
    "_normalize_path", "to_classpath_entry", "build_classpath", "split_classpath"] ++
  [("log", .value []), ("ClassLoadingContext", contextClass)] ++ errorsNamed ["ConfigurationError"]

/-- The members of the driver module. -/
def driverModule : List (String × Shape) :=
  imported ["logging"] ["Path", "Any", "Callable", "Optional", "Sequence"] ++
  plainValues ["TYPE_CHECKING", "log", "engine_log", "UNSUPPORTED_RUNTIME_MESSAGE",
    "NO_SIGNATURES_MESSAGE", "NO_SIGNATURES_SKIP"] ++
  errorsNamed ["ConfigurationError", "EngineFault", "ForbiddenApisError", "ResourceError",
    "UnsupportedRuntimeError", "ViolationError"] ++
  [("TraceEmitter", emitterType), ("ClassLoadingContext", contextClass),
   ("BundledSignatures", bundledType), ("InlineSignatures", refuser), ("SignaturesFile", refuser),
   ("RunConfiguration", configurationType), ("RunOutcome", outcomeType),
   ("RunStatus", statusType), ("RuntimeContext", runContextType), ("ExecutionDriver", driverType)]

/-- The members of the file-set module. -/
def filesetModule : List (String × Shape) :=
  imported ["re"] ["lru_cache", "Path", "Iterable", "List", "Sequence", "Set", "Tuple", "_split",
    "_segment_regex", "_match", "_compile", "_iter_files", "resolve_file_set"] ++
  plainValues ["DEFAULT_INCLUDE", "DEFAULT_EXCLUDES"] ++ [("GlobPattern", globType)]

/-- The members of the kernel module. -/
def kernelModule : List (String × Shape) :=
  imported ["logging"] ["Tuple", "build_classpath", "resolve_file_set"] ++
  plainValues ["TYPE_CHECKING", "NO_SIGNATURES_MESSAGE", "NO_SIGNATURES_SKIP", "log"] ++
  errorsNamed ["ConfigurationError", "ForbiddenApisError"] ++
  [("TraceEmitter", emitterType), ("TraceStoreJSONL", storeType), ("ExecutionDriver", driverType),
   ("RunConfiguration", configurationType), ("RunOutcome", outcomeType),
   ("RunStatus", statusType), ("RuntimeContext", runContextType), ("Kernel", kernelType)]

/-- The members of the configuration module. -/
def resolverModule : List (String × Shape) :=
  imported ["os"] ["Path", "Any", "List", "Mapping", "Optional", "Tuple", "split_classpath",
    "to_classpath_entry", "_string_list", "_ordered_set", "_classes_directory",
    "_require_signatures", "_build", "resolve_cli_configuration", "resolve_task_configuration"] ++
  [("DEFAULT_INCLUDE", .value []), ("PolicyFlags", policyType),
   ("RunConfiguration", configurationType), ("SignatureSourceAggregator", aggregatorType),
   ("_flag", missingAttribute "'ClassLoadingContext' object has no attribute 'get'")] ++
  errorsNamed ["ConfigurationError"]

/-- The members of the signature-sources module. -/
def signaturesModule : List (String × Shape) :=
  imported ["os"] ["Path", "List", "Optional", "Set", "Tuple", "SignatureSource"] ++
  [("BundledSignatures", bundledType), ("InlineSignatures", refuser), ("SignaturesFile", refuser),
   ("SignatureSourceAggregator", aggregatorType)]

/-- The members of the command-line module. -/
def commandLineModule : List (String × Shape) :=
  imported ["argparse", "json", "logging", "sys"]
    ["version", "Path", "Any", "Dict", "List", "Optional", "resolve_cli_configuration",
     "load_engine_factory", "resolve_engine_spec", "configure_logging", "_version",
     "exit_code_for", "_format_cli_error", "_raw_from_args", "cmd_check", "build_parser", "main"] ++
  [("PackageNotFoundError", klass .buildsIncomplete .refusesArguments []),
   ("Kernel", kernelType), ("RuntimeContext", runContextType)] ++
  errorsNamed ["ConfigurationError", "ForbiddenApisError", "UnsupportedRuntimeError"] ++
  plainValues ["ENGINE_ENV_VAR", "log", "EXIT_SUCCESS", "EXIT_VIOLATION", "EXIT_ERR_CMDLINE",
    "EXIT_UNSUPPORTED_JDK", "EXIT_ERR_OTHER", "_FILESYSTEM_CONFIG_CODES"]

/-- The members of the contract-store module. -/
def contractStoreModule : List (String × Shape) :=
  imported ["json", "jsonschema", "yaml"]
    ["dataclass", "Path", "Any", "Dict", "List", "Tuple", "Registry", "Resource"] ++
  [("DRAFT202012", .value []), ("SchemaRef", recordType false []),
   ("ContractStore", contractStoreType)]

/-- The members of the logging-setup module. -/
def loggingModule : List (String × Shape) :=
  imported ["logging"] ["Path", "Optional", "configure_logging"] ++
  plainValues ["DEFAULT_LOG_FORMAT", "FILE_LOG_FORMAT", "DEFAULT_DATE_FORMAT"]

/-- The members of the resources module. -/
def resourcesModule : List (String × Shape) :=
  imported [] ["Path", "_package_dir", "contracts_dir", "contracts_schemas_dir"]

/-- The members of the task module. -/
def taskModule : List (String × Shape) :=
  imported ["logging", "os"] ["Path", "Any", "Dict", "Iterable", "List", "Optional", "Tuple",
    "Union", "PathLike", "resolve_file_set", "resolve_task_configuration", "EngineFactory",
    "load_engine_factory", "resolve_engine_spec"] ++
  plainValues ["NO_SIGNATURES_SKIP", "DEFAULT_INCLUDE", "log", "MISSING_TARGET_WARNING"] ++
  errorsNamed ["ConfigurationError", "ForbiddenApisError", "ResourceError", "SignatureParseError"] ++
  taskErrorTypes.map (·, taskErrorType) ++
  [("Kernel", kernelType), ("RunOutcome", outcomeType), ("RunStatus", statusType),
   ("RuntimeContext", runContextType), ("CheckForbiddenApis", taskType)]

/-- The members of the task errors module. -/
def taskErrorsModule : List (String × Shape) :=
  imported [] ["dataclass", "Optional"] ++ taskErrorTypes.map (·, taskErrorType)

/-- The members of the task runner module. -/
def runnerModule : List (String × Shape) :=
  imported ["argparse", "logging", "sys", "yaml"]
    ["dataclass", "Path", "Any", "Dict", "List", "Optional", "Sequence", "configure_logging",
     "contracts_schemas_dir", "_contracts", "load_build_file", "tasks_from_build_file",
     "run_tasks", "main"] ++
  plainValues ["log", "BUILD_FILE_SCHEMA", "_LIST_PROPERTIES", "_BOOL_PROPERTIES"] ++
  [("ContractStore", contractStoreType), ("RunStatus", statusType),
   ("CheckForbiddenApis", taskType), ("TaskFailure", taskErrorType),
   ("TaskResult", recordType true ["message"])] ++ errorsNamed ["ConfigurationError"]

/-- The members of the trace package. -/
def tracePackage : List (String × Shape) :=
  [("__path__", .value []), ("__all__", .value []), ("TraceEmitter", emitterType),
   ("TraceStoreJSONL", storeType)]

/-- The members of the trace emitter module. -/
def emitterModule : List (String × Shape) :=
  imported [] ["datetime", "timezone", "Any", "Optional"] ++
  [("TraceStoreJSONL", storeType), ("TraceEmitter", emitterType)]

/-- The members of the trace store module. -/
def storeModule : List (String × Shape) :=
  imported ["json"] ["Path", "Any", "Iterator"] ++ [("TraceStoreJSONL", storeType)]

/-- The built-in exception types that refuse three arguments. -/
def strictExceptions : List String :=
  ["BaseExceptionGroup", "ExceptionGroup", "UnicodeDecodeError", "UnicodeEncodeError",
   "UnicodeTranslateError"]

/-- The built-in exception types that take any arguments. -/
def lenientExceptions : List String :=
  ["ArithmeticError", "AssertionError", "AttributeError", "BaseException", "BlockingIOError",
   "BrokenPipeError", "BufferError", "BytesWarning", "ChildProcessError",
   "ConnectionAbortedError", "ConnectionError", "ConnectionRefusedError",
   "ConnectionResetError", "DeprecationWarning", "EOFError", "EncodingWarning",
   "EnvironmentError", "Exception", "FileExistsError", "FileNotFoundError",
   "FloatingPointError", "FutureWarning", "GeneratorExit", "IOError", "ImportError",
   "ImportWarning", "IndentationError", "IndexError", "InterruptedError", "IsADirectoryError",
   "KeyError", "KeyboardInterrupt", "LookupError", "MemoryError", "ModuleNotFoundError",
   "NameError", "NotADirectoryError", "NotImplementedError", "OSError", "OverflowError",
   "PendingDeprecationWarning", "PermissionError", "ProcessLookupError", "RecursionError",
   "ReferenceError", "ResourceWarning", "RuntimeError", "RuntimeWarning", "StopAsyncIteration",
   "StopIteration", "SyntaxError", "SyntaxWarning", "SystemError", "SystemExit", "TabError",
   "TimeoutError", "TypeError", "UnboundLocalError", "UnicodeError", "UnicodeWarning",
   "UserWarning", "ValueError", "Warning", "ZeroDivisionError"]

/-- The built-in functions and types that refuse three arguments. -/
def strictBuiltins : List String :=
  ["__build_class__", "__import__", "__loader__", "abs", "aiter", "all", "anext", "any",
   "ascii", "bin", "bool", "breakpoint", "bytearray", "bytes", "callable", "chr", "classmethod",
   "compile", "complex", "copyright", "credits", "delattr", "dict", "dir", "divmod",
   "enumerate", "eval", "exec", "exit", "filter", "float", "format", "frozenset", "getattr",
   "globals", "hasattr", "hash", "help", "hex", "id", "input", "int", "isinstance",
   "issubclass", "iter", "len", "license", "list", "locals", "map", "max", "memoryview", "min",
   "next", "object", "oct", "open", "ord", "pow", "quit", "range", "repr", "reversed", "round",
   "set", "setattr", "sorted", "staticmethod", "str", "sum", "super", "tuple", "type", "vars",
   "zip"]

/-- The members of the built-in module. -/
def builtinsModule : List (String × Shape) :=
  plainValues ["Ellipsis", "False", "None", "NotImplemented", "True", "__debug__", "__doc__",
    "__name__", "__package__", "__spec__"] ++
  lenientExceptions.map (·, klass .buildsIncomplete .refusesArguments []) ++
  strictExceptions.map (·, klass .refusesArguments .refusesArguments []) ++
  [("print", nonEngine), ("property", klass .buildsIncomplete .refusesArguments []),
   ("slice", klass .buildsIncomplete .refusesArguments [])] ++
  refusing strictBuiltins

/-- Adds the plain attributes of a module read from a file. -/
def fromFile (members : List (String × Shape)) : List (String × Shape) :=
  members ++ fileModuleValues

/-- Adds the plain attributes of a package without a file of its own. -/
def namespacePackage : List (String × Shape) := moduleValues ++ [("__path__", .value [])]

/-- The importable modules and their members.  A module is also a member of its parent. -/
def modules : List (String × List (String × Shape)) :=
  [("forbiddenapis", namespacePackage),
   ("forbiddenapis.cli", namespacePackage),
   ("forbiddenapis.cli.main", fromFile commandLineModule),
   ("forbiddenapis.contract_store", fromFile contractStoreModule),
   ("forbiddenapis.contracts", fromFile [("__path__", .value [])]),
   ("forbiddenapis.core", fromFile corePackage),
   ("forbiddenapis.core.classpath", fromFile classpathModule),
   ("forbiddenapis.core.driver", fromFile driverModule),
   ("forbiddenapis.core.errors", fromFile errorsModule),
   ("forbiddenapis.core.fileset", fromFile filesetModule),
   ("forbiddenapis.core.kernel", fromFile kernelModule),
   ("forbiddenapis.core.resolver", fromFile resolverModule),
   ("forbiddenapis.core.runtime_context", fromFile runtimeContextModule),
   ("forbiddenapis.core.signatures", fromFile signaturesModule),
   ("forbiddenapis.engine", namespacePackage),
   ("forbiddenapis.engine.base", fromFile baseModule),
   ("forbiddenapis.engine.loading", fromFile loadingModule),
   ("forbiddenapis.engine.testing", fromFile testingModule),
   ("forbiddenapis.logging_utils", fromFile loggingModule),
   ("forbiddenapis.resources", fromFile resourcesModule),
   ("forbiddenapis.task", namespacePackage),
   ("forbiddenapis.task.check_forbidden_apis", fromFile taskModule),
   ("forbiddenapis.task.errors", fromFile taskErrorsModule),
   ("forbiddenapis.task.runner", fromFile runnerModule),
   ("forbiddenapis.trace", fromFile tracePackage),
   ("forbiddenapis.trace.trace_emitter", fromFile emitterModule),
   ("forbiddenapis.trace.trace_store_jsonl", fromFile storeModule),
   ("builtins", builtinsModule)]

/-- The members of a module, if it can be imported. -/
def membersOf? (module : String) : Option (List (String × Shape)) :=
  (modules.find? (·.1 == module)).map (·.2)

/-- **A catalog of importable objects**: the members of each module that can be imported. -/
structure Catalog where
  members? : String → Option (List (String × Shape))

/-- This library's own catalog: its modules and the built-in module. -/
def library : Catalog := ⟨membersOf?⟩

/-- The attributes of an object; a module's are found through the catalog by name. -/
def Shape.members : Shape → List (String × Shape)
  | .module => []
  | .value members => members
  | .callable _ members => members

/-- The attribute of an object under a name. -/
def Shape.attr? (s : Shape) (n : String) : Option Shape := (s.members.find? (·.1 == n)).map (·.2)

/-- Follows attribute names from an object. -/
def Shape.follow : Shape → List String → Option Shape
  | s, [] => some s
  | s, n :: rest => (s.attr? n).bind fun m => m.follow rest

namespace Catalog

/-- **Follows a dotted attribute path** from a module: a name is a submodule when one of that
name can be imported, else a member of the module; past the module, names are attributes. -/
def follow (c : Catalog) (module : String) : List String → Option Shape
  | [] => some .module
  | n :: rest =>
    let sub := module ++ "." ++ n
    if (c.members? sub).isSome then c.follow sub rest
    else ((c.members? module).bind fun ms => (ms.find? (·.1 == n)).map (·.2)).bind fun shape =>
      shape.follow rest

end Catalog

/-- A spec that is no text, or a blank one. -/
def blankSpec : Failure := .config "engine.invalid" "engine must be a non-empty 'module:object' spec"

/-- A spec of the wrong form. -/
def badSpec (spec : String) : Failure :=
  .config "engine.invalid" "engine spec must be 'module:object'" (some (Value.obj [("engine", .str spec)]))

/-- Cuts a text at its first colon. -/
def cutAtColon : List Char → Option (List Char × List Char)
  | [] => none
  | ':' :: rest => some ([], rest)
  | c :: rest => (cutAtColon rest).map fun (a, b) => (c :: a, b)

/-- Splits a dotted path. -/
def dotted (s : String) : List String := (s.toList.splitOn '.').map String.ofList

namespace Catalog

/-- **Finds the object a spec of the right form names**: its module must be importable, its
path must lead to an object, and the object must be callable. -/
def find (c : Catalog) (s module attr : String) : Except Failure Factory :=
  if (c.members? module).isNone then
    .error (.config "engine.not_found" s!"Failed to import engine module: {module}"
      (some (Value.obj [("module", .str module)])))
  else
    match c.follow module (dotted attr) with
    | none =>
      .error (.config "engine.not_found" s!"Engine object not found in module: {s}"
        (some (Value.obj [("module", .str module), ("attr", .str attr)])))
    | some (.callable k _) => .ok (.named s k)
    | some _ =>
      .error (.config "engine.invalid" s!"Engine object is not callable: {s}"
        (some (Value.obj [("engine", .str s)])))

/-- **Finds the factory a spec names** in a catalog: a non-blank text, trimmed, of the form
`module:object` with both parts non-empty. -/
def load (c : Catalog) (spec : Value) : Except Failure Factory :=
  match spec with
  | .str raw =>
    if Text.isBlankText raw then .error blankSpec
    else
      let s := Text.trim raw
      match cutAtColon s.toList with
      | none => .error (badSpec s)
      | some (m, a) =>
        if m.isEmpty || a.isEmpty then .error (badSpec s)
        else c.find s (String.ofList m) (String.ofList a)
  | _ => .error blankSpec

end Catalog

/-- **Finds the factory a spec names** in this library's catalog. -/
def loadFactory (spec : Value) : Except Failure Factory := library.load spec

/-- The environment variable that names the engine. -/
def specVariable : String := "FORBIDDENAPIS_ENGINE"

/-- **Picks the engine spec of a run.** -/
def resolveSpec (env : Environment) (explicit : Value) : Except Failure String :=
  match explicit with
  | .str s => if !Text.isBlankText s then .ok (Text.trim s) else fromEnv
  | _ => fromEnv
where
  fromEnv : Except Failure String :=
    let v := Text.trim ((env.get? specVariable).getD "")
    if v.isEmpty then
      .error (.config "engine.missing"
        s!"No scanning engine configured; pass --engine module:object or set {specVariable}")
    else .ok v

end ApiAudit.Engine
