import ApiAudit.Data.Value.Text
import ApiAudit.Data.Json.Read
import ApiAudit.FileTree.Basic

/-!
# Failure — why an operation stops

Three families of failure:

* an **audit error** (`AuditError`): one of six kinds, a code such as `classes.none_found`, a
  message and optional structured data;
* a **task failure** (`TaskFailure`): a build task could not finish; it names the task and
  carries the code of the audit error behind it;
* a **fault** (`Fault`): anything else that went wrong, of a kind (`FaultKind`) with a text.
  Faults of the operating-system family (`FaultKind.isOs`) are told apart from the others
  when a run decides how to report them.

`Failure` is any of the three.  The names of the kinds (`AuditKind.className`, …) are what
answers report.
-/

namespace ApiAudit

/-- The six kinds of audit errors. -/
inductive AuditKind where
  /-- Bad or missing user input, found before any file is loaded. -/
  | configuration
  /-- A file or classpath could not be read. -/
  | resource
  /-- Malformed signature content. -/
  | signatureParse
  /-- The scan found forbidden API usage. -/
  | violation
  /-- Any other failure of the scanning engine. -/
  | engineFault
  /-- The engine cannot run on this runtime. -/
  | unsupportedRuntime
  deriving DecidableEq, Repr, Inhabited

/-- The reported name of an audit-error kind. -/
def AuditKind.className : AuditKind → String
  | .configuration => "ConfigurationError"
  | .resource => "ResourceError"
  | .signatureParse => "SignatureParseError"
  | .violation => "ViolationError"
  | .engineFault => "EngineFault"
  | .unsupportedRuntime => "UnsupportedRuntimeError"

/-- The audit-error kind of a reported name. -/
def AuditKind.ofName? : String → Option AuditKind
  | "ConfigurationError" => some .configuration
  | "ResourceError" => some .resource
  | "SignatureParseError" => some .signatureParse
  | "ViolationError" => some .violation
  | "EngineFault" => some .engineFault
  | "UnsupportedRuntimeError" => some .unsupportedRuntime
  | _ => none

/-- An audit error: kind, code, message and optional data.  Code and message are texts when
the audit raises the error; an engine may raise any value as either. -/
structure AuditError where
  kind : AuditKind
  code : Value
  message : Value
  data : Option Value := none
  deriving Inhabited

/-- An audit error with a text code and message. -/
def AuditError.make (kind : AuditKind) (code message : String) (data : Option Value := none) :
    AuditError :=
  ⟨kind, .str code, .str message, data⟩

/-- A configuration error. -/
def AuditError.config (code message : String) (data : Option Value := none) : AuditError :=
  AuditError.make .configuration code message data

/-- The text of an audit error's message. -/
def AuditError.text (e : AuditError) : String := e.message.text

/-- Whether an audit error's code equals a text. -/
def AuditError.hasCode (e : AuditError) (code : String) : Bool := e.code.equals (.str code)

/-- The kinds of build-task failures. -/
inductive TaskKind where
  /-- The task's properties are wrong. -/
  | invalidUserData
  /-- A file could not be read. -/
  | resource
  /-- The check itself failed. -/
  | execution
  deriving DecidableEq, Repr

/-- The reported name of a task-failure kind. -/
def TaskKind.className : TaskKind → String
  | .invalidUserData => "InvalidUserDataError"
  | .resource => "ResourceFailure"
  | .execution => "TaskExecutionError"

/-- A build task that could not finish: the task's name, the message and the code of the audit
error behind it, each as the task was given or the error raised it. -/
structure TaskFailure where
  kind : TaskKind
  task : Value
  message : Value
  code : Value := .null

/-- The kinds of faults. -/
inductive FaultKind where
  /-- A failure of the operating system, by its reported name (`OSError`,
  `FileNotFoundError`, `PermissionError`, `IsADirectoryError`, …). -/
  | os (name : String)
  | value
  | runtime
  | type
  | key
  | index
  | attribute
  /-- Bytes that are not UTF-8. -/
  | unicodeDecode
  /-- A text that is no JSON document. -/
  | jsonDecode
  /-- A text that is no YAML document, by the reported name of the stage that failed. -/
  | yaml (name : String)
  /-- A text holding a character that UTF-8 cannot write. -/
  | unicodeEncode
  /-- Bytes that are no readable zip archive. -/
  | badZip
  /-- A zip feature that is not supported. -/
  | notImplemented
  /-- Data that ends too early. -/
  | endOfFile
  /-- Nesting too deep to follow. -/
  | recursion
  deriving DecidableEq, Repr

namespace FaultKind

/-- The reported name of a fault kind. -/
def className : FaultKind → String
  | .os name => name
  | .value => "ValueError"
  | .runtime => "RuntimeError"
  | .type => "TypeError"
  | .key => "KeyError"
  | .index => "IndexError"
  | .attribute => "AttributeError"
  | .unicodeDecode => "UnicodeDecodeError"
  | .jsonDecode => "JSONDecodeError"
  | .yaml name => name
  | .unicodeEncode => "UnicodeEncodeError"
  | .badZip => "BadZipFile"
  | .notImplemented => "NotImplementedError"
  | .endOfFile => "EOFError"
  | .recursion => "RecursionError"

/-- Whether a fault belongs to the operating-system family. -/
def isOs : FaultKind → Bool
  | .os _ => true
  | _ => false

/-- The fault kind of a reported name. -/
def ofName? : String → Option FaultKind
  | "OSError" => some (.os "OSError")
  | "FileNotFoundError" => some (.os "FileNotFoundError")
  | "PermissionError" => some (.os "PermissionError")
  | "IsADirectoryError" => some (.os "IsADirectoryError")
  | "NotADirectoryError" => some (.os "NotADirectoryError")
  | "FileExistsError" => some (.os "FileExistsError")
  | "ValueError" => some .value
  | "RuntimeError" => some .runtime
  | "TypeError" => some .type
  | "KeyError" => some .key
  | "IndexError" => some .index
  | "AttributeError" => some .attribute
  | _ => none

end FaultKind

/-- A fault: its kind and its text. -/
structure Fault where
  kind : FaultKind
  text : String

/-- The fault of a failed file operation. -/
def Fault.ofOs (e : OsError) : Fault := ⟨.os e.errno.kindName, e.text⟩

/-- Why an operation stopped. -/
inductive Failure where
  | audit (e : AuditError)
  | task (e : TaskFailure)
  | fault (f : Fault)
  deriving Inhabited

instance : Inhabited TaskFailure := ⟨⟨.execution, .null, .null, .null⟩⟩
instance : Inhabited Fault := ⟨⟨.value, ""⟩⟩

/-- Whether a failure is a type error. -/
def Failure.isTypeError : Failure → Bool
  | .fault f => f.kind == .type
  | _ => false

/-- A configuration failure. -/
def Failure.config (code message : String) (data : Option Value := none) : Failure :=
  .audit (AuditError.config code message data)

end ApiAudit

namespace ApiAudit

/-- The reported type name of a dynamic value. -/
def Value.typeName : Value → String
  | .null => "NoneType"
  | .bool _ => "bool"
  | .int _ => "int"
  | .float _ => "float"
  | .str _ => "str"
  | .time t => if t.clock.isSome then "datetime" else "date"
  | .bytes _ => "bytes"
  | .list _ => "list"
  | .tuple _ => "tuple"
  | .set _ => "set"
  | .dict _ => "dict"
  | .cycle _ (.dict _) => "dict"
  | _ => "list"

/-- The fault of a text that is no JSON document: a malformed one, with the position in the
document; nesting too deep; a number with too many digits. -/
def Fault.ofJson (e : Json.ReadError) (doc : String) : Fault :=
  match e with
  | .malformed .. => ⟨.jsonDecode, e.render doc⟩
  | .tooDeep _ => ⟨.recursion, e.message⟩
  | .tooManyDigits _ => ⟨.value, e.message⟩

/-- The fault of using a value where a path is needed. -/
def Fault.notAPath (v : Value) : Fault :=
  ⟨.type, s!"expected str, bytes or os.PathLike object, not {v.typeName}"⟩

/-- The fault of trimming a value that is no text. -/
def Fault.cannotTrim (v : Value) : Fault :=
  ⟨.attribute, s!"'{v.typeName}' object has no attribute 'strip'"⟩

end ApiAudit

namespace ApiAudit

/-- **The elements of a value taken as a collection**: the items of a list, tuple or set, a
text's characters, the numbers of a byte string's bytes, a dictionary's keys; any other value
is no collection. -/
def Value.elements (v : Value) : Except Fault (List Value) :=
  match v.unfold with
  | .list xs | .tuple xs | .set xs => .ok xs
  | .str s => .ok (s.toList.map fun c => .str (String.singleton c))
  | .bytes data => .ok (data.map fun b => .int b.toNat)
  | .dict es => .ok (es.map (·.1))
  | v => .error ⟨.type, s!"'{v.typeName}' object is not iterable"⟩

/-- A value that cannot be a key: a list, set or dictionary, or a tuple holding one. -/
def Value.checkKey (x : Value) : Except Fault Unit :=
  match x with
  | .list _ | .dict _ | .set _ | .cycle _ _ | .back _ => .error ⟨.type, s!"unhashable type: '{x.typeName}'"⟩
  | .tuple items => checkItems items
  | _ => .ok ()
where
  /-- `checkKey` on every item. -/
  checkItems : List Value → Except Fault Unit
    | [] => .ok ()
    | i :: rest => do
      Value.checkKey i
      checkItems rest

/-- Keeps the first occurrence of every key, keys compared by equality; a list or dictionary is
no key. -/
def Value.firstOccurrences (xs : List Value) : Except Fault (List Value) :=
  xs.foldlM (fun acc x => do
    x.checkKey
    pure (if acc.any (Value.equals · x) then acc else acc ++ [x])) []

/-- One entry of a dictionary built from pairs: the item at `index` must itself be a collection
of exactly two elements, and its first element a key. -/
def Value.pairAt (index : Nat) (item : Value) : Except Fault (Value × Value) := do
  let parts ← item.elements.mapError fun _ =>
    ⟨.type, s!"cannot convert dictionary update sequence element #{index} to a sequence"⟩
  match parts with
  | [k, x] => do
    k.checkKey
    pure (k, x)
  | _ =>
    throw ⟨.value, s!"dictionary update sequence element #{index} has length {parts.length}; 2 is required"⟩

/-- **A dictionary built from a value** the way the dictionary constructor builds one: a
dictionary is copied; the items of any other collection are pairs, put in order, so a later
pair replaces the value of an equal key. -/
def Value.toDict (v : Value) : Except Fault Value :=
  match v with
  | .dict es => .ok (.dict es)
  | _ => do
    let items ← v.elements
    let pairs ← (items.zipIdx).mapM fun (item, i) => Value.pairAt i item
    pure (Value.ofPairs pairs)

example : ((Value.toDict (.list [.str "ab", .list [.int 1, .null]])).map Value.literal).toOption =
    some "\x7b'a': 'b', 1: None\x7d" := by decide

end ApiAudit
