import ApiAudit.Engine.Basic
import ApiAudit.Data.Value.Text
import ApiAudit.Classpath.Loader

/-!
# Engine/Factory — how a run obtains its engine

A run builds its engine once, after the class-loading context exists, from that context and the
policy.  What calling an object with (context, policy, logger) does is a `Construction`: it
builds an engine of some kind, or it gives whatever the call gives (`Built`): a type error,
another exception, or an object, known by the engine operations it has as callable attributes
and how it answers them.  A `Factory` is an object found by name (its spec and its
construction), a deterministic engine with planned failures, possibly refusing to build at all,
or any other factory, known by what it does with the context and the policy.

An object found by name becomes the run's engine only when the call returns an object with
every engine operation; a type error, or an object that lacks operations, is refused as no
engine, naming the operations it lacks in the order of the engine contract.  Any other exception
of the call is passed on as it is.
-/

namespace ApiAudit.Engine

/-- An object that calling an engine object gives: whether it has each engine operation as a
callable attribute, and how it answers the calls it is given. -/
structure Instance where
  has : Method → Bool
  behaviour : Behaviour

/-- The engine operations an object lacks, in the order of the engine contract. -/
def Instance.lacking (o : Instance) : List Method := Method.all.filter fun m => !o.has m

/-- What a call of an object gives. -/
inductive Built where
  /-- A type error, whose text is never shown. -/
  | typeError
  /-- Another exception. -/
  | raised (f : Failure)
  /-- An object. -/
  | object (o : Instance)

/-- What calling an object with (context, policy, logger) does. -/
inductive Construction where
  /-- It builds an engine of this kind. -/
  | builds (kind : Kind)
  /-- It gives what the call with this context and this policy gives. -/
  | calls (built : Loader → Policy → Built)

/-- A behaviour that answers every call with nothing. -/
def Behaviour.silent : Behaviour := ⟨fun _ _ _ _ => ([], .ok .null), []⟩

/-- An object with no engine operation. -/
def Instance.bare : Instance := ⟨fun _ => false, Behaviour.silent⟩

/-- It does not take three arguments. -/
def Construction.refusesArguments : Construction := .calls fun _ _ => .typeError

/-- It builds an object with none of the engine operations. -/
def Construction.buildsIncomplete : Construction := .calls fun _ _ => .object Instance.bare

/-- It fails while building. -/
def Construction.fails (f : Fault) : Construction := .calls fun _ _ => .raised (.fault f)

/-- How a run obtains its engine. -/
inductive Factory where
  /-- An object found by its spec. -/
  | named (spec : String) (c : Construction)
  /-- A deterministic engine with planned failures; `refusal` makes the factory itself fail. -/
  | planned (kind : Kind) (failures : List (Method × Failure)) (refusal : Option Failure)
  /-- Any other factory: called with the class-loading context and the policy, it builds an
  engine of some behaviour, or fails. -/
  | acting (build : Loader → Policy → Except Failure Behaviour)

/-- An engine object that cannot be built from (context, policy, logger). -/
def notConstructible (spec : String) : Failure :=
  .config "engine.invalid" s!"Engine could not be constructed with (context, policy, logger): {spec}"
    (some (Value.obj [("engine", .str spec)]))

/-- An object that lacks engine operations. -/
def notAnEngine (spec : String) (missing : List Method) : Failure :=
  let names := ", ".intercalate (missing.map (·.name))
  .config "engine.invalid" s!"Engine does not implement: {names}"
    (some (Value.obj [("engine", .str spec), ("missing", Value.strs (missing.map (·.name)))]))

/-- **A planned failure** from its description `{kind, message, code, data}`: an audit error of
that kind, or a fault whose text is the message (a missing key shows its message quoted).  The
message defaults to `boom`, the code to `test.code`. -/
def plannedFailure (exc : Value) : Failure :=
  let kind := ((exc.get? "kind").bind Value.asStr?).getD "RuntimeError"
  let message := (exc.get? "message").getD (.str "boom")
  let code := (exc.get? "code").getD (.str "test.code")
  let data := match exc.get? "data" with
    | none | some .null => none
    | some d => some d
  match AuditKind.ofName? kind with
  | some k => .audit ⟨k, code, message, data⟩
  | none =>
    match FaultKind.ofName? kind with
    | some .key => .fault ⟨.key, message.literal⟩
    | some fk => .fault ⟨fk, message.text⟩
    | none => .fault ⟨.runtime, message.text⟩

/-- **The engine a call of an object found by name gives**: the object, when it has every engine
operation.  A type error refuses the object, an object lacking operations is no engine, and any
other exception is passed on. -/
def checkBuilt (spec : String) (policy : Policy) : Built → Except Failure Engine
  | .typeError => .error (notConstructible spec)
  | .raised f => .error (if f.isTypeError then notConstructible spec else f)
  | .object o =>
    match o.lacking with
    | [] => .ok { kind := .recording, policy, behaviour := some o.behaviour }
    | missing => .error (notAnEngine spec missing)

/-- **Builds the engine of a run** from its class-loading context and its policy. -/
def Factory.make (context : Loader) (policy : Policy) : Factory → Except Failure Engine
  | .named _ (.builds kind) => .ok { kind, policy }
  | .named spec (.calls built) => checkBuilt spec policy (built context policy)
  | .planned _ _ (some f) => .error f
  | .planned kind failures none => .ok { kind, policy, planned := failures }
  | .acting build =>
    (build context policy).map fun b => { kind := .recording, policy, behaviour := some b }

/-- Builds an engine outside a run, over a context with an empty classpath. -/
def Factory.construct (policy : Policy) (f : Factory) : Except Failure Engine :=
  f.make { roots := [] } policy

end ApiAudit.Engine
