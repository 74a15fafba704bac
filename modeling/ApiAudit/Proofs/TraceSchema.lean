import ApiAudit.Proofs.TraceFile
import ApiAudit.Proofs.BuildFileLoad

/-!
# Proofs/TraceSchema — which trace events the shipped event schema admits

A trace event is written without its clock stamp: the stamp is the one part of a line that the
run does not decide.  `Trace.Event.stamped ts e` puts the stamp `ts` back in front, which gives the
object the trace file holds.  The shipped schema `trace_event.schema.json` then admits it exactly
as follows.

* `Value.obj_of_nodup` — an object built from pairs whose names are distinct holds the pairs
  as they are, so the stamped event is the dictionary of its fields (`Trace.Event.stamped_eq`);
* `Trace.Event.Fits` — an event that carries a text or null as its message and a dictionary or
  null as its data, when it carries them; `Trace.Event.Admitted` — one that fits and names its
  run by a non-empty text;
* `validate_stamped` — such an event, stamped with a non-empty text, passes the schema;
  `validate_stamped_blankRunId` — an event whose run is named by the empty text never does.
-/

namespace ApiAudit

/-! ## Objects built from pairs with distinct names -/

namespace Value

/-- A key that no entry has goes last. -/
theorem putEntry_new {es : List (Value × Value)} {k v : Value}
    (h : es.any (fun e => sameKey e.1 k) = false) : putEntry es k v = es ++ [(k, v)] := by
  simp [putEntry, h]

/-- Putting pairs whose names are distinct, and new to the entries, appends them in order. -/
theorem foldl_putEntry_str (acc : List (Value × Value)) (pairs : List (String × Value))
    (hacc : ∀ e ∈ acc, ∀ p ∈ pairs, sameKey e.1 (.str p.1) = false)
    (h : (pairs.map (·.1)).Nodup) :
    (pairs.map fun p => (Value.str p.1, p.2)).foldl (fun acc p => putEntry acc p.1 p.2) acc =
      acc ++ pairs.map fun p => (Value.str p.1, p.2) := by
  induction pairs generalizing acc with
  | nil => simp
  | cons p ps ih =>
    obtain ⟨hp, hps⟩ := List.nodup_cons.mp h
    simp only [List.map_cons, List.foldl_cons]
    rw [putEntry_new (by simpa using fun e he => hacc e he p List.mem_cons_self), ih _ ?_ hps]
    · simp
    -- the pair just put is new to the names after it
    intro e he q hq
    rcases List.mem_append.mp he with he | he
    · exact hacc e he q (List.mem_cons_of_mem _ hq)
    · rw [List.mem_singleton] at he
      subst he
      have hne : p.1 ≠ q.1 := by
        intro hpq
        apply hp
        simp only [hpq]
        exact List.mem_map_of_mem hq
      simpa [sameKey] using hne

/-- **An object whose names are distinct** holds its pairs as they are, in order. -/
theorem obj_of_nodup (pairs : List (String × Value)) (h : (pairs.map (·.1)).Nodup) :
    obj pairs = .dict (pairs.map fun p => (.str p.1, p.2)) := by
  simp only [obj, ofPairs]
  rw [foldl_putEntry_str [] pairs (by simp) h, List.nil_append]

end Value

/-! ## The kinds of message and data the schema admits -/

namespace Value

/-- A value the schema admits as a message: null or a text. -/
def TextOrNull (v : Value) : Prop := v = .null ∨ ∃ t, v = .str t

/-- A value the schema admits as data: null or a dictionary. -/
def DictOrNull (v : Value) : Prop := v = .null ∨ ∃ es, v = .dict es

@[simp] theorem textOrNull_null : Value.null.TextOrNull := .inl rfl

@[simp] theorem textOrNull_str (t : String) : (Value.str t).TextOrNull := .inr ⟨t, rfl⟩

@[simp] theorem dictOrNull_obj (pairs : List (String × Value)) : (Value.obj pairs).DictOrNull :=
  .inr ⟨_, rfl⟩

end Value

/-! ## The stamped event -/

namespace Trace.Event

/-- The fields of an event as it is written: run, kind, then the parts that are present. -/
def fields (e : Event) : List (String × Value) :=
  [("run_id", e.runId), ("event_type", .str e.happening.name)] ++
    (e.stage.map fun s => ("step", Value.str s.name)).toList ++
    (e.message.map fun m => ("message", m)).toList ++
    (e.data.map fun d => ("data", d)).toList

/-- **An event as the trace file holds it**: the clock stamp `ts` first, then its fields. -/
def stamped (ts : String) (e : Event) : Value := Value.obj (("ts", .str ts) :: e.fields)

/-- The entries of a stamped event. -/
def stampedEntries (ts : String) (e : Event) : List (Value × Value) :=
  (("ts", .str ts) :: e.fields).map fun p => (.str p.1, p.2)

/-- The names of a stamped event are distinct, so it is the dictionary of its entries. -/
theorem stamped_eq (ts : String) (e : Event) : e.stamped ts = .dict (e.stampedEntries ts) := by
  apply Value.obj_of_nodup
  rcases e with ⟨runId, happening, _ | st, _ | m, _ | d⟩ <;> simp [fields]

variable (ts : String) (e : Event)

@[simp] theorem lookup_ts : Value.lookup (e.stampedEntries ts) (.str "ts") = some (.str ts) := rfl

@[simp] theorem lookup_runId : Value.lookup (e.stampedEntries ts) (.str "run_id") = some e.runId :=
  rfl

@[simp] theorem lookup_eventType :
    Value.lookup (e.stampedEntries ts) (.str "event_type") = some (.str e.happening.name) := rfl

@[simp] theorem lookup_step :
    Value.lookup (e.stampedEntries ts) (.str "step") = e.stage.map (.str ·.name) := by
  rcases e with ⟨runId, happening, _ | st, _ | m, _ | d⟩ <;> rfl

@[simp] theorem lookup_message : Value.lookup (e.stampedEntries ts) (.str "message") = e.message := by
  rcases e with ⟨runId, happening, _ | st, _ | m, _ | d⟩ <;> rfl

@[simp] theorem lookup_data : Value.lookup (e.stampedEntries ts) (.str "data") = e.data := by
  rcases e with ⟨runId, happening, _ | st, _ | m, _ | d⟩ <;> rfl

/-- A stamped event has no field the schema does not declare. -/
@[simp] theorem undeclared_stampedEntries :
    Schema.undeclared Schema.traceEventSchema (e.stampedEntries ts) = [] := by
  rcases e with ⟨runId, happening, _ | st, _ | m, _ | d⟩ <;> rfl

/-- **The parts of an event the schema admits**: its message a text or null and its data a
dictionary or null, when it carries them. -/
structure Fits (e : Event) : Prop where
  message : ∀ m, e.message = some m → m.TextOrNull
  data : ∀ d, e.data = some d → d.DictOrNull

/-- **An event the schema admits, once stamped**: it fits, and its run is named by a non-empty
text. -/
structure Admitted (e : Event) : Prop where
  runId : ∃ r, e.runId = .str r ∧ r ≠ ""
  fits : e.Fits

end Trace.Event

/-! ## The schema's checks -/

namespace Schema

variable {fuel : Nat} {path : List String}

/-- A value of a kind the keyword lists passes it. -/
theorem check_type {kinds : List JsonType} {v : Value} (h : kinds.any (·.admits v.unfold) = true) :
    check resolveName (fuel + 1) [.type kinds] v path = [] := by
  rw [check.eq_2]
  simp only [List.flatMap_cons, List.flatMap_nil, List.append_nil]
  rw [if_pos h]

/-- A non-empty text passes `nonEmptyText`. -/
theorem check_nonEmptyText {t : String} (h : t ≠ "") :
    check resolveName (fuel + 1) nonEmptyText (.str t) path = [] := by
  have hlen : ¬ t.length < 1 := by
    simpa [Nat.lt_one_iff, String.length_eq_zero_iff] using h
  rw [check.eq_2]
  simp [nonEmptyText, hlen, JsonType.admits, Value.unfold]

/-- Every kind of event is one the schema lists. -/
theorem check_eventKind (h : Trace.Happening) :
    check resolveName (fuel + 1) [.enum eventKinds] (.str h.name) path = [] := by
  cases h <;> rfl

/-- **The errors of a stamped event**: none, when it is admitted and its stamp is not empty. -/
theorem check_stamped {ts : String} {e : Trace.Event} (h : e.Admitted) (hts : ts ≠ "") :
    check resolveName (fuel + 2) traceEventSchema (e.stamped ts) [] = [] := by
  obtain ⟨r, hrun, hr⟩ := h.runId
  -- the message and the data, when present, are of the kinds the schema asks for
  have hmsg : ∀ m, e.message = some m →
      check resolveName (fuel + 1) [.type [.string, .null]] m ["message"] = [] := by
    intro m hm
    apply check_type
    rcases h.fits.message m hm with rfl | ⟨t, rfl⟩ <;> rfl
  have hdata : ∀ d, e.data = some d →
      check resolveName (fuel + 1) [.type [.object, .null]] d ["data"] = [] := by
    intro d hd
    apply check_type
    rcases h.fits.data d hd with rfl | ⟨es, rfl⟩ <;> rfl
  -- no field is undeclared, whatever is present
  have hclosed := Trace.Event.undeclared_stampedEntries ts e
  simp only [traceEventSchema] at hclosed
  rw [e.stamped_eq, check.eq_2]
  simp only [traceEventSchema, hclosed, List.flatMap_cons, List.flatMap_nil, Value.unfold, List.append_nil,
    Trace.Event.lookup_ts, Trace.Event.lookup_runId, Trace.Event.lookup_eventType,
    Trace.Event.lookup_step, Trace.Event.lookup_message, Trace.Event.lookup_data,
    hrun, check_nonEmptyText hts, check_nonEmptyText hr, check_eventKind]
  rcases hs : e.stage with _ | st <;> rcases hm : e.message with _ | m <;>
    rcases hd : e.data with _ | d <;>
    simp [hm, hd, hmsg, hdata, check_type, JsonType.admits, Value.unfold]

/-- **An admitted event, stamped with a non-empty text, passes the shipped event schema.** -/
theorem validate_stamped {ts : String} {e : Trace.Event} (h : e.Admitted) (hts : ts ≠ "") :
    validate "trace_event.schema.json" (e.stamped ts) = .ok [] := by
  have hcheck : check resolveName maxNesting traceEventSchema (e.stamped ts) [] = [] :=
    check_stamped h hts
  simp [validate, contracts, errors, hcheck]

/-- **An event whose run is named by the empty text never passes the schema**, whatever its
stamp: the run's name must not be empty. -/
theorem validate_stamped_blankRunId {ts : String} {e : Trace.Event} (h : e.runId = .str "") :
    validate "trace_event.schema.json" (e.stamped ts) ≠ .ok [] := by
  intro hv
  have hcheck : check resolveName (63 + 1) traceEventSchema (e.stamped ts) [] = [] :=
    check_of_validate rfl hv
  have hrun : check resolveName 63 nonEmptyText (.str "") ([] ++ ["run_id"]) = [] := by
    -- the run's name is the second property the schema declares
    refine check_properties hcheck (List.mem_cons_of_mem _ (List.mem_cons_of_mem _ List.mem_cons_self))
      (by rw [e.stamped_eq]; rfl) (List.mem_cons_of_mem _ List.mem_cons_self) ?_
    rw [Trace.Event.lookup_runId, h]
  have hlen := check_minLength hrun (List.mem_cons_of_mem _ List.mem_cons_self) rfl
  simp at hlen

end Schema

end ApiAudit
