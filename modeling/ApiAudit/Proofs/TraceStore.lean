import ApiAudit.Proofs.FileAppend
import ApiAudit.Proofs.Utf8RoundTrip
import ApiAudit.Proofs.OneLine
import ApiAudit.Proofs.TraceFile
import ApiAudit.Trace.Read

/-!
# Proofs/TraceStore — a trace file reads back the events appended to it

A tracer appends each event as one line of JSON, after making the directories above the file;
reading the file decodes it, cuts it into lines and reads each line, keeping the events of a run
when one is named.  The lines come back as written (`Proofs/OneLine`), the bytes as appended
(`Proofs/FileAppend`) and the text as encoded (`Proofs/Utf8RoundTrip`), so the events come back
in order, each as its line reads, from one run or from several sharing the file.

That needs the file to start where nothing was.  A path can lead nowhere and still reach a file
once the directories above it are made: `a/b/../f`, where `a/b` is missing and `a/f` is not.
Appends there go after what `a/f` held (`dotDotTrace_readsForeignEvent`), so the statement asks
for a fresh path (`FileTree.FreshAt`).

* `Trace.AppendedAt` — the events appended at one path, in order, by any tracers writing there;
* `Trace.AppendedAt.readBytes` — appended lines follow the text the file held;
* `Trace.readAt_appended` — reading a trace file started at a fresh path gives the events
  appended, in order, and with a run id the events of that run.
-/

namespace ApiAudit

open FileTree Text

/-! ## A trace line -/

/-- **The line of an event**: an object written on one line, then a line feed. -/
theorem Trace.Event.line_eq (e : Trace.Event) :
    ∃ body, Unbroken ('{' :: body) ∧ e.line = String.ofList ('{' :: body ++ ['\n']) := by
  obtain ⟨es, hes⟩ : ∃ es, e.toValue = .dict es := ⟨_, rfl⟩
  obtain ⟨body, hbody⟩ := Json.render_dict_toList es
  refine ⟨body, hbody ▸ Json.unbroken_write 0 _, ?_⟩
  rw [Trace.Event.line, traceStyle, hes, ← hbody, ← String.toList_inj]
  simp [Json.render]

/-- The lines of events, one after another, are the lines read back. -/
theorem fileLines_events (E : List Trace.Event) :
    fileLines (String.join (E.map Trace.Event.line)) = E.map Trace.Event.line := by
  choose body hbody heq using Trace.Event.line_eq
  have hlines : E.map Trace.Event.line = (E.map fun e => '{' :: body e).map fun b => String.ofList (b ++ ['\n']) := by
    simp only [List.map_map]
    exact List.map_congr_left fun e _ => heq e
  rw [hlines]
  exact fileLines_join _ (by simpa using fun e _ => hbody e)

/-! ## Reading the lines back -/

namespace Trace

/-- An object tells whether it belongs to a run by its own run id. -/
theorem belongsTo_dict (runId : Option Value) (es : List (Value × Value)) :
    belongsTo runId (.dict es) = .ok (runId.all fun id => ((Value.dict es).field "run_id").equals id) := by
  cases runId <;> rfl

/-- **The events' lines read back** as what each line reads as, those of the run when one is
named. -/
theorem parseLines_events (runId : Option Value) (n : Event → Value) :
    ∀ (E : List Event), (∀ e ∈ E, Json.read e.line = .ok (n e)) →
      parseLines runId (E.map Event.line) =
        .ok ((E.map n).filter fun v => runId.all fun id => (v.field "run_id").equals id)
  | [], _ => rfl
  | e :: E, hread => by
    obtain ⟨body, -, hline⟩ := e.line_eq
    have he : Json.read e.line = .ok (n e) := hread e List.mem_cons_self
    -- a line opens with a brace: it is not blank, and it reads as an object
    have hblank : isBlankText e.line = false := by
      simp [isBlankText, hline, isBlank]
    obtain ⟨es, hes⟩ := Json.read_dict (by rw [hline, String.toList_ofList]; rfl) he
    rw [List.map_cons, parseLines, if_neg (by simp [hblank]), he]
    simp only [Except.mapError, bind_eq_ok]
    refine ⟨n e, rfl, _, hes ▸ belongsTo_dict runId es, _,
      parseLines_events runId n E fun e' he' => hread e' (List.mem_cons_of_mem _ he'), ?_⟩
    rw [List.map_cons, List.filter_cons]
    rfl

end Trace

/-! ## Appends to one trace file -/

/-- **A path a new trace file can start at**: it leads nowhere, and still leads nowhere once the
directories above it are made. -/
structure FileTree.FreshAt (t : FileTree) (p : String) : Prop where
  missing : t.pathExists p = false
  missing_after_dirs : ∀ t₁, t.makeDirs (Path.parent p) = .ok t₁ → t₁.pathExists p = false

/-- **Events appended to the trace file at `p`, in order**, by tracers that all write there: the
events of one run, or of several runs sharing the file. -/
inductive Trace.AppendedAt (p : String) : FileTree → List Trace.Event → FileTree → Prop
  | nil (t : FileTree) : Trace.AppendedAt p t [] t
  | cons {tr : Tracer} {t t₁ t' : FileTree} {e : Trace.Event} {E : List Trace.Event} :
      tr.path = some p → tr.Appends t e t₁ → Trace.AppendedAt p t₁ E t' →
        Trace.AppendedAt p t (e :: E) t'

section Append

variable {tr : Tracer} {p : String} {t t₁ : FileTree} {e : Trace.Event}

/-- What an append of an event is: the directories made, then the line's bytes appended. -/
theorem Tracer.Appends.steps (hp : tr.path = some p) (h : tr.Appends t e t₁) :
    ∃ t₀, t.makeDirs (Path.parent p) = .ok t₀ ∧ t₀.appendBytes p (utf8Bytes e.line) = .ok t₁ := by
  obtain ⟨p', hp', -, -, t₀, hdirs, happ⟩ := h
  rw [hp] at hp'
  cases hp'
  exact ⟨t₀, hdirs, happ⟩

/-- An event appended to a trace file is read back after the file's bytes. -/
theorem Tracer.Appends.readBytes (hp : tr.path = some p) (h : tr.Appends t e t₁)
    {old : List UInt8} (hr : t.readBytes p = .ok old) :
    t₁.readBytes p = .ok (old ++ utf8Bytes e.line) := by
  obtain ⟨t₀, hdirs, happ⟩ := h.steps hp
  exact readBytes_appendBytes ((extends_of_makeDirs hdirs).readBytes hr) happ

/-- An event appended at a fresh path is read back alone. -/
theorem Tracer.Appends.readBytes_fresh (hp : tr.path = some p) (h : tr.Appends t e t₁)
    (hfresh : t.FreshAt p) : t₁.readBytes p = .ok (utf8Bytes e.line) := by
  obtain ⟨t₀, hdirs, happ⟩ := h.steps hp
  exact readBytes_appendBytes_of_not_pathExists (hfresh.missing_after_dirs t₀ hdirs) happ

end Append

namespace Trace.AppendedAt

variable {p : String} {t t' : FileTree} {E : List Trace.Event}

/-- **Appended lines follow the text a trace file held.** -/
theorem readBytes (h : AppendedAt p t E t') {text : String}
    (hr : t.readBytes p = .ok (utf8Bytes text)) :
    t'.readBytes p = .ok (utf8Bytes (text ++ String.join (E.map Event.line))) := by
  induction h generalizing text with
  | nil => simpa using hr
  | cons hp happ _ ih =>
    rename_i e _
    have step := happ.readBytes hp hr
    rw [← utf8Bytes_append] at step
    rw [ih step, List.map_cons, String.join_cons, String.append_assoc]

/-- **A trace file started at a fresh path holds the lines appended**, one after another. -/
theorem readBytes_fresh (h : AppendedAt p t E t') (hfresh : t.FreshAt p) (hE : E ≠ []) :
    t'.readBytes p = .ok (utf8Bytes (String.join (E.map Event.line))) := by
  cases h with
  | nil => exact absurd rfl hE
  | cons hp happ hrest =>
    rw [hrest.readBytes (happ.readBytes_fresh hp hfresh), List.map_cons, String.join_cons]

/-- **Reading a trace file started at a fresh path** gives what each appended line reads as, in
order, those of the run when one is named; with nothing appended, the missing file is an empty
trace. -/
theorem readAt (h : AppendedAt p t E t') (hfresh : t.FreshAt p) (n : Event → Value)
    (hread : ∀ e ∈ E, Json.read e.line = .ok (n e)) (runId : Option Value) :
    Trace.readAt t' p runId =
      .ok ((E.map n).filter fun v => runId.all fun id => (v.field "run_id").equals id) := by
  rcases E with _ | ⟨e, E⟩
  · cases h
    simp [Trace.readAt, hfresh.missing]
  · have hbytes := h.readBytes_fresh hfresh (List.cons_ne_nil _ _)
    rw [Trace.readAt, pathExists_of_readBytes hbytes]
    simp only [Bool.not_true, Bool.false_eq_true, if_false, hbytes, decodeUtf8_utf8Bytes]
    rw [Trace.parse, fileLines_events]
    exact Trace.parseLines_events runId n _ hread

end Trace.AppendedAt

/-! ## The trace store -/

/-- **A trace file reads back the events appended to it**, by one run or by several sharing the
file: all of them in order, and with a run id the events of that run; a missing file, with
nothing appended, is an empty trace.  Each event reads back as its line reads as JSON. -/
theorem Trace.readAt_appended {p : String} {t t' : FileTree} {E : List Trace.Event}
    (h : Trace.AppendedAt p t E t') (hfresh : t.FreshAt p) (n : Trace.Event → Value)
    (hread : ∀ e ∈ E, Json.read e.line = .ok (n e)) :
    Trace.readAt t' p = .ok (E.map n) ∧
      ∀ id, Trace.readAt t' p (some id) =
        .ok ((E.map n).filter fun v => (v.field "run_id").equals id) := by
  refine ⟨?_, fun id => h.readAt hfresh n hread (some id)⟩
  simpa using h.readAt hfresh n hread none

/-- The event that starts run `a`. -/
def sharedStart : Trace.Event := { runId := .str "a", happening := .runStarted }

/-- The event that finishes run `b`. -/
def sharedFinish : Trace.Event := { runId := .str "b", happening := .runFinished }

/-- Two runs sharing one trace file, one event each. -/
def sharedTraceEvents : List Trace.Event := [sharedStart, sharedFinish]

theorem sharedTrace_readsBack :
    FileTree.initial.FreshAt "/work/trace.jsonl" ∧
      (∀ e ∈ sharedTraceEvents, Json.read e.line =
        .ok (.dict [(.str "run_id", e.runId), (.str "event_type", .str e.happening.name)])) ∧
      ∃ t', Trace.AppendedAt "/work/trace.jsonl" FileTree.initial sharedTraceEvents t' ∧
        (Trace.readAt t' "/work/trace.jsonl" =
            .ok [.dict [(.str "run_id", .str "a"), (.str "event_type", .str "run_started")],
              .dict [(.str "run_id", .str "b"), (.str "event_type", .str "run_finished")]] ∧
          ∀ id, Trace.readAt t' "/work/trace.jsonl" (some id) =
            .ok ([Value.dict [(.str "run_id", .str "a"), (.str "event_type", .str "run_started")],
              .dict [(.str "run_id", .str "b"), (.str "event_type", .str "run_finished")]].filter
                fun v => (v.field "run_id").equals id)) := by
  have hfresh : FileTree.initial.FreshAt "/work/trace.jsonl" := by
    refine ⟨rfl, fun t₁ h => ?_⟩
    rw [show FileTree.initial.makeDirs (Path.parent "/work/trace.jsonl") = .ok FileTree.initial
      from rfl] at h
    cases h
    rfl
  have hread : ∀ e ∈ sharedTraceEvents, Json.read e.line =
      .ok (.dict [(.str "run_id", e.runId), (.str "event_type", .str e.happening.name)]) := by
    intro e he
    simp only [sharedTraceEvents, List.mem_cons, List.not_mem_nil, or_false] at he
    -- each line, written out, reads as the dictionary of its two fields
    rcases he with rfl | rfl
    on_goal 1 => rw [show sharedStart.line =
      "\x7b\"run_id\": \"a\", \"event_type\": \"run_started\"\x7d\n" from rfl]
    on_goal 2 => rw [show sharedFinish.line =
      "\x7b\"run_id\": \"b\", \"event_type\": \"run_finished\"\x7d\n" from rfl]
    all_goals simp [sharedStart, sharedFinish, Json.read, Json.readValue, Json.readObject,
      Json.readMembers, Json.readString, Json.skipSpace, Json.isSpace, Json.maxDepth, bind,
      Except.bind, pure, Except.pure, Value.putEntry, Value.sameKey, Trace.Happening.name]
  -- the first append creates the file, the second lengthens it
  have h₁ : Tracer.Appends ⟨.str "a", some "/work/trace.jsonl"⟩ FileTree.initial sharedStart
      (FileTree.initial.put ["work", "trace.jsonl"] (.file (utf8Bytes sharedStart.line))) :=
    ⟨_, rfl, rfl, rfl, _, rfl, rfl⟩
  have h₂ : Tracer.Appends ⟨.str "b", some "/work/trace.jsonl"⟩
      (FileTree.initial.put ["work", "trace.jsonl"] (.file (utf8Bytes sharedStart.line))) sharedFinish
      ((FileTree.initial.put ["work", "trace.jsonl"] (.file (utf8Bytes sharedStart.line))).put
        ["work", "trace.jsonl"] (.file (utf8Bytes sharedStart.line ++ utf8Bytes sharedFinish.line))) :=
    ⟨_, rfl, rfl, rfl, _, rfl, rfl⟩
  have happ := Trace.AppendedAt.cons rfl h₁ (.cons rfl h₂ (.nil _))
  exact ⟨hfresh, hread, _, happ, Trace.readAt_appended happ hfresh _ hread⟩

/-- A tree in which `a/f` already holds an event of a run `old`, and `a/b` is missing. -/
def dotDotTree : FileTree :=
  ⟨FileTree.initial.entries ++
    [(["work", "a"], .dir), (["work", "a", "f"], .file (utf8Bytes "\x7b\"run_id\": \"old\"\x7d\n"))]⟩

/-- The event that starts run `r`. -/
def dotDotStart : Trace.Event := { runId := .str "r", happening := .runStarted }

/-- **A trace path through a missing directory and `..` is not fresh**: it leads nowhere, yet
making the directories above it exposes `a/f`, so the read after one append gives the event of
run `old` before the one appended. -/
theorem dotDotTrace_readsForeignEvent :
    dotDotTree.pathExists "a/b/../f" = false ∧
      ∃ t', Trace.AppendedAt "a/b/../f" dotDotTree [dotDotStart] t' ∧
        Trace.readAt t' "a/b/../f" =
          .ok [.dict [(.str "run_id", .str "old")],
            .dict [(.str "run_id", .str "r"), (.str "event_type", .str "run_started")]] := by
  -- making `a/b` creates it, and `a/b/..` is then `a`, where `f` is
  have hparent : Path.parent "a/b/../f" = "a/b/.." := by decide
  have hdirs : dotDotTree.makeDirs (Path.parent "a/b/../f") =
      .ok (dotDotTree.put ["work", "a", "b"] .dir) := by
    rw [hparent]
    rfl
  have happ : Tracer.Appends ⟨.str "r", some "a/b/../f"⟩ dotDotTree dotDotStart
      ((dotDotTree.put ["work", "a", "b"] .dir).put ["work", "a", "f"]
        (.file (utf8Bytes "\x7b\"run_id\": \"old\"\x7d\n" ++ utf8Bytes dotDotStart.line))) :=
    ⟨"a/b/../f", rfl, rfl, rfl, _, hdirs, rfl⟩
  refine ⟨rfl, _, .cons rfl happ (.nil _), ?_⟩
  have hline : dotDotStart.line = "\x7b\"run_id\": \"r\", \"event_type\": \"run_started\"\x7d\n" := rfl
  -- the file now holds the old line, then the new one
  have hbytes : ((dotDotTree.put ["work", "a", "b"] .dir).put ["work", "a", "f"]
      (.file (utf8Bytes "\x7b\"run_id\": \"old\"\x7d\n" ++ utf8Bytes dotDotStart.line))).readBytes
        "a/b/../f" = .ok (utf8Bytes ("\x7b\"run_id\": \"old\"\x7d\n" ++ dotDotStart.line)) := by
    rw [utf8Bytes_append]
    rfl
  rw [Trace.readAt, pathExists_of_readBytes hbytes, hbytes]
  simp only [Bool.not_true, Bool.false_eq_true, if_false, decodeUtf8_utf8Bytes, hline, Trace.parse]
  rw [show Text.fileLines ("\x7b\"run_id\": \"old\"\x7d\n" ++
      "\x7b\"run_id\": \"r\", \"event_type\": \"run_started\"\x7d\n") =
    ["\x7b\"run_id\": \"old\"\x7d\n", "\x7b\"run_id\": \"r\", \"event_type\": \"run_started\"\x7d\n"] from rfl]
  simp [Trace.parseLines, Trace.belongsTo, Text.isBlankText, Text.isBlank, Except.mapError,
    Json.read, Json.readValue, Json.readObject, Json.readMembers, Json.readString, Json.skipSpace,
    Json.isSpace, Json.maxDepth, bind, Except.bind, pure, Except.pure, Value.putEntry,
    Value.sameKey]

end ApiAudit
