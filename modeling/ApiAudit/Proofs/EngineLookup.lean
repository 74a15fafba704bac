import ApiAudit.Engine.Catalog

/-!
# Proofs/EngineLookup — what a spec names, and what its factory builds

An engine is named by a spec `module:object`.  Finding it goes in stages, each with its own
error code: the form of the spec (`engine.invalid`), the module and the dotted path inside it
(`engine.not_found`), then whether the object can be called (`engine.invalid` again).  The
factory found builds the engine when a run asks for it: a call that refuses the arguments, or an
object lacking engine operations, is no engine (`engine.invalid`); any other exception of the
call is passed on as it is.  Everything here holds in every catalog of importable objects.

* `cutAtColon_eq_some` — cutting a text at its first colon;
* `SpecForm` — a spec of the right form, said without the loader: a non-blank text whose
  trimmed form has a first colon with a non-empty part on each side;
* `load_of_specForm`, `load_blank`, `load_malformed` — the stage of the form, errors included;
  `find_eq_ok`, `find_notFound_iff`, `find_invalid_iff` — the stages of the catalog;
* `Constructs` — what the factory of an object found by name gives, by what the call of the
  object gave, with the lacking operations in the order of the engine contract
  (`checkBuilt_constructs`);
* `engineSpec_classification` — the whole classification of a spec, and of what its factory
  builds from any context and policy.
-/

namespace ApiAudit.Engine

/-! ## The first colon -/

/-- **Cutting at the first colon**: the text is the part before, a colon, and the part after,
and the part before has no colon. -/
theorem cutAtColon_eq_some {cs m a : List Char} :
    cutAtColon cs = some (m, a) ↔ cs = m ++ ':' :: a ∧ ':' ∉ m := by
  fun_induction cutAtColon cs generalizing m a with
  | case1 => simp
  | case2 rest =>
    -- the colon is the first character: the part before is empty
    cases m with
    | nil => simp
    | cons c m =>
      simp only [Option.some.injEq, Prod.mk.injEq, reduceCtorEq, false_and, false_iff]
      grind
  | case3 c rest hc ih =>
    -- a character that is no colon stays before the cut
    cases m with
    | nil => simpa using fun h _ => hc h
    | cons c' m =>
      simp only [Option.map_eq_some_iff, Prod.exists, Prod.mk.injEq, ih]
      grind

/-- Two configuration errors are the same error exactly when code, message and data agree. -/
@[simp] theorem config_eq_config {c c' m m' : String} {d d' : Option Value} :
    Failure.config c m d = Failure.config c' m' d' ↔ c = c' ∧ m = m' ∧ d = d' := by
  simp [Failure.config, AuditError.config, AuditError.make]

/-! ## The form of a spec -/

/-- **A spec of the form `module:object`**: a non-blank text whose trimmed form `s` is the
module part `m`, a colon and the object path `a`, where `m` holds no colon and neither part is
empty. -/
structure SpecForm (spec : Value) (s : String) (m a : List Char) : Prop where
  text : ∃ raw, spec = .str raw ∧ Text.isBlankText raw = false ∧ Text.trim raw = s
  cut : s.toList = m ++ ':' :: a
  first : ':' ∉ m
  module_ne : m ≠ []
  path_ne : a ≠ []

variable {c : Catalog} {spec : Value} {s : String} {m a : List Char}

/-- A spec of the right form is looked up in the catalog by its module and its path. -/
theorem load_of_specForm (c : Catalog) (h : SpecForm spec s m a) :
    c.load spec = c.find s (String.ofList m) (String.ofList a) := by
  obtain ⟨raw, rfl, hblank, rfl⟩ := h.text
  have hcut : cutAtColon (Text.trim raw).toList = some (m, a) :=
    cutAtColon_eq_some.mpr ⟨h.cut, h.first⟩
  have hne : (m.isEmpty || a.isEmpty) = false := by
    simp [h.module_ne, h.path_ne]
  simp only [Catalog.load, hblank, hcut, hne, Bool.false_eq_true, if_false]

/-- **No text, or a blank one**, is refused before anything is looked up. -/
theorem load_blank (c : Catalog) (h : ∀ raw, spec = .str raw → Text.isBlankText raw = true) :
    c.load spec = .error blankSpec := by
  cases spec with
  | str raw => simp [Catalog.load, h raw rfl]
  | _ => rfl

/-- **A text of the wrong form**, with no colon or an empty part on a side of its first colon,
is refused with its trimmed form. -/
theorem load_malformed (c : Catalog) {raw : String} (hblank : Text.isBlankText raw = false)
    (h : ∀ m a, ¬ SpecForm (.str raw) (Text.trim raw) m a) :
    c.load (.str raw) = .error (badSpec (Text.trim raw)) := by
  simp only [Catalog.load, hblank, Bool.false_eq_true, if_false]
  split
  · rfl
  · rename_i m a hcut
    obtain ⟨hcs, hfirst⟩ := cutAtColon_eq_some.mp hcut
    cases hempty : (m.isEmpty || a.isEmpty) with
    | true => rfl
    | false =>
      -- with both parts non-empty the spec would have the right form
      simp only [Bool.or_eq_false_iff, List.isEmpty_eq_false_iff] at hempty
      exact absurd ⟨⟨raw, rfl, hblank, rfl⟩, hcs, hfirst, hempty.1, hempty.2⟩ (h m a)

/-- The parts of a spec of the right form are determined by the spec: its first colon cuts it. -/
theorem SpecForm.unique (h : SpecForm spec s m a) {s' : String} {m' a' : List Char}
    (h' : SpecForm spec s' m' a') : s' = s ∧ m' = m ∧ a' = a := by
  obtain ⟨raw, rfl, -, rfl⟩ := h.text
  obtain ⟨raw', hraw, -, rfl⟩ := h'.text
  cases hraw
  have hcut := (cutAtColon_eq_some.mpr ⟨h'.cut, h'.first⟩).symm.trans
    (cutAtColon_eq_some.mpr ⟨h.cut, h.first⟩)
  simp only [Option.some.injEq, Prod.mk.injEq] at hcut
  exact ⟨rfl, hcut⟩

/-- What holds of the parts of a spec holds of its only parts. -/
theorem exists_specForm_iff (h : SpecForm spec s m a) {Q : String → List Char → List Char → Prop} :
    (∃ s m a, SpecForm spec s m a ∧ Q s m a) ↔ Q s m a := by
  constructor
  · rintro ⟨s', m', a', h', hq⟩
    obtain ⟨rfl, rfl, rfl⟩ := h.unique h'
    exact hq
  · exact fun hq => ⟨s, m, a, h, hq⟩

/-- **A spec of the wrong form is invalid**: no text or a blank one, or a text with no colon or
an empty part on a side of its first colon. -/
theorem load_of_not_specForm (c : Catalog) (h : ¬ ∃ s m a, SpecForm spec s m a) :
    c.load spec = .error blankSpec ∨ ∃ t, c.load spec = .error (badSpec t) := by
  cases spec with
  | str raw =>
    cases hblank : Text.isBlankText raw with
    | true => exact .inl (load_blank c fun _ hraw => by cases hraw; exact hblank)
    | false => exact .inr ⟨_, load_malformed c hblank fun m a hm => h ⟨_, m, a, hm⟩⟩
  | _ => exact .inl (load_blank c fun _ hraw => by cases hraw)

/-! ## The module and the object -/

/-- What calling an object does, when it can be called. -/
def Shape.construction? : Shape → Option Construction
  | .callable k _ => some k
  | _ => none

namespace Catalog

variable {mod attr : String}

/-- **The stages of the catalog**: the module cannot be imported; or the path leads nowhere in
it; or it leads to an object that cannot be called; or to one that can, whose factory is found. -/
theorem find_cases (c : Catalog) (s mod attr : String) :
    (c.members? mod = none ∧
      c.find s mod attr = .error (.config "engine.not_found" s!"Failed to import engine module: {mod}"
        (some (Value.obj [("module", .str mod)])))) ∨
    (c.members? mod ≠ none ∧ c.follow mod (dotted attr) = none ∧
      c.find s mod attr = .error (.config "engine.not_found" s!"Engine object not found in module: {s}"
        (some (Value.obj [("module", .str mod), ("attr", .str attr)])))) ∨
    (∃ sh, c.members? mod ≠ none ∧ c.follow mod (dotted attr) = some sh ∧
      sh.construction? = none ∧
      c.find s mod attr = .error (.config "engine.invalid" s!"Engine object is not callable: {s}"
        (some (Value.obj [("engine", .str s)])))) ∨
    (∃ sh k, c.members? mod ≠ none ∧ c.follow mod (dotted attr) = some sh ∧
      sh.construction? = some k ∧ c.find s mod attr = .ok (.named s k)) := by
  cases hm : c.members? mod with
  | none => exact .inl ⟨rfl, by simp [find, hm]⟩
  | some ms =>
    cases hf : c.follow mod (dotted attr) with
    | none => exact .inr (.inl ⟨nofun, rfl, by simp [find, hm, hf]⟩)
    | some sh =>
      cases sh with
      | callable k members =>
        exact .inr (.inr (.inr ⟨_, k, nofun, rfl, rfl, by simp [find, hm, hf]⟩))
      | module => exact .inr (.inr (.inl ⟨_, nofun, rfl, rfl, by simp [find, hm, hf]⟩))
      | value members => exact .inr (.inr (.inl ⟨_, nofun, rfl, rfl, by simp [find, hm, hf]⟩))

/-- The catalog's lookup fails as not found exactly when the module cannot be imported or the
path leads nowhere in it. -/
theorem find_notFound_iff (c : Catalog) (s mod attr : String) :
    (∃ msg data, c.find s mod attr = .error (.config "engine.not_found" msg data)) ↔
      c.members? mod = none ∨ c.follow mod (dotted attr) = none := by
  rcases find_cases c s mod attr with ⟨hm, he⟩ | ⟨hm, hf, he⟩ | ⟨sh, hm, hf, -, he⟩ |
    ⟨sh, k, hm, hf, -, he⟩ <;> simp [*]

/-- The catalog's lookup fails as invalid exactly when the path leads to an object that cannot
be called. -/
theorem find_invalid_iff (c : Catalog) (s mod attr : String) :
    (∃ msg data, c.find s mod attr = .error (.config "engine.invalid" msg data)) ↔
      c.members? mod ≠ none ∧
        ∃ sh, c.follow mod (dotted attr) = some sh ∧ sh.construction? = none := by
  rcases find_cases c s mod attr with ⟨hm, he⟩ | ⟨hm, hf, he⟩ | ⟨sh, hm, hf, hc, he⟩ |
    ⟨sh, k, hm, hf, hc, he⟩ <;> simp [*]

/-- The catalog's lookup finds a factory exactly when the path leads to an object that can be
called; the factory calls it. -/
theorem find_eq_ok (c : Catalog) (s mod attr : String) (f : Factory) :
    c.find s mod attr = .ok f ↔
      c.members? mod ≠ none ∧ ∃ sh k, c.follow mod (dotted attr) = some sh ∧
        sh.construction? = some k ∧ f = .named s k := by
  rcases find_cases c s mod attr with ⟨hm, he⟩ | ⟨hm, hf, he⟩ | ⟨sh, hm, hf, hc, he⟩ |
    ⟨sh, k, hm, hf, hc, he⟩ <;> simp [*, eq_comm (a := f)]

end Catalog

/-! ## The whole lookup

A spec of the wrong form never reaches the catalog, and a spec of the right form has one module
and one path (`SpecForm.unique`), so each outcome of the lookup is the outcome of one stage. -/

/-- The lookup fails as not found exactly when the spec has the right form and its module cannot
be imported or its path leads nowhere in the module. -/
theorem load_notFound_iff (c : Catalog) (spec : Value) :
    (∃ msg data, c.load spec = .error (.config "engine.not_found" msg data)) ↔
      ∃ s m a, SpecForm spec s m a ∧ (c.members? (String.ofList m) = none ∨
        c.follow (String.ofList m) (dotted (String.ofList a)) = none) := by
  by_cases hform : ∃ s m a, SpecForm spec s m a
  · obtain ⟨s, m, a, h⟩ := hform
    rw [load_of_specForm c h, exists_specForm_iff h, Catalog.find_notFound_iff]
  · refine iff_of_false ?_ fun ⟨s, m, a, h, _⟩ => hform ⟨s, m, a, h⟩
    rcases load_of_not_specForm c hform with hl | ⟨t, hl⟩ <;> simp [hl, blankSpec, badSpec]

/-- The lookup fails as invalid exactly when the spec has the wrong form, or names an object that
cannot be called. -/
theorem load_invalid_iff (c : Catalog) (spec : Value) :
    (∃ msg data, c.load spec = .error (.config "engine.invalid" msg data)) ↔
      (¬ ∃ s m a, SpecForm spec s m a) ∨
      ∃ s m a, SpecForm spec s m a ∧ c.members? (String.ofList m) ≠ none ∧
        ∃ sh, c.follow (String.ofList m) (dotted (String.ofList a)) = some sh ∧
          sh.construction? = none := by
  by_cases hform : ∃ s m a, SpecForm spec s m a
  · obtain ⟨s, m, a, h⟩ := hform
    rw [load_of_specForm c h, exists_specForm_iff h, Catalog.find_invalid_iff]
    exact (or_iff_right (not_not_intro ⟨s, m, a, h⟩)).symm
  · refine iff_of_true ?_ (.inl hform)
    rcases load_of_not_specForm c hform with hl | ⟨t, hl⟩
    · exact ⟨_, _, hl⟩
    · exact ⟨_, _, hl⟩

/-- The lookup finds a factory exactly when the spec has the right form and names an object that
can be called; the factory calls that object. -/
theorem load_eq_ok (c : Catalog) (spec : Value) (f : Factory) :
    c.load spec = .ok f ↔
      ∃ s m a, SpecForm spec s m a ∧ c.members? (String.ofList m) ≠ none ∧
        ∃ sh k, c.follow (String.ofList m) (dotted (String.ofList a)) = some sh ∧
          sh.construction? = some k ∧ f = .named s k := by
  by_cases hform : ∃ s m a, SpecForm spec s m a
  · obtain ⟨s, m, a, h⟩ := hform
    rw [load_of_specForm c h, exists_specForm_iff h, Catalog.find_eq_ok]
  · refine iff_of_false ?_ fun ⟨s, m, a, h, _⟩ => hform ⟨s, m, a, h⟩
    rcases load_of_not_specForm c hform with hl | ⟨t, hl⟩ <;> simp [hl]

/-- **The lookup raises nothing but the two configuration errors.** -/
theorem load_error_codes (c : Catalog) (spec : Value) {e : Failure}
    (h : c.load spec = .error e) :
    ∃ msg data, e = .config "engine.invalid" msg data ∨ e = .config "engine.not_found" msg data := by
  by_cases hform : ∃ s m a, SpecForm spec s m a
  · obtain ⟨s, m, a, hs⟩ := hform
    rw [load_of_specForm c hs] at h
    rcases Catalog.find_cases c s (String.ofList m) (String.ofList a) with ⟨-, he⟩ | ⟨-, -, he⟩ |
      ⟨sh, -, -, -, he⟩ | ⟨sh, k, -, -, -, he⟩ <;> rw [he] at h <;> cases h
    · exact ⟨_, _, .inr rfl⟩
    · exact ⟨_, _, .inr rfl⟩
    · exact ⟨_, _, .inl rfl⟩
  · rcases load_of_not_specForm c hform with hl | ⟨t, hl⟩ <;> rw [hl] at h <;> cases h
    · exact ⟨_, _, .inl rfl⟩
    · exact ⟨_, _, .inl rfl⟩

/-! ## What the factory builds -/

/-- Every engine operation is in the contract. -/
theorem Method.mem_all (m : Method) : m ∈ Method.all := by
  cases m <;> simp [Method.all]

/-- **What the factory of an object found by name gives**, by what calling the object with the
context and the policy gave. -/
inductive Constructs (spec : String) (policy : Policy) : Built → Except Failure Engine → Prop where
  /-- The call refused the arguments: no engine can be built with them. -/
  | typeError : Constructs spec policy .typeError (.error (notConstructible spec))
  /-- The call raised a type error: the same. -/
  | raisedTypeError (f : Failure) (h : f.isTypeError = true) :
      Constructs spec policy (.raised f) (.error (notConstructible spec))
  /-- The call raised anything else: it is passed on as it is. -/
  | raised (f : Failure) (h : f.isTypeError = false) : Constructs spec policy (.raised f) (.error f)
  /-- The object lacks operations: they are named, each once, in the order of the contract. -/
  | lacking (o : Instance) (missing : List Method) (hne : missing ≠ [])
      (horder : missing.Sublist Method.all) (hmem : ∀ m, m ∈ missing ↔ o.has m = false) :
      Constructs spec policy (.object o) (.error (notAnEngine spec missing))
  /-- The object has every operation: it is the engine, and answers as the object does. -/
  | engine (o : Instance) (hall : ∀ m, o.has m = true) :
      Constructs spec policy (.object o)
        (.ok { kind := .recording, policy, behaviour := some o.behaviour })

/-- An operation is lacking exactly when the object does not have it. -/
theorem Instance.mem_lacking (o : Instance) (m : Method) : m ∈ o.lacking ↔ o.has m = false := by
  simp [Instance.lacking, Method.mem_all]

/-- **The factory's check of what the call gave** meets `Constructs`. -/
theorem checkBuilt_constructs (spec : String) (policy : Policy) (b : Built) :
    Constructs spec policy b (checkBuilt spec policy b) := by
  cases b with
  | typeError => exact .typeError
  | raised f =>
    cases hf : f.isTypeError with
    | true => simpa [checkBuilt, hf] using Constructs.raisedTypeError f hf
    | false => simpa [checkBuilt, hf] using Constructs.raised f hf
  | object o =>
    simp only [checkBuilt]
    split
    · -- nothing lacking: every operation is there
      rename_i hnone
      refine .engine o fun m => ?_
      cases hm : o.has m with
      | true => rfl
      | false => simpa [hnone] using (o.mem_lacking m).mpr hm
    · -- the lacking operations, filtered from the contract in its order
      rename_i hne
      exact .lacking o o.lacking hne List.filter_sublist o.mem_lacking

/-! ## The classification -/

/-- **How a spec is classified, and what its factory builds.**  In every catalog, the lookup
fails as invalid exactly when the spec is no non-blank text of the form `module:object`, or when
it names an object that cannot be called; it fails as not found exactly when the spec has that
form and its module cannot be imported or its path leads nowhere, which is checked before
whether the object can be called; otherwise it finds the factory of the object, and it raises
nothing else.  From any context and policy, that factory builds the engine of one of this
library's engine classes, or gives what `Constructs` says of the call of the object: a type
error, or an object lacking operations, is refused as no engine, with the lacking operations in
the order of the contract; any other exception is passed on; otherwise the object is the
engine. -/
theorem engineSpec_classification (c : Catalog) (spec : Value) :
    ((∃ msg data, c.load spec = .error (.config "engine.invalid" msg data)) ↔
      (¬ ∃ s m a, SpecForm spec s m a) ∨
      ∃ s m a, SpecForm spec s m a ∧ c.members? (String.ofList m) ≠ none ∧
        ∃ sh, c.follow (String.ofList m) (dotted (String.ofList a)) = some sh ∧
          sh.construction? = none) ∧
    ((∃ msg data, c.load spec = .error (.config "engine.not_found" msg data)) ↔
      ∃ s m a, SpecForm spec s m a ∧ (c.members? (String.ofList m) = none ∨
        c.follow (String.ofList m) (dotted (String.ofList a)) = none)) ∧
    (∀ f, c.load spec = .ok f ↔
      ∃ s m a, SpecForm spec s m a ∧ c.members? (String.ofList m) ≠ none ∧
        ∃ sh k, c.follow (String.ofList m) (dotted (String.ofList a)) = some sh ∧
          sh.construction? = some k ∧ f = .named s k) ∧
    (∀ e, c.load spec = .error e →
      ∃ msg data, e = .config "engine.invalid" msg data ∨ e = .config "engine.not_found" msg data) ∧
    (∀ f, c.load spec = .ok f → ∀ (context : Loader) (policy : Policy),
      (∃ s kind, f = .named s (.builds kind) ∧ f.make context policy = .ok { kind, policy }) ∨
      ∃ s built, f = .named s (.calls built) ∧
        Constructs s policy (built context policy) (f.make context policy)) := by
  refine ⟨load_invalid_iff c spec, load_notFound_iff c spec, load_eq_ok c spec,
    fun _ h => load_error_codes c spec h, fun f hf context policy => ?_⟩
  -- the factory found calls the object the spec names
  obtain ⟨s, -, -, -, -, -, k, -, -, rfl⟩ := (load_eq_ok c spec f).mp hf
  cases k with
  | builds kind => exact .inl ⟨s, kind, rfl, rfl⟩
  | calls built => exact .inr ⟨s, built, rfl, checkBuilt_constructs s policy (built context policy)⟩

/-- A catalog of one module `eng`, whose object `Partial` builds something that can only
execute. -/
def partialCatalog : Catalog :=
  ⟨fun module => if module = "eng" then
    some [("Partial", .callable (.calls fun _ _ => .object ⟨(· == .execute), Behaviour.silent⟩) [])]
    else none⟩

/-- A spec with blanks around it names the object of that catalog, and its factory gives what
`Constructs` says of that object. -/
theorem partialSpec_factory_constructs :
    ∃ f, partialCatalog.load (.str " eng:Partial ") = .ok f ∧
      ((∃ s kind, f = .named s (.builds kind) ∧
          f.make { roots := [] } {} = .ok { kind, policy := {} }) ∨
        ∃ s built, f = .named s (.calls built) ∧
          Constructs s {} (built { roots := [] } {}) (f.make { roots := [] } {})) :=
  ⟨_, rfl, (engineSpec_classification partialCatalog (.str " eng:Partial ")).2.2.2.2 _ rfl _ _⟩

end ApiAudit.Engine
