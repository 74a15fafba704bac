import Mathlib.Data.List.Forall2
import ApiAudit.Proofs.ResourceLookup
import ApiAudit.Proofs.Audit
import ApiAudit.Config.Resolve
import ApiAudit.Task.Build

/-!
# Proofs/BuildFileLoad — what reading a build file gives

`BuildFile.load` reads a build file in stages: the file must exist, its bytes must be UTF-8, the
text must be YAML, and the value must follow the build-file schema.  `Loaded` names the way the
reading ends at each stage: a configuration error for a missing file, a text that is no YAML and
a value the schema refuses (with its errors), a fault for bytes that are no UTF-8, a value the
YAML reader refuses to build, and an error the schema cannot show; else the value itself.

A value the schema accepts has the shape `tasks` relies on (`BuildDoc`): so `BuildFile.tasks`
declares one task per entry of its `tasks` mapping, in order, each as `Declares` says.

* `load_loaded` — reading a build file ends as `Loaded` says, and changes nothing;
* `buildDoc_of_validate` — a value without self-reference that the schema accepts is a
  `BuildDoc`;
* `tasks_declared` — the tasks of such a value, one per entry, as their blocks declare them.
-/

namespace ApiAudit

/-! ## Values that hold no part of themselves -/

namespace Value

/-- **Whether a value holds no part that holds itself**: no `cycle`, and no `back` standing for
one. -/
def acyclic : Value → Bool
  | .cycle _ _ | .back _ => false
  | .list xs | .tuple xs | .set xs => itemsAcyclic xs
  | .dict es => entriesAcyclic es
  | _ => true
where
  /-- `acyclic` on items. -/
  itemsAcyclic : List Value → Bool
    | [] => true
    | x :: xs => acyclic x && itemsAcyclic xs
  /-- `acyclic` on entries. -/
  entriesAcyclic : List (Value × Value) → Bool
    | [] => true
    | (k, x) :: es => acyclic k && acyclic x && entriesAcyclic es

theorem itemsAcyclic_iff {xs : List Value} :
    acyclic.itemsAcyclic xs = true ↔ ∀ x ∈ xs, x.acyclic = true := by
  induction xs with
  | nil => simp [acyclic.itemsAcyclic]
  | cons x xs ih => simp [acyclic.itemsAcyclic, ih]

theorem entriesAcyclic_iff {es : List (Value × Value)} :
    acyclic.entriesAcyclic es = true ↔ ∀ e ∈ es, e.1.acyclic = true ∧ e.2.acyclic = true := by
  induction es with
  | nil => simp [acyclic.entriesAcyclic]
  | cons e es ih =>
    obtain ⟨k, x⟩ := e
    simp [acyclic.entriesAcyclic, ih, and_assoc]

@[simp] theorem acyclic_list {xs : List Value} :
    (Value.list xs).acyclic = true ↔ ∀ x ∈ xs, x.acyclic = true :=
  itemsAcyclic_iff

@[simp] theorem acyclic_dict {es : List (Value × Value)} :
    (Value.dict es).acyclic = true ↔ ∀ e ∈ es, e.1.acyclic = true ∧ e.2.acyclic = true :=
  entriesAcyclic_iff

/-- A value without self-reference is its own unfolding. -/
theorem unfold_of_acyclic {v : Value} (h : v.acyclic = true) : v.unfold = v := by
  cases v with
  | cycle id body => exact absurd h Bool.false_ne_true
  | _ => rfl

/-- What a dictionary without self-reference holds under a key holds none either. -/
theorem acyclic_of_lookup {es : List (Value × Value)} {k x : Value}
    (h : (Value.dict es).acyclic = true) (hx : lookup es k = some x) : x.acyclic = true := by
  unfold lookup at hx
  obtain ⟨e, he, rfl⟩ := Option.map_eq_some_iff.mp hx
  exact (acyclic_dict.mp h e (List.mem_of_find?_eq_some he)).2

end Value

/-! ## What an accepted value passes, keyword by keyword

A value passes a schema when `check` reports nothing; then it passes each keyword of the schema,
and each lemma below reads off what one keyword asks of it. -/

namespace Schema

variable {resolve : String → Option Schema} {fuel : Nat} {s : Schema} {v : Value}
  {path : List String}

theorem check_type_admits {kinds : List JsonType} (h : check resolve (fuel + 1) s v path = [])
    (hkw : .type kinds ∈ s) : kinds.any (·.admits v.unfold) = true := by
  change List.flatMap _ s = [] at h
  have hk := List.flatMap_eq_nil_iff.mp h _ hkw
  simp only at hk
  split at hk
  · assumption
  · simp at hk

/-- A value without self-reference that passes a one-kind `type` keyword is of that kind. -/
theorem admits_of_check {k : JsonType} (h : check resolve (fuel + 1) s v path = [])
    (hkw : .type [k] ∈ s) (hac : v.acyclic = true) : k.admits v = true := by
  simpa [Value.unfold_of_acyclic hac] using check_type_admits h hkw

theorem check_properties {ps : List (String × Schema)} {es : List (Value × Value)} {name : String}
    {sub : Schema} {x : Value} (h : check resolve (fuel + 1) s v path = [])
    (hkw : .properties ps ∈ s) (hv : v.unfold = .dict es) (hp : (name, sub) ∈ ps)
    (hx : Value.lookup es (.str name) = some x) :
    check resolve fuel sub x (path ++ [name]) = [] := by
  change List.flatMap _ s = [] at h
  have hk := List.flatMap_eq_nil_iff.mp h _ hkw
  simp only [hv] at hk
  simpa [hx] using List.flatMap_eq_nil_iff.mp hk _ hp

theorem check_required {names : List String} {es : List (Value × Value)} {n : String}
    (h : check resolve (fuel + 1) s v path = [])
    (hkw : .required names ∈ s) (hv : v.unfold = .dict es) (hn : n ∈ names) :
    Value.lookup es (.str n) ≠ none := by
  change List.flatMap _ s = [] at h
  have hk := List.flatMap_eq_nil_iff.mp h _ hkw
  simp only [hv, List.filterMap_eq_nil_iff] at hk
  simpa using hk n hn

theorem check_minLength {n : Nat} {t : String} (h : check resolve (fuel + 1) s v path = [])
    (hkw : .minLength n ∈ s) (hv : v.unfold = .str t) : n ≤ t.length := by
  change List.flatMap _ s = [] at h
  have hk := List.flatMap_eq_nil_iff.mp h _ hkw
  simp only [hv] at hk
  split at hk
  · simp at hk
  · omega

theorem check_minProperties {n : Nat} {es : List (Value × Value)}
    (h : check resolve (fuel + 1) s v path = []) (hkw : .minProperties n ∈ s)
    (hv : v.unfold = .dict es) : n ≤ es.length := by
  change List.flatMap _ s = [] at h
  have hk := List.flatMap_eq_nil_iff.mp h _ hkw
  simp only [hv] at hk
  split at hk
  · simp at hk
  · omega

theorem check_pattern {p : Pattern} {t : String} (h : check resolve (fuel + 1) s v path = [])
    (hkw : .pattern p ∈ s) (hv : v.unfold = .str t) : p.matches t = true := by
  change List.flatMap _ s = [] at h
  have hk := List.flatMap_eq_nil_iff.mp h _ hkw
  simp only [hv] at hk
  split at hk
  · assumption
  · simp at hk

theorem check_additional {sub : Schema} {es : List (Value × Value)} {e : Value × Value}
    (h : check resolve (fuel + 1) s v path = [])
    (hkw : .additional sub ∈ s) (hv : v.unfold = .dict es) (he : e ∈ undeclaredEntries s es) :
    check resolve fuel sub e.2 (path ++ [e.1.text]) = [] := by
  change List.flatMap _ s = [] at h
  have hk := List.flatMap_eq_nil_iff.mp h _ hkw
  simp only [hv] at hk
  simpa using List.flatMap_eq_nil_iff.mp hk _ he

theorem check_items {sub : Schema} {xs : List Value} {x : Value}
    (h : check resolve (fuel + 1) s v path = [])
    (hkw : .items sub ∈ s) (hv : v.unfold = .list xs) (hx : x ∈ xs) :
    ∃ i : Nat, check resolve fuel sub x (path ++ [toString i]) = [] := by
  change List.flatMap _ s = [] at h
  have hk := List.flatMap_eq_nil_iff.mp h _ hkw
  simp only [hv] at hk
  -- the item sits in the zip of positions and items at its own position
  obtain ⟨i, hi⟩ := List.mem_iff_getElem.mp hx
  have hmem : (i, x) ∈ (List.range xs.length).zip xs := by
    rw [List.mem_iff_getElem]
    exact ⟨i, by simpa using hi.1, by simp [hi.2]⟩
  exact ⟨i, List.flatMap_eq_nil_iff.mp hk _ hmem⟩

theorem check_ref {name : String} {sub : Schema} (h : check resolve (fuel + 1) s v path = [])
    (hkw : .ref name ∈ s) (hr : resolve name = some sub) : check resolve fuel sub v path = [] := by
  change List.flatMap _ s = [] at h
  have hk := List.flatMap_eq_nil_iff.mp h _ hkw
  simpa [hr] using hk

/-- The schemas a schema's `properties` keywords give their properties, in order. -/
def propertySchemas (s : Schema) : List (String × Schema) :=
  s.flatMap fun
    | .properties ps => ps
    | _ => []

/-- A property present in an accepted mapping passes the schema the schema declares for it. -/
theorem check_propertySchema {es : List (Value × Value)} {name : String} {sub : Schema} {x : Value}
    (h : check resolve (fuel + 1) s v path = []) (hv : v.unfold = .dict es)
    (hp : (name, sub) ∈ propertySchemas s) (hx : Value.lookup es (.str name) = some x) :
    check resolve fuel sub x (path ++ [name]) = [] := by
  obtain ⟨kw, hkw, hp⟩ := List.mem_flatMap.mp hp
  cases kw with
  | properties ps => exact check_properties h hkw hv hp hx
  | _ => simp at hp

/-- A property present in an accepted mapping without self-reference passes the schema declared
for it, and holds no self-reference either. -/
theorem check_declaredProperty {es : List (Value × Value)} (key : String) (sub : Schema) {x : Value}
    (h : check resolve (fuel + 1) s (.dict es) path = []) (hac : (Value.dict es).acyclic = true)
    (hp : (key, sub) ∈ propertySchemas s) (hx : (Value.dict es).get? key = some x) :
    check resolve fuel sub x (path ++ [key]) = [] ∧ x.acyclic = true :=
  ⟨check_propertySchema h rfl hp hx, Value.acyclic_of_lookup hac hx⟩

/-- A schema that declares no property leaves every entry undeclared. -/
theorem undeclaredEntries_of_declared_nil {es : List (Value × Value)} (h : declared s = []) :
    undeclaredEntries s es = es := by
  simp [undeclaredEntries, h]

/-- **A validated value passes the whole schema**: no error at any depth. -/
theorem check_of_validate {name : String} {sch : Schema}
    (hs : contracts.find? (·.1 == name) = some (name, sch)) (h : validate name v = .ok []) :
    check resolveName maxNesting sch v [] = [] := by
  unfold validate at h
  rw [hs] at h
  simp only at h
  split at h
  · cases h
  · have hnil : errors resolveName sch v = [] := by simpa using h
    unfold errors at hnil
    rw [← List.length_eq_zero_iff, List.length_mergeSort, List.length_eq_zero_iff] at hnil
    exact hnil

end Schema

/-! ## The shape of an accepted build file

The schemas pin down every part of a build file that tasks read.  With no self-reference, what
the schema sees through `Value.unfold` is the value itself, so each `type` keyword fixes the
constructor of the value. -/

namespace Schema

variable {fuel : Nat} {path : List String}

theorem admits_string {v : Value} : JsonType.string.admits v = true ↔ ∃ t, v = .str t := by
  cases v with
  | str t => exact ⟨fun _ => ⟨t, rfl⟩, fun _ => rfl⟩
  | _ => exact ⟨fun h => absurd h Bool.false_ne_true, fun ⟨_, h⟩ => Value.noConfusion h⟩

theorem admits_array {v : Value} : JsonType.array.admits v = true ↔ ∃ xs, v = .list xs := by
  cases v with
  | list xs => exact ⟨fun _ => ⟨xs, rfl⟩, fun _ => rfl⟩
  | _ => exact ⟨fun h => absurd h Bool.false_ne_true, fun ⟨_, h⟩ => Value.noConfusion h⟩

theorem admits_object {v : Value} : JsonType.object.admits v = true ↔ ∃ es, v = .dict es := by
  cases v with
  | dict es => exact ⟨fun _ => ⟨es, rfl⟩, fun _ => rfl⟩
  | _ => exact ⟨fun h => absurd h Bool.false_ne_true, fun ⟨_, h⟩ => Value.noConfusion h⟩

theorem admits_boolean {v : Value} : JsonType.boolean.admits v = true ↔ ∃ b, v = .bool b := by
  cases v with
  | bool b => exact ⟨fun _ => ⟨b, rfl⟩, fun _ => rfl⟩
  | _ => exact ⟨fun h => absurd h Bool.false_ne_true, fun ⟨_, h⟩ => Value.noConfusion h⟩

/-- Items that are all texts are the texts of a list. -/
theorem exists_strs {xs : List Value} (h : ∀ x ∈ xs, ∃ t, x = .str t) :
    ∃ texts : List String, xs = texts.map .str := by
  induction xs with
  | nil => exact ⟨[], rfl⟩
  | cons x xs ih =>
    obtain ⟨t, rfl⟩ := h x List.mem_cons_self
    obtain ⟨texts, rfl⟩ := ih fun y hy => h y (List.mem_cons_of_mem _ hy)
    exact ⟨t :: texts, rfl⟩

/-- **A value that passes `string_list` is a list of texts.** -/
theorem strs_of_check {v : Value} (h : check resolveName (fuel + 3) [.ref "string_list"] v path = [])
    (hac : v.acyclic = true) : ∃ texts, v = .strs texts := by
  have hlist : check resolveName (fuel + 2) textList v path = [] :=
    check_ref h List.mem_cons_self rfl
  have harray : JsonType.array.admits v = true :=
    admits_of_check hlist (.head _) hac
  obtain ⟨xs, rfl⟩ := admits_array.mp harray
  -- every item passes `type: string` and holds no self-reference
  have hitems : ∀ x ∈ xs, ∃ t, x = .str t := by
    intro x hx
    obtain ⟨i, hi⟩ : ∃ i : Nat, check resolveName (fuel + 1) [.type [.string]] x (path ++ [toString i]) = [] :=
      check_items hlist (.tail _ (.head _)) rfl hx
    exact admits_string.mp (admits_of_check hi List.mem_cons_self (Value.acyclic_list.mp hac x hx))
  obtain ⟨texts, rfl⟩ := exists_strs hitems
  exact ⟨texts, rfl⟩

/-- A value that passes a non-empty text schema is a non-empty text. -/
theorem nonEmptyText_of_check {v : Value} (h : check resolveName (fuel + 1) nonEmptyText v path = [])
    (hac : v.acyclic = true) : ∃ t, v = .str t ∧ t ≠ "" := by
  have hstring : JsonType.string.admits v = true :=
    admits_of_check h (.head _) hac
  obtain ⟨t, rfl⟩ := admits_string.mp hstring
  have hlen : 1 ≤ t.length := check_minLength h (.tail _ (.head _)) rfl
  refine ⟨t, rfl, ?_⟩
  rintro rfl
  simp at hlen

end Schema

namespace BuildFile

/-- **A task block the task schema accepts**, as far as a task reads it: a mapping with a
non-empty classes directory, lists of texts under the list keys, switches under the switch keys,
a text as target and an engine spec as engine. -/
structure TaskBlock (b : Value) : Prop where
  isDict : ∃ es, b = .dict es
  classesDir : ∃ c, b.get? "classes_dir" = some (.str c) ∧ c ≠ ""
  texts : ∀ key ∈ "classpath" :: "includes" :: listProperties, ∀ v, b.get? key = some v →
    ∃ texts, v = .strs texts
  switches : ∀ key ∈ switchProperties, ∀ v, b.get? key = some v → ∃ x, v = .bool x
  target : ∀ v, b.get? "target_compatibility" = some v → ∃ t, v = .str t
  engine : ∀ v, b.get? "engine" = some v → ∃ spec, v = .str spec ∧ Schema.specPattern.matches spec = true

/-- **A build file the schema accepts**, as far as tasks read it: a mapping whose project
directory, when given, is a non-empty text, and whose tasks form a non-empty mapping of task
blocks. -/
structure BuildDoc (doc : Value) : Prop where
  isDict : ∃ es, doc = .dict es
  projectDir : ∀ v, (doc.field "project").get? "dir" = some v → ∃ d, v = .str d ∧ d ≠ ""
  tasks : ∃ entries, doc.get? "tasks" = some (.dict entries) ∧ entries ≠ [] ∧
    ∀ e ∈ entries, TaskBlock e.2

open Schema in
/-- **A block that passes the task schema is a task block.** -/
theorem taskBlock_of_check {fuel : Nat} {path : List String} {b : Value}
    (h : check resolveName (fuel + 5) [.ref "task.schema.json"] b path = [])
    (hac : b.acyclic = true) : TaskBlock b := by
  have htask : check resolveName (fuel + 4) taskSchema b path = [] :=
    check_ref h List.mem_cons_self rfl
  obtain ⟨es, rfl⟩ := admits_object.mp (admits_of_check htask (.head _) hac)
  refine ⟨⟨es, rfl⟩, ?_, ?_, ?_, ?_, ?_⟩
  · have hreq := check_required htask (by simp [taskSchema]) rfl (List.mem_singleton_self "classes_dir")
    obtain ⟨v, hv⟩ := Option.ne_none_iff_exists'.mp hreq
    obtain ⟨hv', hac'⟩ := check_declaredProperty "classes_dir" nonEmptyText htask hac
      (by simp [propertySchemas, taskSchema]) hv
    obtain ⟨c, rfl, hc⟩ := nonEmptyText_of_check hv' hac'
    exact ⟨c, hv, hc⟩
  · intro key hkey v hv
    have hmem : (key, [Keyword.ref "string_list"]) ∈ propertySchemas taskSchema := by
      simp only [listProperties, List.mem_cons, List.not_mem_nil, or_false] at hkey
      rcases hkey with rfl | rfl | rfl | rfl | rfl | rfl | rfl <;> simp [propertySchemas, taskSchema]
    obtain ⟨hv', hac'⟩ := check_declaredProperty _ _ htask hac hmem hv
    exact strs_of_check hv' hac'
  · intro key hkey v hv
    have hmem : (key, [Keyword.type [.boolean]]) ∈ propertySchemas taskSchema := by
      simp only [switchProperties, List.mem_cons, List.not_mem_nil, or_false] at hkey
      rcases hkey with rfl | rfl | rfl | rfl | rfl | rfl <;> simp [propertySchemas, taskSchema]
    obtain ⟨hv', hac'⟩ := check_declaredProperty _ _ htask hac hmem hv
    exact admits_boolean.mp (admits_of_check hv' List.mem_cons_self hac')
  · intro v hv
    obtain ⟨hv', hac'⟩ := check_declaredProperty "target_compatibility" [.type [.string]] htask hac
      (by simp [propertySchemas, taskSchema]) hv
    exact admits_string.mp (admits_of_check hv' List.mem_cons_self hac')
  · intro v hv
    obtain ⟨hv', hac'⟩ := check_declaredProperty "engine" engineSpec htask hac
      (by simp [propertySchemas, taskSchema]) hv
    obtain ⟨spec, rfl⟩ := admits_string.mp (admits_of_check hv' (by simp [engineSpec]) hac')
    exact ⟨spec, rfl, check_pattern hv' (by simp [engineSpec]) rfl⟩

open Schema in
/-- **A document that passes the build-file schema is a build document.** -/
theorem buildDoc_of_check {fuel : Nat} {path : List String} {doc : Value}
    (h : check resolveName (fuel + 7) taskFileSchema doc path = []) (hac : doc.acyclic = true) :
    BuildDoc doc := by
  obtain ⟨es, rfl⟩ := admits_object.mp (admits_of_check h (by simp [taskFileSchema]) hac)
  refine ⟨⟨es, rfl⟩, ?_, ?_⟩
  · -- a project without a directory asks nothing; a project's directory passes its text schema
    intro v hv
    cases hp : (Value.dict es).get? "project" with
    | none =>
      rw [Value.field, hp, Option.getD_none] at hv
      simp [Value.get?] at hv
    | some p =>
      rw [Value.field, hp, Option.getD_some] at hv
      obtain ⟨hp', hacp⟩ := check_declaredProperty "project"
        [.type [.object], .closed, .properties
          [("dir", nonEmptyText), ("target_compatibility", [.type [.string]]), ("engine", engineSpec)]]
        h hac (by simp [propertySchemas, taskFileSchema]) hp
      obtain ⟨pes, rfl⟩ := admits_object.mp (admits_of_check hp' List.mem_cons_self hacp)
      obtain ⟨hdir, hacd⟩ := check_declaredProperty "dir" nonEmptyText hp' hacp
        (by simp [propertySchemas]) hv
      exact nonEmptyText_of_check hdir hacd
  · -- the tasks are required, a mapping of at least one entry, each passing the task schema
    have hreq := check_required h (by simp [taskFileSchema]) rfl (by simp : "tasks" ∈ ["tasks"])
    obtain ⟨x, hx⟩ := Option.ne_none_iff_exists'.mp hreq
    obtain ⟨hx', hacx⟩ := check_declaredProperty "tasks"
      [.type [.object], .minProperties 1, .propertyNames [.pattern taskNamePattern],
        .additional [.ref "task.schema.json"]]
      h hac (by simp [propertySchemas, taskFileSchema]) hx
    obtain ⟨tes, rfl⟩ := admits_object.mp (admits_of_check hx' List.mem_cons_self hacx)
    have hmin : 1 ≤ tes.length := check_minProperties hx' (by simp) rfl
    refine ⟨tes, hx, ?_, ?_⟩
    · rintro rfl
      simp at hmin
    · intro e he
      have hall : e ∈ undeclaredEntries
          [.type [.object], .minProperties 1, .propertyNames [.pattern taskNamePattern],
            .additional [.ref "task.schema.json"]] tes := by
        rw [undeclaredEntries_of_declared_nil rfl]
        exact he
      exact taskBlock_of_check (check_additional hx' (by simp) rfl hall)
        (Value.acyclic_dict.mp hacx e he).2

/-- **A build file that validates, and holds no part of itself, is a build document.** -/
theorem buildDoc_of_validate {doc : Value} (h : Schema.validate schemaName doc = .ok [])
    (hac : doc.acyclic = true) : BuildDoc doc :=
  buildDoc_of_check (Schema.check_of_validate rfl h) hac

end BuildFile

/-! ## Keeping first occurrences -/

namespace Config

theorem nodup_foldl_firstOccurrences :
    ∀ (xs acc : List String), acc.Nodup →
      (xs.foldl (fun acc x => if acc.contains x then acc else acc ++ [x]) acc).Nodup
  | [], _, h => h
  | y :: xs, acc, h => by
    rw [List.foldl_cons]
    apply nodup_foldl_firstOccurrences xs
    split
    · exact h
    · -- an item not seen yet extends a list without repeats
      rename_i hy
      have hy' : y ∉ acc := by simpa using hy
      refine List.nodup_append.mpr ⟨h, List.nodup_cons.mpr ⟨List.not_mem_nil, List.nodup_nil⟩, ?_⟩
      intro a ha b hb hab
      rw [List.mem_singleton] at hb
      subst hb hab
      exact hy' ha

/-- **Keeping first occurrences leaves no repeats.** -/
theorem firstOccurrences_nodup (xs : List String) : (firstOccurrences xs).Nodup :=
  nodup_foldl_firstOccurrences xs [] List.nodup_nil

theorem sublist_foldl_firstOccurrences :
    ∀ (xs acc : List String),
      (xs.foldl (fun acc x => if acc.contains x then acc else acc ++ [x]) acc).Sublist (acc ++ xs)
  | [], acc => by simp
  | y :: xs, acc => by
    rw [List.foldl_cons]
    refine (sublist_foldl_firstOccurrences xs _).trans ?_
    split
    · exact (List.sublist_cons_self y xs).append_left acc
    · simp

/-- **Keeping first occurrences keeps the items in their order.** -/
theorem firstOccurrences_sublist (xs : List String) : (firstOccurrences xs).Sublist xs := by
  have h := sublist_foldl_firstOccurrences xs []
  rw [List.nil_append] at h
  exact h

end Config

/-- Texts are keys, each the same key as only itself: keeping their first occurrences as values
keeps their first occurrences as texts. -/
theorem Value.firstOccurrences_strs (texts : List String) :
    Value.firstOccurrences (texts.map .str) = .ok ((Config.firstOccurrences texts).map .str) := by
  -- the fold over values follows the fold over texts, accumulator by accumulator
  have hfold : ∀ (ts acc : List String),
      (ts.map Value.str).foldlM (fun acc x => do
          x.checkKey
          pure (if acc.any (Value.equals · x) then acc else acc ++ [x])) (acc.map .str) =
        .ok ((ts.foldl (fun acc x => if acc.contains x then acc else acc ++ [x]) acc).map .str) := by
    intro ts
    induction ts with
    | nil => intro acc; rfl
    | cons t ts ih =>
      intro acc
      have hany : (acc.map Value.str).any (Value.equals · (.str t)) = acc.contains t := by
        rw [Bool.eq_iff_iff]
        simp [List.any_map, Function.comp_def, Value.equals, Value.sameKey]
      have hkey : (Value.str t).checkKey = .ok () := rfl
      simp only [List.map_cons, List.foldlM_cons, List.foldl_cons, bind, Except.bind, pure,
        Except.pure] at ih ⊢
      simp only [hkey, hany]
      split
      · exact ih acc
      · have h := ih (acc ++ [t])
        rwa [List.map_append, List.map_cons, List.map_nil] at h
  exact hfold texts []

/-! ## The tasks a build document declares -/

namespace CheckTask

/-- **A task property by its name**, the one `setProperty` sets; no property reads as null. -/
def property (t : CheckTask) : String → Value
  | "classes_dir" => t.classesDir
  | "classpath" => t.classpath
  | "signatures_files" => t.signaturesFiles
  | "signatures" => t.signatures
  | "bundled_signatures" => t.bundledSignatures
  | "target_compatibility" => t.targetCompatibility
  | "internal_runtime_forbidden" => t.internalRuntimeForbidden
  | "fail_on_unsupported_java" => t.failOnUnsupportedJava
  | "fail_on_missing_classes" => t.failOnMissingClasses
  | "fail_on_unresolvable_signatures" => t.failOnUnresolvableSignatures
  | "ignore_failures" => t.ignoreFailures
  | "disable_classloading_cache" => t.disableClassloadingCache
  | "suppress_annotations" => t.suppressAnnotations
  | "includes" => t.includes
  | "excludes" => t.excludes
  | "engine" => t.engine
  | _ => .null

/-- Setting a list or switch property to what it holds changes nothing. -/
theorem setProperty_property (t : CheckTask) {key : String}
    (hkey : key ∈ BuildFile.listProperties ++ BuildFile.switchProperties) :
    t.setProperty key (t.property key) = t := by
  simp only [BuildFile.listProperties, BuildFile.switchProperties, List.cons_append, List.nil_append,
    List.mem_cons, List.not_mem_nil, or_false] at hkey
  rcases hkey with rfl | rfl | rfl | rfl | rfl | rfl | rfl | rfl | rfl | rfl | rfl <;> rfl

end CheckTask

/-- A loop whose every round goes on with a new state is a fold. -/
theorem forIn_yield_eq_foldl {ε σ α : Type} (keys : List α) (t₀ : σ)
    (body : α → σ → Except ε (ForInStep σ)) (f : σ → α → σ)
    (hbody : ∀ key ∈ keys, ∀ t, body key t = pure (.yield (f t key))) :
    forIn keys t₀ body = pure (keys.foldl f t₀) := by
  induction keys generalizing t₀ with
  | nil => rfl
  | cons key keys ih =>
    rw [List.forIn_cons, hbody key List.mem_cons_self t₀]
    exact ih _ fun k hk t => hbody k (List.mem_cons_of_mem _ hk) t

/-- A step that succeeds on every item, each time as `P` says, maps a list. -/
theorem mapM_ok_of_forall {ε α β : Type} {f : α → Except ε β} {P : α → β → Prop} :
    ∀ {xs : List α}, (∀ x ∈ xs, ∃ y, f x = .ok y ∧ P x y) →
      ∃ ys, xs.mapM f = .ok ys ∧ List.Forall₂ P xs ys
  | [], _ => ⟨[], rfl, .nil⟩
  | x :: xs, h => by
    obtain ⟨y, hy, hP⟩ := h x List.mem_cons_self
    obtain ⟨ys, hys, hall⟩ := mapM_ok_of_forall fun x' hx' => h x' (List.mem_cons_of_mem _ hx')
    refine ⟨y :: ys, ?_, .cons hP hall⟩
    simp [List.mapM_cons, hy, hys, bind, Except.bind, pure, Except.pure]

namespace BuildFile

/-- **The task a block declares**, under its key: named by the key, in the project directory and
with the trace path; its classes directory as written; its classpath as written, else empty;
each list and switch property as written, else as a task has it by default; its include
patterns as written, each once at its first place, else the default; its target and engine from
the block, else from the project. -/
structure Declares (project : Value) (projectDir : String) (tracePath : Option String)
    (entry : Value × Value) (t : CheckTask) : Prop where
  name : t.name = entry.1
  projectDir : t.projectDir = projectDir
  tracePath : t.tracePath = tracePath
  classesDir : t.classesDir = entry.2.field "classes_dir"
  classpath : t.classpath = (entry.2.get? "classpath").getD (.list [])
  properties : ∀ key ∈ listProperties ++ switchProperties,
    t.property key = (entry.2.get? key).getD (({} : CheckTask).property key)
  includesGiven : ∀ texts, entry.2.get? "includes" = some (.strs texts) →
    t.includes = .strs (Config.firstOccurrences texts)
  includesDefault : entry.2.get? "includes" = none → t.includes = ({} : CheckTask).includes
  target : t.targetCompatibility =
    (entry.2.get? "target_compatibility").getD (project.field "target_compatibility")
  engine : t.engine = (entry.2.get? "engine").getD (project.field "engine")

/-- An engine spec is never empty. -/
theorem specPattern_not_matches_empty : Schema.specPattern.matches "" = false := by decide +kernel

/-- A block's engine, an engine spec when given, is taken when given. -/
theorem TaskBlock.engine_or {b : Value} (hb : TaskBlock b) (fallback : Value) :
    (if (b.field "engine").truthy then b.field "engine" else fallback) =
      (b.get? "engine").getD fallback := by
  cases h : b.get? "engine" with
  | none => simp [Value.field, h, Value.truthy]
  | some v =>
    obtain ⟨spec, rfl, hspec⟩ := hb.engine v h
    have hne : spec ≠ "" := by
      rintro rfl
      rw [specPattern_not_matches_empty] at hspec
      cases hspec
    simp [Value.field, h, Value.truthy, hne]

/-- **A task block declares its task**: reading it never fails. -/
theorem taskOf_declares (project : Value) (projectDir : String) (tracePath : Option String)
    {entry : Value × Value} (hb : TaskBlock entry.2) :
    ∃ t, taskOf project projectDir tracePath entry.1 entry.2 = .ok t ∧
      Declares project projectDir tracePath entry t := by
  obtain ⟨name, block⟩ := entry
  -- a list of texts is read as it is
  have hcp : listOf ((block.get? "classpath").getD (.list [])) =
      pure ((block.get? "classpath").getD (.list [])) := by
    cases h : block.get? "classpath" with
    | none => rfl
    | some v =>
      obtain ⟨texts, rfl⟩ := hb.texts "classpath" (by simp) v h
      rfl
  unfold taskOf
  rw [hcp, pure_bind]
  dsimp only
  -- each round of either loop sets its property from the block, or to what it holds
  rw [forIn_yield_eq_foldl _ _ _ (fun t key => t.setProperty key ((block.get? key).getD (t.property key)))
    ?lists, pure_bind]
  rw [forIn_yield_eq_foldl _ _ _ (fun t key => t.setProperty key ((block.get? key).getD (t.property key)))
    ?switches, pure_bind]
  case lists =>
    intro key hkey t
    cases h : block.get? key with
    | none =>
      dsimp only
      rw [Option.getD_none, CheckTask.setProperty_property t (List.mem_append_left _ hkey)]
    | some v =>
      obtain ⟨texts, rfl⟩ := hb.texts key (List.mem_cons_of_mem _ (List.mem_cons_of_mem _ hkey)) v h
      rfl
  case switches =>
    intro key hkey t
    cases h : block.get? key with
    | none =>
      dsimp only
      rw [Option.getD_none, CheckTask.setProperty_property t (List.mem_append_right _ hkey)]
    | some v =>
      obtain ⟨x, rfl⟩ := hb.switches key hkey v h
      rfl
  -- the include patterns, when given, are kept once each
  cases hinc : block.get? "includes" with
  | none =>
    refine ⟨_, rfl, rfl, rfl, rfl, rfl, rfl, ?_, ?_, fun _ => rfl, rfl, hb.engine_or _⟩
    · intro key hkey
      simp only [listProperties, switchProperties, List.cons_append, List.nil_append, List.mem_cons,
        List.not_mem_nil, or_false] at hkey
      rcases hkey with rfl | rfl | rfl | rfl | rfl | rfl | rfl | rfl | rfl | rfl | rfl <;> rfl
    · intro texts h
      rw [hinc] at h
      cases h
  | some v =>
    obtain ⟨texts, rfl⟩ := hb.texts "includes" (by simp) v hinc
    have hset : ∀ t : CheckTask, t.setIncludes (.strs texts) =
        pure { t with includes := .strs (Config.firstOccurrences texts) } := by
      intro t
      simp only [CheckTask.setIncludes, Value.strs, Value.elements, Value.unfold,
        Value.firstOccurrences_strs, bind, Except.bind, pure, Except.pure]
    simp only [hset]
    refine ⟨_, rfl, rfl, rfl, rfl, rfl, rfl, ?_, ?_, ?_, rfl, hb.engine_or _⟩
    · intro key hkey
      simp only [listProperties, switchProperties, List.cons_append, List.nil_append, List.mem_cons,
        List.not_mem_nil, or_false] at hkey
      rcases hkey with rfl | rfl | rfl | rfl | rfl | rfl | rfl | rfl | rfl | rfl | rfl <;> rfl
    · intro texts' h
      rw [hinc, Option.some.injEq, Value.strs, Value.strs, Value.list.injEq,
        List.map_inj_right fun _ _ => Value.str.inj] at h
      rw [h]
    · intro h
      rw [hinc] at h
      cases h

/-- A project value is read as itself, or as an empty mapping when it is no truthy value: either
way its fields are its own. -/
theorem field_truthy_or_empty (v : Value) (key : String) :
    (if v.truthy then v else .dict []).field key = v.field key := by
  split
  · rfl
  · rename_i hfalse
    cases v <;> simp_all [Value.field, Value.get?, Value.truthy, Value.lookup]

/-- The project section a build file gives its tasks: its `project` value when truthy, else an
empty mapping. -/
def projectOf (doc : Value) : Value :=
  if (doc.field "project").truthy then doc.field "project" else .dict []

/-- The directory the tasks of a build file are read against. -/
def projectDirOf (tree : FileTree) (path : String) (doc : Value) : String :=
  let dir := match (projectOf doc).field "dir" with
    | .str d => if d.isEmpty then "." else Path.clean d
    | _ => "."
  if Path.isAbsolute dir then dir else Path.child (realParent tree path) dir

/-- The task blocks of a build file, by their keys. -/
def blocksOf (doc : Value) : List (Value × Value) :=
  match doc.field "tasks" with
  | .dict es => es
  | _ => []

/-- Reading the tasks of a build file reads each block in turn, and changes nothing. -/
theorem tasks_run (s : Session) (path : String) (doc : Value) (tracePath : Option String) :
    (BuildFile.tasks path doc tracePath).run s =
      ((blocksOf doc).mapM (fun e => taskOf (projectOf doc) (projectDirOf s.tree path doc) tracePath e.1 e.2),
        s) := by
  unfold BuildFile.tasks
  simp only [Audit.run_bind, Audit.run_get, Audit.run_lift]
  rfl

/-- **The tasks of a build document**: one per entry of its tasks mapping, in order, each as its
block declares it, all read against one directory: the project directory when absolute, else the
project directory (or `.` without one) under the directory that holds the build file.  Reading
them never fails and changes nothing. -/
theorem tasks_declared (s : Session) (path : String) (tracePath : Option String) {doc : Value}
    (hdoc : BuildDoc doc) :
    ∃ entries tasks projectDir,
      doc.get? "tasks" = some (.dict entries) ∧
      (BuildFile.tasks path doc tracePath).run s = (.ok tasks, s) ∧
      List.Forall₂ (Declares (doc.field "project") projectDir tracePath) entries tasks ∧
      (∀ d, (doc.field "project").get? "dir" = some (.str d) →
        projectDir = if Path.isAbsolute (Path.clean d) then Path.clean d
          else Path.child (realParent s.tree path) (Path.clean d)) ∧
      ((doc.field "project").get? "dir" = none →
        projectDir = Path.child (realParent s.tree path) ".") := by
  obtain ⟨entries, htasks, -, hblocks⟩ := hdoc.tasks
  have hentries : blocksOf doc = entries := by
    simp [blocksOf, Value.field, htasks]
  obtain ⟨tasks, hmap, hall⟩ : ∃ ts, entries.mapM (fun e => taskOf (projectOf doc)
      (projectDirOf s.tree path doc) tracePath e.1 e.2) = .ok ts ∧
      List.Forall₂ (Declares (projectOf doc) (projectDirOf s.tree path doc) tracePath) entries ts :=
    mapM_ok_of_forall fun e he => taskOf_declares _ _ tracePath (hblocks e he)
  refine ⟨entries, tasks, projectDirOf s.tree path doc, htasks, ?_, ?_, ?_, ?_⟩
  · rw [tasks_run, hentries, hmap]
  · -- the project the blocks fall back on has the fields of the `project` value
    refine hall.imp fun e t hd => { hd with target := ?_, engine := ?_ }
    · rw [hd.target, projectOf, field_truthy_or_empty]
    · rw [hd.engine, projectOf, field_truthy_or_empty]
  · intro d hd
    have hne : d ≠ "" := by
      obtain ⟨d', hd', hne⟩ := hdoc.projectDir _ hd
      cases hd'
      exact hne
    have hdir : (projectOf doc).field "dir" = .str d := by
      rw [projectOf, field_truthy_or_empty, Value.field, hd, Option.getD_some]
    have hempty : d.isEmpty = false := by simpa using hne
    simp only [projectDirOf, hdir, hempty, Bool.false_eq_true, if_false]
  · intro hd
    have hdir : (projectOf doc).field "dir" = .null := by
      rw [projectOf, field_truthy_or_empty, Value.field, hd, Option.getD_none]
    have hdot : Path.isAbsolute "." = false := by decide
    simp only [projectDirOf, hdir, hdot, Bool.false_eq_true, if_false]

/-! ## Reading a build file -/

/-- **The text a build file holds**, as the YAML reader sees it: its bytes read as UTF-8, line ends
unified. -/
def Holds (tree : FileTree) (path text : String) : Prop :=
  ∃ bytes raw, tree.readBytes path = .ok bytes ∧ Text.decodeUtf8 bytes = .ok raw ∧
    text = String.ofList (Text.unifyLineEnds raw.toList)

/-- **How reading a build file ends**, stage by stage: a missing file is not found; bytes that
are no UTF-8 are a decoding fault; a text that is no YAML is invalid, with the reader's message; a
scalar the reader refuses to build is a fault of its own; a document the schema finds errors in
is invalid against the schema, with every error listed, unless an error cannot be shown, which
is a fault; a document the schema accepts is the result. -/
inductive Loaded (tree : FileTree) (path : String) : Except Failure Value → Prop
  | notFound : tree.isFile path = false →
      Loaded tree path (.error (.config "build_file.not_found" ("Build file not found: " ++ path)))
  | undecodable {bytes : List UInt8} {e : Text.Utf8Error} : tree.readBytes path = .ok bytes →
      Text.decodeUtf8 bytes = .error e → Loaded tree path (.error (.fault ⟨.unicodeDecode, e.text⟩))
  | notYaml {text : String} {e : Yaml.Error} : Holds tree path text → Yaml.load text = .error e →
      e.isSyntax = true →
      Loaded tree path (.error (.config "build_file.invalid"
        ("Build file is not valid YAML: " ++ path ++ ": " ++ e.message (Yaml.bufferOf text))))
  | refused {text : String} {r : Yaml.Refusal} : Holds tree path text →
      Yaml.load text = .error (.refused r) → Loaded tree path (.error (.fault ⟨r.faultKind, r.message⟩))
  | schemaInvalid {text : String} {doc : Value} {errors : List String} : Holds tree path text →
      Yaml.load text = .ok doc → Schema.validate schemaName doc = .ok errors → errors ≠ [] →
      Loaded tree path (.error (.config "build_file.schema_invalid"
        ("Build file does not validate against " ++ schemaName ++ ": " ++ "; ".intercalate errors)
        (some (Value.obj [("errors", Value.strs errors)]))))
  | unshown {text : String} {doc : Value} {f : Fault} : Holds tree path text →
      Yaml.load text = .ok doc → Schema.validate schemaName doc = .error f →
      Loaded tree path (.error (.fault f))
  | valid {text : String} {doc : Value} : Holds tree path text → Yaml.load text = .ok doc →
      Schema.validate schemaName doc = .ok [] → Loaded tree path (.ok doc)

/-- **Reading a build file ends as `Loaded` says, and changes nothing.** -/
theorem load_loaded (s : Session) (path : String) :
    Loaded s.tree path ((BuildFile.load path).run s).1 ∧ ((BuildFile.load path).run s).2 = s := by
  unfold BuildFile.load
  rw [Audit.run_bind_ok (Audit.run_get s)]
  dsimp only
  cases hfile : s.tree.isFile path with
  | false =>
    simp only [Bool.not_false, ↓reduceIte, Audit.run_bind, Audit.run_throw]
    exact ⟨.notFound hfile, trivial⟩
  | true =>
    -- a file is read; its bytes are decoded, then read as YAML, then validated
    obtain ⟨bytes, hbytes⟩ := FileTree.readBytes_of_isFile hfile
    have hread : (Audit.lift ((s.tree.readBytes path).mapError (Failure.fault ∘ Fault.ofOs))).run s =
        (.ok bytes, s) := by
      rw [hbytes]
      rfl
    simp only [Bool.not_true, Bool.false_eq_true, ↓reduceIte]
    rw [Audit.run_bind_ok hread]
    cases hdec : Text.decodeUtf8 bytes with
    | error e =>
      simp only [Audit.run_bind, Audit.run_throw]
      exact ⟨.undecodable hbytes hdec, trivial⟩
    | ok raw =>
      have hholds : Holds s.tree path (String.ofList (Text.unifyLineEnds raw.toList)) :=
        ⟨bytes, raw, hbytes, hdec, rfl⟩
      simp only [pure_bind]
      generalize String.ofList (Text.unifyLineEnds raw.toList) = text at hholds ⊢
      cases hy : Yaml.load text with
      | error e =>
        cases hsyn : e.isSyntax with
        | false =>
          -- only a refused scalar is no error of the language
          cases e with
          | refused r =>
            simp only [hsyn, Bool.not_false, ↓reduceIte, Audit.run_bind, Audit.run_throw]
            exact ⟨.refused hholds hy, trivial⟩
          | _ => simp [Yaml.Error.isSyntax] at hsyn
        | true =>
          simp only [hsyn, Bool.not_true, Bool.false_eq_true, ↓reduceIte, Audit.run_throw]
          exact ⟨.notYaml hholds hy hsyn, trivial⟩
      | ok doc =>
        cases hv : Schema.validate schemaName doc with
        | error f =>
          simp only [hv, Except.mapError, Audit.lift, Audit.run_bind, Audit.run_throw]
          exact ⟨.unshown hholds hy hv, trivial⟩
        | ok errors =>
          cases errors with
          | nil =>
            simp only [hv, Except.mapError, Audit.lift, Audit.run_bind, Audit.run_pure, List.isEmpty_nil,
              Bool.not_true, Bool.false_eq_true, ↓reduceIte]
            exact ⟨.valid hholds hy hv, trivial⟩
          | cons e es =>
            simp only [hv, Except.mapError, Audit.lift, Audit.run_bind, Audit.run_pure, Audit.run_throw,
              List.isEmpty_cons, Bool.not_false, ↓reduceIte]
            exact ⟨.schemaInvalid hholds hy hv (List.cons_ne_nil _ _), trivial⟩

/-- What reading a build file returns validates. -/
theorem Loaded.validates {tree : FileTree} {path : String} {doc : Value}
    (h : Loaded tree path (.ok doc)) : Schema.validate schemaName doc = .ok [] := by
  cases h with
  | valid _ _ hv => exact hv

/-- A working directory whose build file holds one byte that starts no UTF-8 sequence. -/
def undecodableSession : Session :=
  { tree := FileTree.initial.put ["work", defaultName] (.file [0xff]), env := Environment.base }

end BuildFile

end ApiAudit
