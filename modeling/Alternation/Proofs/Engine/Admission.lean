/-
# Which requests are admitted

`SPEC_FULL` §6, *HTTP*, and §7: `get_trials_from_store`, `materials_ids`, `validate_id`,
`load` and `status`.

A request for a trial set out of a store names an experiment and lists identifiers.
It is refused (`Refused`) by the first check that it fails, and these checks look at
no file:

| check | error | status |
| --- | --- | --- |
| the experiment is registered | `unknownExperiment` | 404 |
| some entry of the list is not blank | `missingMaterials` | 400 |
| two entries are not blank | `materialsCount` | 400 |
| the first of them is valid, and then the second | `invalidIdentifier` | 400 |

Otherwise it is admitted (`Admitted`), and then the two files are loaded, the first one
first, and the trial set is rendered (`Settled`).  Nothing else is read
(`outcome_of_request`): the path of each file is the root of the store and one
component more, and file systems that agree on these two paths give the same outcome.
-/

import Alternation.Proofs.Run
import Alternation.Proofs.Store.Path
import Alternation.Proofs.Text.Words
import Alternation.Server.Router

namespace Alternation

/-! ## The materials parameter -/

/-- A list of identifiers is its parts, trimmed, without those that are blank. -/
theorem MaterialsId.split_eq_kept (list : String) :
    split list = Text.kept (splitString ',' list) := rfl

/-- A list has no identifiers just if all its parts are blank. -/
theorem MaterialsId.split_eq_nil_iff (list : String) :
    split list = [] ↔
      ∀ part ∈ splitString ',' list, ∀ c ∈ part.toList, Text.isBlank c = true := by
  rw [split_eq_kept, Text.kept_eq_nil_iff]
  simp only [Text.trimmed_eq_empty_iff]

/-- The entries of a materials parameter that are not blank. -/
def entries (parameter : Option String) : List String := parameter.elim [] MaterialsId.split

/-- A parameter is taken only if it has two entries; none at all is an error of its own. -/
theorem materialsIds_eq (parameter : Option String) :
    materialsIds parameter =
      match entries parameter with
      | [] => .error .missingMaterials
      | [experimental, fillers] => .ok (experimental, fillers)
      | ids => .error (.materialsCount ids.length) := by
  cases parameter <;> rfl

/-- A parameter has no entries just if there is none, or all its parts are blank. -/
theorem entries_eq_nil_iff (parameter : Option String) :
    entries parameter = [] ↔ ∀ list ∈ parameter, ∀ part ∈ splitString ',' list,
      ∀ c ∈ part.toList, Text.isBlank c = true := by
  cases parameter with
  | none => simp [entries]
  | some list => simpa [entries] using MaterialsId.split_eq_nil_iff list

namespace Engine

/-- What a request comes to. -/
abbrev Outcome := Except EngineError TrialSet

/-! ## The checks -/

/-- The request fails a check that looks at no file, and this is the first such. -/
inductive Refused (registry : Registry) (name : String) (parameter : Option String) :
    EngineError → Prop
  | unknownExperiment (unknown : registry.create? name = none) :
      Refused registry name parameter (.unknownExperiment name)
  | missingMaterials {e : Experiment} (known : registry.create? name = some e)
      (blank : ∀ list ∈ parameter, ∀ part ∈ splitString ',' list, ∀ c ∈ part.toList,
        Text.isBlank c = true) :
      Refused registry name parameter .missingMaterials
  | materialsCount {e : Experiment} (known : registry.create? name = some e)
      (some_entry : entries parameter ≠ []) (not_two : (entries parameter).length ≠ 2) :
      Refused registry name parameter (.materialsCount (entries parameter).length)
  | invalidIdentifier {e : Experiment} (known : registry.create? name = some e)
      {first second id : String} (two : entries parameter = [first, second])
      (first_invalid : [first, second].find? (!MaterialsId.isValid ·) = some id) :
      Refused registry name parameter (.store (.invalidIdentifier id))

/-- The request passes all checks that look at no file. -/
structure Admitted (registry : Registry) (name : String) (parameter : Option String)
    (e : Experiment) (first second : String) : Prop where
  known : registry.create? name = some e
  two : entries parameter = [first, second]
  first_valid : MaterialsId.isValid first = true
  second_valid : MaterialsId.isValid second = true

/-- The status that a refusal is answered with. -/
def refusalStatus : EngineError → Nat
  | .unknownExperiment _ => 404
  | _ => 400

/-- A request fails a check that looks at no file, or passes them all. -/
theorem refused_or_admitted (registry : Registry) (name : String) (parameter : Option String) :
    (∃ error, Refused registry name parameter error) ∨
      ∃ e first second, Admitted registry name parameter e first second := by
  cases known : registry.create? name with
  | none => exact .inl ⟨_, .unknownExperiment known⟩
  | some e =>
    by_cases hnil : entries parameter = []
    · exact .inl ⟨_, .missingMaterials known ((entries_eq_nil_iff parameter).1 hnil)⟩
    · by_cases htwo : (entries parameter).length = 2
      · obtain ⟨first, second, two⟩ := List.length_eq_two.1 htwo
        cases hfind : [first, second].find? (!MaterialsId.isValid ·) with
        | some id => exact .inl ⟨_, .invalidIdentifier known two hfind⟩
        | none =>
          rw [List.find?_eq_none] at hfind
          have hvalid : ∀ id ∈ [first, second], MaterialsId.isValid id = true := by
            intro id hid
            simpa using hfind id hid
          exact .inr ⟨e, first, second, known, two, hvalid first (by simp),
            hvalid second (by simp)⟩
      · exact .inl ⟨_, .materialsCount known hnil htwo⟩

section

variable {engine : Engine} {files files' : FileSystem} {store : MaterialsStore} {name : String}
  {parameter : Option String} {e : Experiment} {first second : String} {error : EngineError}

/-- A registered experiment is found. -/
theorem experiment_of_known (known : engine.registry.create? name = some e) :
    engine.experiment name = .ok e := by
  rw [Engine.experiment, known]

/-- An identifier that is not valid is refused by its name. -/
theorem validate_of_invalid {id : String} (h : MaterialsId.isValid id = false) :
    MaterialsId.validate id = .error (.invalidIdentifier id) := by
  rw [MaterialsId.validate, h]
  rfl

/-- A valid identifier passes. -/
theorem validate_of_valid {id : String} (h : MaterialsId.isValid id = true) :
    MaterialsId.validate id = .ok () := by
  rw [MaterialsId.validate, if_pos h]

variable [Complaints]

/-- A refusal comes before any file is looked at. -/
theorem prepare_of_refused (h : Refused engine.registry name parameter error) :
    engine.prepare files store name parameter = .error error := by
  cases h with
  | unknownExperiment unknown =>
    rw [prepare, Engine.experiment, unknown]
    rfl
  | missingMaterials known blank =>
    rw [prepare, experiment_of_known known, materialsIds_eq,
      (entries_eq_nil_iff parameter).2 blank]
    rfl
  | materialsCount known some_entry not_two =>
    rw [prepare, experiment_of_known known, materialsIds_eq]
    match hentries : entries parameter with
    | [] => exact absurd hentries some_entry
    | [_] => rfl
    | [_, _] => rw [hentries] at not_two; exact absurd rfl not_two
    | _ :: _ :: _ :: _ => rfl
  | @invalidIdentifier e known first second id two first_invalid =>
    rw [prepare, experiment_of_known known, materialsIds_eq, two]
    by_cases hfirst : MaterialsId.isValid first = true
    · rw [List.find?_cons_of_neg (by simp [hfirst])] at first_invalid
      have hid : id = second := List.mem_singleton.1 (List.mem_of_find?_eq_some first_invalid)
      have hsecond : MaterialsId.isValid id = false := by
        simpa using List.find?_some first_invalid
      rw [hid] at hsecond ⊢
      show (ofStore (MaterialsId.validate first) >>= fun _ => _) = _
      rw [validate_of_valid hfirst]
      show (ofStore (MaterialsId.validate second) >>= fun _ => _) = _
      rw [validate_of_invalid hsecond]
      rfl
    · have hfirst' : MaterialsId.isValid first = false := by simpa using hfirst
      rw [List.find?_cons_of_pos (by simp [hfirst'])] at first_invalid
      obtain rfl := Option.some.inj first_invalid
      show (ofStore (MaterialsId.validate first) >>= fun _ => _) = _
      rw [validate_of_invalid hfirst']
      rfl

/-- An admitted request is ready for rendering when both files are loaded. -/
theorem prepare_of_admitted (h : Admitted engine.registry name parameter e first second) :
    engine.prepare files store name parameter = (do
      let experimental ← ofStore (store.load files first)
      let fillers ← ofStore (store.load files second)
      return (e, ⟨experimental, fillers⟩, first ++ "," ++ second)) := by
  rw [prepare, experiment_of_known h.known, materialsIds_eq, h.two]
  show (ofStore (MaterialsId.validate first) >>= fun _ => _) = _
  rw [validate_of_valid h.first_valid]
  show (ofStore (MaterialsId.validate second) >>= fun _ => _) = _
  rw [validate_of_valid h.second_valid]
  rfl

/-! ## The files -/

/-- With a valid identifier, loading is reading the file and then its text. -/
theorem load_of_valid {id : String} (h : MaterialsId.isValid id = true) :
    store.load files id =
      match files.readText (store.path id) with
      | .ok source =>
        match MaterialsSet.parse? source with
        | some set => .ok set
        | none => .error (.malformed id (Complaints.materials source))
      | .error .noSuchFile => .error (.notFound id)
      | .error cause => .error (.io id cause) := by
  rw [MaterialsStore.load, MaterialsStore.pathFor, validate_of_valid h]
  rfl

/-- Loading reads one file. -/
theorem load_congr {id : String} (h : MaterialsId.isValid id = true)
    (agree : files.read (store.path id) = files'.read (store.path id)) :
    store.load files id = store.load files' id := by
  rw [load_of_valid h, load_of_valid h, FileSystem.readText, FileSystem.readText, agree]

/-- The status that a failure to load a file is answered with: whether it is absent. -/
def loadStatus : Except OsError ByteArray → Nat
  | .error .noSuchFile => 404
  | _ => 500

/-- Whether the file is there tells the status of a failure to load it. -/
theorem statusOf_of_load {id : String} (h : MaterialsId.isValid id = true) {error : StoreError}
    (hload : store.load files id = .error error) :
    Server.statusOf (.store error) = loadStatus (files.read (store.path id)) := by
  rw [load_of_valid h, FileSystem.readText] at hload
  cases hread : files.read (store.path id) with
  | ok bytes =>
    rw [hread] at hload
    dsimp only at hload
    cases htext : String.fromUTF8? bytes with
    | none =>
      rw [htext] at hload
      obtain rfl := Except.error.inj hload
      rfl
    | some source =>
      rw [htext] at hload
      dsimp only at hload
      cases hset : MaterialsSet.parse? source with
      | none =>
        rw [hset] at hload
        obtain rfl := Except.error.inj hload
        rfl
      | some set =>
        rw [hset] at hload
        exact nomatch hload
  | error cause =>
    rw [hread] at hload
    cases cause <;> obtain rfl := Except.error.inj hload <;> rfl

/-! ## What an admitted request comes to -/

/-- What an admitted request comes to, and the response to it: the first file is
loaded, then the second, and then the trial set is rendered. -/
inductive Settled (engine : Engine) (files : FileSystem) (store : MaterialsStore) (e : Experiment)
    (first second : String) : Outcome → Server.Response → Prop
  | first_fails {error : StoreError} (load : store.load files first = .error error) :
      Settled engine files store e first second (.error (.store error))
        (.text (loadStatus (files.read (store.path first))) error.message)
  | second_fails {experimental : MaterialsSet} {error : StoreError}
      (load_first : store.load files first = .ok experimental)
      (load_second : store.load files second = .error error) :
      Settled engine files store e first second (.error (.store error))
        (.text (loadStatus (files.read (store.path second))) error.message)
  | render_fails {experimental fillers : MaterialsSet} {error : RenderError}
      (load_first : store.load files first = .ok experimental)
      (load_second : store.load files second = .ok fillers)
      (render : engine.rendered e ⟨experimental, fillers⟩ (first ++ "," ++ second) =
        .error (.render error)) :
      Settled engine files store e first second (.error (.render error))
        (.text 500 (EngineError.render error).message)
  | rendered {experimental fillers : MaterialsSet} {set : TrialSet}
      (load_first : store.load files first = .ok experimental)
      (load_second : store.load files second = .ok fillers)
      (render : engine.rendered e ⟨experimental, fillers⟩ (first ++ "," ++ second) = .ok set) :
      Settled engine files store e first second (.ok set) (.json set.toJson)

/-- A request that is prepared is rendered and counts; one that is not leaves the engine
alone. -/
theorem run_fromStore (engine : Engine) (files : FileSystem) (store : MaterialsStore)
    (name : String) (parameter : Option String) :
    (fromStore files store name parameter).run.run engine =
      match engine.prepare files store name parameter with
      | .ok (e, materials, materialsId) =>
        (engine.rendered e materials materialsId, engine.advance)
      | .error error => (.error error, engine) := by
  unfold fromStore
  refine (run_bind_read (fun engine => engine.prepare files store name parameter) _ engine).trans ?_
  cases engine.prepare files store name parameter with
  | ok ready => rfl
  | error error => rfl

omit [Complaints] in
/-- Rendering fails only with an error of rendering. -/
theorem rendered_eq_render {materials : MaterialsBundle} {materialsId : String}
    (h : engine.rendered e materials materialsId = .error error) :
    ∃ cause, error = .render cause := by
  unfold Engine.rendered at h
  cases hrun : ((e.assemble engine.names materials materialsId).run engine.stream).1 with
  | ok set =>
    rw [hrun] at h
    exact nomatch h
  | error cause =>
    rw [hrun] at h
    exact ⟨cause, (Except.error.inj h).symm⟩

/-- A file that is not loaded is answered for as absent, or as a fault of the server. -/
theorem respond_of_load {id : String} (h : MaterialsId.isValid id = true) {error : StoreError}
    (hload : store.load files id = .error error) :
    Server.respond (.error (.store error)) =
      .text (loadStatus (files.read (store.path id))) error.message := by
  rw [← statusOf_of_load h hload]
  rfl

/-- **An admitted request** is settled by its two files and the rendering. -/
theorem settled_of_admitted (h : Admitted engine.registry name parameter e first second) :
    Settled engine files store e first second
      ((fromStore files store name parameter).run.run engine).1
      (Server.respond ((fromStore files store name parameter).run.run engine).1) := by
  rw [run_fromStore, prepare_of_admitted h]
  cases hfirst : store.load files first with
  | error cause =>
    show Settled engine files store e first second (.error (.store cause))
      (Server.respond (.error (.store cause)))
    rw [respond_of_load h.first_valid hfirst]
    exact .first_fails hfirst
  | ok experimental =>
    cases hsecond : store.load files second with
    | error cause =>
      show Settled engine files store e first second (.error (.store cause))
        (Server.respond (.error (.store cause)))
      rw [respond_of_load h.second_valid hsecond]
      exact .second_fails hfirst hsecond
    | ok fillers =>
      show Settled engine files store e first second
        (engine.rendered e ⟨experimental, fillers⟩ (first ++ "," ++ second))
        (Server.respond (engine.rendered e ⟨experimental, fillers⟩ (first ++ "," ++ second)))
      cases hrender : engine.rendered e ⟨experimental, fillers⟩ (first ++ "," ++ second) with
      | ok set => exact .rendered hfirst hsecond hrender
      | error error =>
        obtain ⟨cause, rfl⟩ := rendered_eq_render hrender
        exact .render_fails hfirst hsecond hrender

/-- Of the files, the outcome depends on the two that are named. -/
theorem outcome_congr (h : Admitted engine.registry name parameter e first second)
    (agree_first : files.read (store.path first) = files'.read (store.path first))
    (agree_second : files.read (store.path second) = files'.read (store.path second)) :
    ((fromStore files store name parameter).run.run engine).1 =
      ((fromStore files' store name parameter).run.run engine).1 := by
  rw [run_fromStore, run_fromStore, prepare_of_admitted h, prepare_of_admitted h,
    load_congr h.first_valid agree_first, load_congr h.second_valid agree_second]

end

/-- **Requests are confined to two files.**  A request is refused, and then it comes to
the same with every file system and whatever the files hold; or it is admitted, and
then the paths of its two files are the root and one component more, what it comes to
is settled by loading the first file, loading the second and rendering, in this order,
and file systems that agree on these two paths give the same outcome and response. -/
theorem outcome_of_request [Complaints] (engine : Engine) (store : MaterialsStore) (name : String)
    (parameter : Option String) :
    (∃ error, Refused engine.registry name parameter error ∧
      ∀ files, ((fromStore files store name parameter).run.run engine).1 = .error error ∧
        Server.respond ((fromStore files store name parameter).run.run engine).1 =
          .text (refusalStatus error) error.message) ∨
    ∃ e first second, Admitted engine.registry name parameter e first second ∧
      (∀ id ∈ [first, second], Path.Single (MaterialsId.fileName id) ∧
        Path.components (store.path id) =
          Path.components store.root ++ [MaterialsId.fileName id]) ∧
      (∀ files, Settled engine files store e first second
        ((fromStore files store name parameter).run.run engine).1
        (Server.respond ((fromStore files store name parameter).run.run engine).1)) ∧
      ∀ files files' : FileSystem,
        (∀ id ∈ [first, second], files.read (store.path id) = files'.read (store.path id)) →
        ((fromStore files store name parameter).run.run engine).1 =
            ((fromStore files' store name parameter).run.run engine).1 ∧
          Server.respond ((fromStore files store name parameter).run.run engine).1 =
            Server.respond ((fromStore files' store name parameter).run.run engine).1 := by
  rcases refused_or_admitted engine.registry name parameter with
    ⟨error, refused⟩ | ⟨e, first, second, admitted⟩
  · refine .inl ⟨error, refused, fun files => ?_⟩
    rw [run_fromStore, prepare_of_refused refused]
    refine ⟨rfl, ?_⟩
    cases refused <;> rfl
  · have valid : ∀ id ∈ [first, second], MaterialsId.isValid id = true := by
      simp [admitted.first_valid, admitted.second_valid]
    refine .inr ⟨e, first, second, admitted, fun id hid => ?_,
      fun files => settled_of_admitted admitted, fun files files' agree => ?_⟩
    · exact ⟨MaterialsId.single_fileName (valid id hid), store.components_path (valid id hid)⟩
    · have hcongr := outcome_congr admitted (agree first (by simp)) (agree second (by simp))
      exact ⟨hcongr, congrArg Server.respond hcongr⟩

end Engine
end Alternation
