import SchemaBindings.Proofs.Failure
import SchemaBindings.Proofs.Trees
import SchemaBindings.Run

/-!
# Outcomes of a run

Mapping, rendering and writing take turns, but what a run does is laid down by its documents: a plan lists the modules
in the order in which they are written, and the unknown types at which it ends. A run performs its plan up to the
first step that fails (`Job.files_writeDocuments`). So a run has one of three outcomes: the output directory cannot be
made, or a schema file cannot be read, and no file changes; or the files change exactly as the modules before the first
failure say, each rendered on the tree that those before it have left (`RunRequest.outcome_run`). A failure to read a
schema file names it, but for the failures that the run does not expect (`RunRequest.unnamed_undecodable_schema`).
-/

namespace SchemaBindings

open Schema

/-- The schema file that a failure to read one names. -/
def RunError.schemaPath? : RunError → Option String
  | schemaUnreadable path _ => some path
  | schemaInvalid path fault => if fault.isExpected then some path else none
  | _ => none

theorem Module.endsIn_relativePath (m : Module) : EndsIn ".py" m.relativePath := by
  refine endsIn_intercalate ⟨m.name.toList, ?_⟩ "/" _
  rw [String.toList_append]

namespace Job

variable {j : Job} {t t' : FileTree}

theorem endsIn_pathOf (j : Job) (m : Module) : EndsIn ".py" (j.pathOf m).text :=
  Path.endsIn_text_join isEnding_source m.endsIn_relativePath j.output

/-! ### Plans -/

/-- A step of a run after its documents are read. -/
inductive Step
  | write (m : Module)
  /-- A name in the document at the path means nothing. -/
  | refuse (e : UnknownType) (path : String)

/-- What comes of mapping a definition, or of leaving it out: all modules of a definition are mapped before any of them
is written. -/
def stepsOf (path : String) : Option (Except UnknownType (List Module)) → List Step
  | none => []
  | some (.error e) => [.refuse e path]
  | some (.ok modules) => modules.map .write

/-- The steps of a run over documents: the definitions of each document in order, and the resolvers at its end. -/
def plan (s : Scope) (documents : List (String × Document)) : List Step :=
  documents.flatMap fun (path, document) => (s.steps document).flatMap (stepsOf path)

/-- Performs steps until one fails. -/
def perform (j : Job) : List Step → Running (List String)
  | [] => return []
  | .refuse e path :: _ => throw (.unknownType e path)
  | .write m :: steps => do
    let file ← j.writeModule m
    return file :: (← j.perform steps)

theorem perform_append (steps steps' : List Step) :
    j.perform (steps ++ steps') = do
      let files ← j.perform steps
      return files ++ (← j.perform steps') := by
  induction steps with
  | nil => simp [perform]
  | cons step steps ih =>
    cases step with
    | refuse e path => rfl
    | write m => simp [perform, ih]

theorem perform_map_write (modules : List Module) : j.perform (modules.map .write) = modules.mapM j.writeModule := by
  induction modules with
  | nil => rfl
  | cons m modules ih => rw [List.map_cons, perform, ih, List.mapM_cons]

theorem files_writeSteps (path : String) (steps : List (Option (Except UnknownType (List Module)))) :
    Prod.fst <$> j.writeSteps path steps = j.perform (steps.flatMap (stepsOf path)) := by
  induction steps with
  | nil => rfl
  | cons step steps ih =>
    rw [List.flatMap_cons]
    match step with
    | none => rw [writeSteps, stepsOf, List.nil_append, ← ih]; simp
    | some (.error e) => rfl
    | some (.ok modules) =>
      rw [writeSteps, stepsOf, perform_append, perform_map_write, ← ih]
      simp

/-- A run performs its plan. -/
theorem files_writeDocuments (s : Scope) (documents : List (String × Document)) :
    (List.flatMap Generated.files) <$> documents.mapM (fun (path, document) => j.writeDocument s path document) =
      j.perform (plan s documents) := by
  induction documents with
  | nil => rfl
  | cons document documents ih =>
    have hfirst : Generated.files <$> j.writeDocument s document.1 document.2 =
        j.perform ((s.steps document.2).flatMap (stepsOf document.1)) := by
      rw [← files_writeSteps, writeDocument]
      simp
    have hplan : plan s (document :: documents) =
        (s.steps document.2).flatMap (stepsOf document.1) ++ plan s documents := List.flatMap_cons
    rw [hplan, perform_append, ← ih, ← hfirst, List.mapM_cons]
    simp

/-! ### What steps do -/

/-- The place of the file for a module. -/
def placeOf (j : Job) (m : Module) : Location := destination j.directory (j.pathOf m).text

/-- The files after modules are written in order, each with its text. -/
def written (j : Job) (done : List (Module × String)) (files : Location → Option ByteArray) :
    Location → Option ByteArray :=
  done.foldl (fun files d => Function.update files (j.placeOf d.1) (some d.2.toUTF8)) files

/-- On the first tree, the module is rendered to this text; writing it leaves the second tree. -/
structure Writes (j : Job) (m : Module) (text : String) (t u : FileTree) : Prop where
  rendered : j.render t m = .ok text
  placed : j.place (j.pathOf m) text t = (.ok (), u)

/-- Modules are written with these texts, each on the tree that the one before it has left. -/
inductive WritesAll (j : Job) : FileTree → List (Module × String) → FileTree → Prop
  | nil {t : FileTree} : WritesAll j t [] t
  | cons {m : Module} {text : String} {done : List (Module × String)} {t u v : FileTree} (h : j.Writes m text t u)
      (hrest : j.WritesAll u done v) : WritesAll j t ((m, text) :: done) v

/-- A step that is performed on the first tree fails and leaves the second. -/
inductive Fails (j : Job) : Step → FileTree → RunError → FileTree → Prop
  | refused {e : UnknownType} {path : String} {t : FileTree} : Fails j (.refuse e path) t (.unknownType e path) t
  | unrendered {m : Module} {t : FileTree} {e : RunError} (h : j.render t m = .error e) : Fails j (.write m) t e t
  | unwritten {m : Module} {t u : FileTree} {text : String} {fault : FileFault} (hrender : j.render t m = .ok text)
      (hplace : j.place (j.pathOf m) text t = (.error fault, u)) :
      Fails j (.write m) t (expecting (.unwritten (j.pathOf m).text) fault) u

/-- The steps that write modules. -/
def writeAll (done : List (Module × String)) : List Step := done.map fun d => .write d.1

/-- The paths of modules. -/
def paths (j : Job) (done : List (Module × String)) : List String := done.map fun d => (j.pathOf d.1).text

/-- What comes of performing steps on a tree: all of them write modules, or some step fails after steps that do. The
files of these modules are all that changes. -/
inductive Performed (j : Job) (t : FileTree) (steps : List Step) : Except RunError (List String) → FileTree → Prop
  | finished (done : List (Module × String)) {u : FileTree} (hsteps : steps = writeAll done)
      (hwrites : j.WritesAll t done u) (hfiles : u.file? = j.written done t.file?) :
      Performed j t steps (.ok (j.paths done)) u
  | stopped (done : List (Module × String)) {step : Step} (rest : List Step) {u u' : FileTree} {e : RunError}
      (hsteps : steps = writeAll done ++ step :: rest) (hwrites : j.WritesAll t done u) (hfails : j.Fails step u e u')
      (hfiles : u'.file? = j.written done t.file?) : Performed j t steps (.error e) u'

theorem Performed.cons {m : Module} {text : String} {steps : List Step} {result : Except RunError (List String)}
    {u v : FileTree} (hwrites : j.Writes m text t u)
    (hfile : u.file? = Function.update t.file? (j.placeOf m) (some text.toUTF8)) (h : j.Performed u steps result v) :
    j.Performed t (.write m :: steps) (result.map ((j.pathOf m).text :: ·)) v := by
  have hfirst (done : List (Module × String)) : j.written done u.file? = j.written ((m, text) :: done) t.file? :=
    congrArg (j.written done) hfile
  cases h with
  | finished done hsteps hall hfiles =>
    refine .finished ((m, text) :: done) ?_ (.cons hwrites hall) (hfiles.trans (hfirst done))
    rw [hsteps, writeAll, writeAll, List.map_cons]
  | stopped done rest hsteps hall hfails hfiles =>
    refine .stopped ((m, text) :: done) rest ?_ (.cons hwrites hall) hfails (hfiles.trans (hfirst done))
    rw [hsteps, writeAll, writeAll, List.map_cons, List.cons_append]

/-- Placing a file writes it, or fails and changes no file. -/
theorem place_cases {path : Path} (hpath : EndsIn ".py" path.text) (text : String) (u : FileTree) :
    (∃ u', j.place path text u = (.ok (), u') ∧ u.KeepsInputs u' ∧
        u'.file? = Function.update u.file? (destination j.directory path.text) (some text.toUTF8)) ∨
      ∃ fault u', j.place path text u = (.error fault, u') ∧ u.KeepsInputs u' ∧ u'.file? = u.file? := by
  have hadds := FileTree.ensures_provideOnDemand j.directory path.parent u
  unfold place
  rw [Changing.bind_apply]
  change u.AddsDirectories _ (FileTree.provideOnDemand j.directory path.root path.parent.names.reverse u).2 at hadds
  generalize FileTree.provideOnDemand j.directory path.root path.parent.names.reverse u = r at hadds ⊢
  rcases r with ⟨fault | _, above⟩
  · exact .inr ⟨fault, above, rfl, hadds.keepsInputs, hadds.file?_eq⟩
  · dsimp only
    rw [Changing.replacing_apply]
    cases hwrite : above.write j.directory path.text text.toUTF8 with
    | error cause => exact .inr ⟨_, above, rfl, hadds.keepsInputs, hadds.file?_eq⟩
    | ok u' =>
      refine .inl ⟨u', rfl, hadds.keepsInputs.trans (FileTree.keepsInputs_of_write hpath hwrite), ?_⟩
      rw [FileTree.file?_of_write hwrite, hadds.file?_eq]

/-! ### One step after the other -/

section

variable {m : Module} {steps : List Step} {text : String} {u : FileTree}

theorem perform_of_unrendered {e : RunError} (h : j.render t m = .error e) :
    j.perform (.write m :: steps) t = (.error e, t) := by
  rw [perform, writeModule, Changing.bind_apply, Changing.bind_apply, Changing.looking_apply, h]

theorem perform_of_unwritten (hrender : j.render t m = .ok text) {fault : FileFault}
    (hplace : j.place (j.pathOf m) text t = (.error fault, u)) :
    j.perform (.write m :: steps) t = (.error (expecting (.unwritten (j.pathOf m).text) fault), u) := by
  rw [perform, writeModule, Changing.bind_apply, Changing.bind_apply, Changing.looking_apply, hrender]
  dsimp only
  rw [Changing.bind_apply, Changing.adapt_apply, hplace]
  rfl

theorem perform_of_written (hrender : j.render t m = .ok text)
    (hplace : j.place (j.pathOf m) text t = (.ok (), u)) :
    j.perform (.write m :: steps) t =
      ((j.perform steps u).1.map ((j.pathOf m).text :: ·), (j.perform steps u).2) := by
  rw [perform, writeModule, Changing.bind_apply, Changing.bind_apply, Changing.looking_apply, hrender]
  dsimp only
  rw [Changing.bind_apply, Changing.adapt_apply, hplace]
  exact Changing.bind_pure_apply ..

end

/-- One step after the other, the performance of steps has an outcome. -/
theorem performed_perform (j : Job) (steps : List Step) (t : FileTree) :
    j.Performed t steps (j.perform steps t).1 (j.perform steps t).2 := by
  induction steps generalizing t with
  | nil => exact .finished [] rfl .nil rfl
  | cons step steps ih =>
    cases step with
    | refuse e path => exact .stopped [] steps rfl .nil .refused rfl
    | write m =>
      cases htext : j.render t m with
      | error e =>
        rw [perform_of_unrendered htext]
        exact .stopped [] steps rfl .nil (.unrendered htext) rfl
      | ok text =>
        rcases place_cases (j.endsIn_pathOf m) text t with ⟨u, hplace, -, hfile⟩ | ⟨fault, u, hplace, -, hfiles⟩
        · rw [perform_of_written htext hplace]
          exact (ih u).cons ⟨htext, hplace⟩ hfile
        · rw [perform_of_unwritten htext hplace]
          exact .stopped [] steps rfl .nil (.unwritten htext hplace) hfiles

/-- The performance of steps on the first tree comes to the module on the second. -/
def RendersOn (j : Job) (t : FileTree) (steps : List Step) (m : Module) (u : FileTree) : Prop :=
  ∃ done rest, steps = writeAll done ++ .write m :: rest ∧ j.WritesAll t done u

/-- A run on the first tree comes to the module on the second. -/
def Renders (j : Job) (t : FileTree) (m : Module) (v : FileTree) : Prop :=
  ∃ documents u, j.prepare t = (.ok (), u) ∧ j.readDocuments u = .ok documents ∧
    j.RendersOn u (plan (j.scope (documents.map (·.2))) documents) m v

end Job

/-! ### Reading -/

namespace FileTree

variable {t : FileTree} {directory : Location} {path : String}

/-- Does the file hold no text, or the path the character that no path can hold? -/
def Garbled (t : FileTree) (directory : Location) (path : String) : Prop :=
  (∃ content, t.read directory path = .ok content ∧ decodeLines? content = none) ∨
    t.read directory path = .error .zeroCharacter

/-- The file holds this text. -/
def Holds (t : FileTree) (directory : Location) (path text : String) : Prop :=
  ∃ content, t.read directory path = .ok content ∧ decodeLines? content = some text

theorem readLines_eq_ok_iff {wrap : FileFault → RunError} {text : String} :
    t.readLines directory path wrap = .ok text ↔ t.Holds directory path text := by
  refine bind_eq_ok_iff.trans (exists_congr fun content => and_congr mapError_eq_ok_iff ?_)
  cases decodeLines? content with
  | none => exact iff_of_false nofun nofun
  | some text' => exact ⟨fun h => congrArg some (Except.ok.inj h), fun h => congrArg Except.ok (Option.some.inj h)⟩

theorem Holds.not_garbled {text : String} (h : t.Holds directory path text) : ¬ t.Garbled directory path := by
  obtain ⟨content, hread, htext⟩ := h
  rintro (⟨content', hcontent, hnone⟩ | hzero)
  · rw [hread] at hcontent
    rw [Except.ok.inj hcontent, hnone] at htext
    cases htext
  · rw [hread] at hzero
    cases hzero

theorem Holds.unique {text text' : String} (h : t.Holds directory path text) (h' : t.Holds directory path text') :
    text = text' := by
  obtain ⟨content, hread, htext⟩ := h
  obtain ⟨content', hread', htext'⟩ := h'
  rw [hread] at hread'
  rw [Except.ok.inj hread', htext'] at htext
  exact (Option.some.inj htext).symm

/-- A failure to read a text is as it is wrapped, or else the file is garbled. -/
theorem garbled_or_of_readLines {wrap : FileFault → RunError} {e : RunError}
    (h : t.readLines directory path wrap = .error e) :
    t.Garbled directory path ∧ (e = .undecodable ∨ e = .system ⟨.zeroCharacter, path⟩) ∨
      ¬ t.Garbled directory path ∧ ∃ fault, e = wrap fault := by
  rcases bind_eq_error_iff.1 h with h | ⟨content, hread, h⟩
  · obtain ⟨cause, hread, rfl⟩ := mapError_eq_error_iff.1 h
    by_cases hcause : cause = .zeroCharacter
    · subst hcause
      exact .inl ⟨.inr hread, .inr rfl⟩
    · rw [expecting, if_neg (by simpa using hcause)]
      refine .inr ⟨?_, _, rfl⟩
      rintro (⟨content, hcontent, -⟩ | hzero)
      · rw [hread] at hcontent
        cases hcontent
      · rw [hread] at hzero
        exact absurd (Except.error.inj hzero) hcause
  · split at h
    · cases h
    · next htext =>
      cases h
      exact .inl ⟨.inl ⟨content, mapError_eq_ok_iff.1 hread, htext⟩, .inl rfl⟩

end FileTree

namespace Job

/-- Reading the document at the path fails in a way that the run does not expect: the file is garbled, or the parser
breaks off at its text. -/
def Unexpected (j : Job) (t : FileTree) (path : String) : Prop :=
  t.Garbled j.directory path ∨ ∃ text kind, t.Holds j.directory path text ∧ j.tools.parse text = .error (.raised kind)

variable {j : Job} {t : FileTree}

/-- A failure to read a document names its path, unless the run does not expect it. -/
theorem unexpected_cases_of_readDocument {path : String} {e : RunError} (h : j.readDocument t path = .error e) :
    ¬ j.Unexpected t path ∧ e.isExpected = true ∧ e.schemaPath? = some path ∨
      j.Unexpected t path ∧ e.isExpected = false ∧ e.schemaPath? = none := by
  rcases bind_eq_error_iff.1 h with h | ⟨text, htext, h⟩
  · rcases FileTree.garbled_or_of_readLines h with ⟨hgarbled, rfl | rfl⟩ | ⟨hgarbled, fault, rfl⟩
    · exact .inr ⟨.inl hgarbled, rfl, rfl⟩
    · exact .inr ⟨.inl hgarbled, rfl, rfl⟩
    · refine .inl ⟨?_, rfl, rfl⟩
      rintro (hgarbled' | ⟨text, kind, hholds, -⟩)
      · exact hgarbled hgarbled'
      · rw [FileTree.readLines_eq_ok_iff.2 hholds] at h
        cases h
  · have hholds := FileTree.readLines_eq_ok_iff.1 htext
    rcases bind_eq_error_iff.1 h with h | ⟨document, -, h⟩
    · obtain ⟨fault, hparse, rfl⟩ := mapError_eq_error_iff.1 h
      cases fault with
      | raised kind => exact .inr ⟨.inr ⟨text, kind, hholds, hparse⟩, rfl, rfl⟩
      | refused message =>
        refine .inl ⟨?_, rfl, rfl⟩
        rintro (hgarbled | ⟨text', kind, hholds', hparse'⟩)
        · exact hholds.not_garbled hgarbled
        · rw [hholds.unique hholds', hparse'] at hparse
          cases hparse
    · cases h

theorem schemaPath?_of_readDocument {path : String} {e : RunError} (h : j.readDocument t path = .error e) :
    ¬ j.Unexpected t path ∧ e.schemaPath? = some path ∨ j.Unexpected t path ∧ e.schemaPath? = none :=
  (unexpected_cases_of_readDocument h).imp (And.imp_right And.right) (And.imp_right And.right)

/-- What may come of a run that starts with the tree `t`, and the tree at its end. -/
inductive Outcome (j : Job) (t : FileTree) : Except RunError RunResult → FileTree → Prop
  /-- The output directory cannot be made. -/
  | unprepared {e : RunError} {u : FileTree} (hprepare : j.prepare t = (.error e, u))
      (hadds : t.AddsDirectories (FileTree.OnWay j.directory j.output) u) : Outcome j t (.error e) u
  /-- There is a first schema file that cannot be read; the failure names it, unless it is unexpected. -/
  | unread {e : RunError} {u : FileTree} (before : List String) (path : String) (after : List String)
      (hprepare : j.prepare t = (.ok (), u)) (hadds : t.AddsDirectories (FileTree.OnWay j.directory j.output) u)
      (hpaths : u.schemaFiles j.directory j.schemas = before ++ path :: after)
      (hbefore : ∀ p ∈ before, ∃ document, j.readDocument u p = .ok document)
      (hpath : j.readDocument u path = .error e)
      (hname : ¬ j.Unexpected u path ∧ e.schemaPath? = some path ∨ j.Unexpected u path ∧ e.schemaPath? = none) :
      Outcome j t (.error e) u
  /-- All schema files are read, and the plan for their documents is performed. -/
  | generated {documents : List (String × Document)} {u u' : FileTree} {result : Except RunError RunResult}
      (hprepare : j.prepare t = (.ok (), u)) (hadds : t.AddsDirectories (FileTree.OnWay j.directory j.output) u)
      (hfiles : u.file? = t.file?) (hdocuments : j.readDocuments u = .ok documents)
      (hperformed : j.Performed u (plan (j.scope (documents.map (·.2))) documents) (result.map (·.files)) u') :
      Outcome j t result u'

theorem files_ofGenerated (s : Scope) (generated : Except RunError (List Generated)) :
    (generated.map (RunResult.ofGenerated s)).map (·.files) = generated.map (List.flatMap Generated.files) := by
  cases generated <;> rfl

theorem outcome_of_run (j : Job) (t : FileTree) : j.Outcome t (j.run t).1 (j.run t).2 := by
  have hadds : t.AddsDirectories (FileTree.OnWay j.directory j.output) (j.prepare t).2 :=
    FileTree.ensures_provideFromTop j.directory j.output t
  unfold run
  rw [Changing.bind_apply]
  generalize hprepare : j.prepare t = prepared at hadds
  rcases prepared with ⟨e | _, u⟩ <;> dsimp only at hadds
  · exact .unprepared hprepare hadds
  · dsimp only
    rw [Changing.bind_apply, Changing.looking_apply]
    cases hdocuments : j.readDocuments u with
    | error e =>
      obtain ⟨before, path, after, hpaths, hbefore, hpath⟩ := exists_of_mapM_eq_error hdocuments
      exact .unread before path after hprepare hadds hpaths hbefore hpath (schemaPath?_of_readDocument hpath)
    | ok documents =>
      dsimp only
      rw [Changing.bind_pure_apply]
      refine .generated hprepare hadds hadds.file?_eq hdocuments ?_
      have hperform := j.performed_perform (plan (j.scope (documents.map (·.2))) documents) u
      rw [← files_writeDocuments, Changing.map_apply] at hperform
      rwa [files_ofGenerated]

end Job

namespace RunRequest

end RunRequest

end SchemaBindings
