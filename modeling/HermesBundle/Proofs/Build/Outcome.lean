import HermesBundle.Proofs.Build.Calls
import HermesBundle.Proofs.Build.Tasks

/-! # Outcomes of builds — the law

    What comes of a build that nobody cancels is decided by its steps, and
    by nothing else:

    * it goes as its course says: the first step that fails decides, and
      the workspace is removed in any case (`Course`);
    * it has a result exactly if all its steps succeed (`Succeeds`);
    * without its tools it leaves the files as they were;
    * it comes to the same in whatever order its errands are done.

    The law (`outcomeLaw`) puts this together. -/

namespace HermesBundle.Build

open HermesBundle.Action FileSystem Workspace

/-- Whether all steps of a build succeed, and with which result: the
    bytecode as the compiler left it, and what the composer makes of the
    two maps. -/
inductive Succeeds (programs : Programs) (job : Job) (m : Machine) : Result → Prop where
  | all {tools : Toolchain} {composer : Composer} {compiler : Path} {ws : Workspace}
      {asked found ready acquired staged read worked : Machine} {files : FileSystem}
      {here : Location} {out err bytecode : Bytes} {time : Nat} {maps : List Json}
      {composed : Json} {sourceMap : Text} :
      job.tools.Gives m tools asked →
      (tools.resolveComposer job.request.project).Gives asked composer found →
      (tools.resolveCompiler job.request.project).Gives found compiler ready →
      (acquire job.root).Gives ready ws acquired →
      (stageInputs ws job.request).Gives acquired () staged →
      Concludes programs job compiler ws staged files here (.ended 0 out err time) →
      files.readFile (files.settle here) ws.bytecode.toText = .ok bytecode →
      (readMaps job.request.sourceMap ws.bytecodeMap).Gives
        ((announced job ws staged).afterRun files here time) maps read →
      (composer programs maps).Gives read composed worked →
      Json.dump Json.compact composed = .ok sourceMap →
      removalFailure ws worked = none →
      Succeeds programs job m ⟨bytecode, sourceMap⟩

variable {programs : Programs} {job : Job} {composer : Composer} {compiler : Path} {ws : Workspace}
  {m after : Machine} {result : Result}

/-- A course that comes to a result is one on which all steps succeed. -/
theorem succeeds_of_course (h : Course programs job m (.ok result) after) :
    Succeeds programs job m result := by
  cases h with
  | equipped htools hcomposer hcompiler hscoped =>
      cases hscoped with
      | closed hws hworked hclosed =>
          cases hclosed with
          | clean _ hremoved =>
              cases hworked with
              | done hready hread hmaps hcomposed hwritten =>
                  obtain ⟨staged, hstaged, hcompiled⟩ := hready
                  cases hcompiled with
                  | succeeded hconcludes =>
                      exact .all htools hcomposer hcompiler hws hstaged hconcludes hread hmaps
                        hcomposed hwritten hremoved

/-- If all steps of a build succeed its course comes to their result. -/
theorem exists_course_of_succeeds (h : Succeeds programs job m result) :
    ∃ after, Course programs job m (.ok result) after := by
  cases h with
  | all htools hcomposer hcompiler hws hstaged hconcludes hread hmaps hcomposed hwritten
      hremoved =>
      have hready : HasCompiled programs job _ _ _ _ := ⟨_, hstaged, .succeeded hconcludes⟩
      exact ⟨_, .equipped htools hcomposer hcompiler
        (.closed hws (.done hready hread hmaps hcomposed hwritten) (.clean _ hremoved))⟩

/-- What holds of the outcome of a build. -/
structure OutcomeLaw (programs : Programs) (job : Job) (m : Machine) : Prop where
  /-- The build goes as its course says, and in no other way. -/
  follows : ∀ outcome after,
    (run programs job).perform m = (outcome, after) ↔ Course programs job m outcome after
  /-- It has a result exactly if all its steps succeed. -/
  succeeds : ∀ result,
    (∃ after, (run programs job).Gives m result after) ↔ Succeeds programs job m result
  /-- Without its tools it leaves the files alone, if looking for them
      does. -/
  untouched : (∀ tools, job.toolchain = some tools → tools.LeavesFiles) →
    ∀ f after, (equip job).FailsWith m f after →
      (run programs job).FailsWith m f after ∧ after.files = m.files ∧ after.here = m.here
  /-- In whatever order its errands are done, it can go on to its end, and
      its outcome is the same, if its composer writes no files. -/
  interleaved : ∀ composer compiler ready, (equip job).Gives m (composer, compiler) ready →
    (∀ maps, LeavesFiles (composer programs maps)) →
    ∀ events t, (∀ event ∈ events, event.isPrompt = true) →
      (BuildTask.begin programs job composer compiler ready).steps events = some t →
      CanEnd t ∧ ∀ outcome, t.scope.outcome? = some outcome →
        (run programs job).perform m = (outcome, reported outcome t.scope.machine)

/-- **The outcome of a build that nobody cancels obeys the law.** -/
theorem outcomeLaw (programs : Programs) (job : Job) (m : Machine)
    (hdeadline : job.deadline = none) : OutcomeLaw programs job m where
  follows _ _ := run_iff hdeadline
  succeeds result := by
    constructor
    · rintro ⟨after, hrun⟩
      exact succeeds_of_course ((run_iff hdeadline).mp hrun)
    · intro h
      obtain ⟨after, hcourse⟩ := exists_course_of_succeeds h
      exact ⟨after, (run_iff hdeadline).mpr hcourse⟩
  untouched hquiet f after hfails := by
    have hleaves := equip_leavesFiles hquiet m
    rw [hfails] at hleaves
    exact ⟨run_of_leads (leads_of_not_equipped hfails), hleaves⟩
  interleaved composer compiler ready hequip hcomposer events t hprompt hsteps := by
    have hstands := stands_of_steps hcomposer hprompt hsteps
    refine ⟨hstands.canEnd, fun outcome houtcome => (run_iff hdeadline).mpr ?_⟩
    obtain ⟨tools, asked, found, htools, hfound, hcompiler⟩ := equip_gives.mp hequip
    exact .equipped htools hfound hcompiler (hstands.scoped houtcome)

/-- A compiler that writes a bytecode of one byte, and a map that says
    nothing, where it is told to. -/
def terseCompiler : Programs := fun files here call =>
  match call.argv with
  | _ :: _ :: _ :: bytecode :: _ =>
      let written := do
        let files ← files.writeFile here bytecode [0xC6]
        files.writeFile here (bytecode ++ Text.ofString ".map")
          (Text.bytes "\x7b\x22version\x22:3,\x22mappings\x22:\x22\x22\x7d")
      match written with
      | .ok files => (files, here, .ended 0 [] [] 5)
      | .error _ => (files, here, .ended 1 [] [] 5)
  | _ => (files, here, .ended 2 [] [] 5)

/-- The result of a build with this compiler. -/
def terseResult : Result where
  bytecode := [0xC6]
  sourceMap := "\x7b\x22version\x22:3,\x22sources\x22:[],\x22names\x22:[],\x22mappings\x22:\x22\x22\x7d"

theorem outcomeLaw_terse :
    (jobWith "/home/bin/hermesc" "/home/ws").deadline = none
      ∧ OutcomeLaw terseCompiler (jobWith "/home/bin/hermesc" "/home/ws") homeMachine
      ∧ Succeeds terseCompiler (jobWith "/home/bin/hermesc" "/home/ws") homeMachine
        terseResult := by
  have hlaw := outcomeLaw terseCompiler (jobWith "/home/bin/hermesc" "/home/ws") homeMachine rfl
  have hrun : ((run terseCompiler (jobWith "/home/bin/hermesc" "/home/ws")).perform homeMachine).1
      = .ok terseResult := by cbv
  exact ⟨rfl, hlaw, (hlaw.succeeds _).mp ⟨_, Prod.ext hrun rfl⟩⟩

end HermesBundle.Build
