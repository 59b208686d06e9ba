import HermesBundle.Proofs.Build.Compilation

/-! # Courses of builds — the first step that fails decides

    A build takes its steps in order: it finds its composer and its
    compiler, makes a workspace, stages its inputs, runs the compiler,
    reads the bytecode, composes the maps and removes the workspace.  The
    relations here say how each part can go, one constructor for the step
    that fails and one for the part that succeeds:

    * `Worked` — what happens inside the workspace; the maps are composed
      even if the bytecode cannot be read, whose failure then counts;
    * `Scoped` — the workspace around it, which is removed however the
      work went;
    * `Course` — the whole build, tools first.

    A build without a deadline follows its course (`run_iff`). -/

namespace HermesBundle.Build

open HermesBundle.Action FileSystem

section Courses

variable (programs : Programs) (job : Job) (composer : Composer) (compiler : Path)

/-- What a failure to read the bytecode is reported as. -/
def unreadable (ws : Workspace) (e : SystemError) : Failure :=
  if e.isNoEntry then .build (.noBytecode ws.bytecode.toText) else .system e

/-- The composition of the maps of a build. -/
def composition (ws : Workspace) : Action Text :=
  composedMap (composer programs) job.request.sourceMap ws.bytecodeMap

/-- Whether the inputs are staged and the compiler ends with status 0,
    which leaves a machine. -/
def HasCompiled (ws : Workspace) (m compiled : Machine) : Prop :=
  ∃ staged, (stageInputs ws job.request).Gives m () staged
    ∧ Compiled programs job compiler ws staged (.ok ()) compiled

/-- How the work in a workspace goes. -/
inductive Worked (ws : Workspace) (m : Machine) : Except Failure Result → Machine → Prop where
  | notStaged {f : Failure} {after : Machine} :
      (stageInputs ws job.request).FailsWith m f after →
      Worked ws m (.error f) after
  | notCompiled {staged after : Machine} {f : Failure} :
      (stageInputs ws job.request).Gives m () staged →
      Compiled programs job compiler ws staged (.error f) after →
      Worked ws m (.error f) after
  /-- The maps are composed all the same, but nothing comes of it. -/
  | notRead {compiled after : Machine} {e : SystemError} {sourceMap : Except Failure Text} :
      HasCompiled programs job compiler ws m compiled →
      compiled.files.readFile compiled.here ws.bytecode.toText = .error e →
      (composition programs job composer ws).perform compiled = (sourceMap, after) →
      Worked ws m (.error (unreadable ws e)) after
  | notComposed {compiled after : Machine} {bytecode : Bytes} {f : Failure} :
      HasCompiled programs job compiler ws m compiled →
      compiled.files.readFile compiled.here ws.bytecode.toText = .ok bytecode →
      (composition programs job composer ws).FailsWith compiled f after →
      Worked ws m (.error f) after
  /-- The result is the bytecode as the compiler left it, and what the
      composer makes of the maps. -/
  | done {compiled read after : Machine} {bytecode : Bytes} {maps : List Json} {composed : Json}
      {sourceMap : Text} :
      HasCompiled programs job compiler ws m compiled →
      compiled.files.readFile compiled.here ws.bytecode.toText = .ok bytecode →
      (readMaps job.request.sourceMap ws.bytecodeMap).Gives compiled maps read →
      (composer programs maps).Gives read composed after →
      Json.dump Json.compact composed = .ok sourceMap →
      Worked ws m (.ok ⟨bytecode, sourceMap⟩) after

/-- How a build goes that has its tools. -/
inductive Scoped (m : Machine) : Except Failure Result → Machine → Prop where
  | notAcquired {f : Failure} {after : Machine} :
      (Workspace.acquire job.root).FailsWith m f after →
      Scoped m (.error f) after
  | closed {ws : Workspace} {acquired worked after : Machine}
      {outcome final : Except Failure Result} :
      (Workspace.acquire job.root).Gives m ws acquired →
      Worked programs job composer compiler ws acquired outcome worked →
      Workspace.Closed ws worked outcome final after →
      Scoped m final after

end Courses

/-- A build that has a result logs its size. -/
def reported : Except Failure Result → Machine → Machine
  | .ok result, m =>
      m.noting .info pipelineOrigin
        (Text.ofString "built " ++ Text.ofNat result.bytecode.length
          ++ Text.ofString " bytes of bytecode")
  | .error _, m => m

/-- How a build goes. -/
inductive Course (programs : Programs) (job : Job) (m : Machine) :
    Except Failure Result → Machine → Prop where
  | noToolchain {f : Failure} {after : Machine} :
      job.tools.FailsWith m f after →
      Course programs job m (.error f) after
  | noComposer {tools : Toolchain} {asked after : Machine} {f : Failure} :
      job.tools.Gives m tools asked →
      (tools.resolveComposer job.request.project).FailsWith asked f after →
      Course programs job m (.error f) after
  | noCompiler {tools : Toolchain} {composer : Composer} {asked found after : Machine}
      {f : Failure} :
      job.tools.Gives m tools asked →
      (tools.resolveComposer job.request.project).Gives asked composer found →
      (tools.resolveCompiler job.request.project).FailsWith found f after →
      Course programs job m (.error f) after
  | equipped {tools : Toolchain} {composer : Composer} {compiler : Path}
      {asked found ready after : Machine} {outcome : Except Failure Result} :
      job.tools.Gives m tools asked →
      (tools.resolveComposer job.request.project).Gives asked composer found →
      (tools.resolveCompiler job.request.project).Gives found compiler ready →
      Scoped programs job composer compiler ready outcome after →
      Course programs job m outcome (reported outcome after)

variable {programs : Programs} {job : Job} {composer : Composer} {compiler : Path} {ws : Workspace}
  {m : Machine}

/-! ## The two readings -/

/-- Reading the bytecode changes nothing. -/
theorem readBytecode_perform (husable : isUsable ws.path.toText = true) (m : Machine) :
    (readBytecode ws.bytecode).perform m
      = ((m.files.readFile m.here ws.bytecode.toText).mapError (unreadable ws), m) := by
  have hname : isUsable ws.bytecode.toText = true := Workspace.isUsable_childNamed husable rfl
  unfold readBytecode
  rw [perform_bind, perform_attempt, perform_readBytes hname]
  cases m.files.readFile m.here ws.bytecode.toText with
  | ok bytes => rfl
  | error e =>
      simp only [Except.mapError, unreadable]
      cases e.isNoEntry <;> rfl

/-- The composed text is what the composer makes of the maps, which has to
    have a text. -/
theorem composition_gives {after : Machine} {sourceMap : Text} :
    (composition programs job composer ws).Gives m sourceMap after
      ↔ ∃ maps read composed, (readMaps job.request.sourceMap ws.bytecodeMap).Gives m maps read
        ∧ (composer programs maps).Gives read composed after
        ∧ Json.dump Json.compact composed = .ok sourceMap := by
  unfold composition composedMap
  simp only [gives_bind, gives_ofExcept]
  constructor
  · rintro ⟨maps, read, hmaps, composed, _, hcomposed, hwritten, rfl⟩
    exact ⟨maps, read, composed, hmaps, hcomposed, hwritten⟩
  · rintro ⟨maps, read, composed, hmaps, hcomposed, hwritten⟩
    exact ⟨maps, read, hmaps, composed, after, hcomposed, hwritten, rfl⟩

/-! ## Every course is some course -/

theorem exists_worked (programs : Programs) (job : Job) (composer : Composer) (compiler : Path)
    (ws : Workspace) (m : Machine) :
    ∃ outcome after, Worked programs job composer compiler ws m outcome after := by
  rcases gives_or_failsWith (stageInputs ws job.request) m with
    ⟨_, staged, hstaged⟩ | ⟨f, after, hf⟩
  · obtain ⟨outcome, compiled, hcompiled⟩ := exists_compiled programs job compiler ws staged
    cases outcome with
    | error f => exact ⟨_, _, .notCompiled hstaged hcompiled⟩
    | ok _ =>
        have hready : HasCompiled programs job compiler ws m compiled :=
          ⟨staged, hstaged, hcompiled⟩
        cases hread : compiled.files.readFile compiled.here ws.bytecode.toText with
        | error e => exact ⟨_, _, .notRead hready hread rfl⟩
        | ok bytecode =>
            rcases gives_or_failsWith (composition programs job composer ws) compiled with
              ⟨_, after, hcomposed⟩ | ⟨f, after, hf⟩
            · obtain ⟨maps, read, composed, hmaps, hcomposed, hwritten⟩ :=
                composition_gives.mp hcomposed
              exact ⟨_, _, .done hready hread hmaps hcomposed hwritten⟩
            · exact ⟨_, _, .notComposed hready hread hf⟩
  · exact ⟨_, _, .notStaged hf⟩

theorem exists_scoped (programs : Programs) (job : Job) (composer : Composer) (compiler : Path)
    (m : Machine) : ∃ outcome after, Scoped programs job composer compiler m outcome after := by
  rcases gives_or_failsWith (Workspace.acquire job.root) m with ⟨ws, acquired, hws⟩ | ⟨f, after, hf⟩
  · obtain ⟨outcome, worked, hworked⟩ := exists_worked programs job composer compiler ws acquired
    obtain ⟨final, after, hclosed⟩ := Workspace.exists_closed ws worked outcome
    exact ⟨_, _, .closed hws hworked hclosed⟩
  · exact ⟨_, _, .notAcquired hf⟩

theorem exists_course (programs : Programs) (job : Job) (m : Machine) :
    ∃ outcome after, Course programs job m outcome after := by
  rcases gives_or_failsWith job.tools m with ⟨tools, asked, htools⟩ | ⟨f, after, hf⟩
  · rcases gives_or_failsWith (tools.resolveComposer job.request.project) asked with
      ⟨composer, found, hcomposer⟩ | ⟨f, after, hf⟩
    · rcases gives_or_failsWith (tools.resolveCompiler job.request.project) found with
        ⟨compiler, ready, hcompiler⟩ | ⟨f, after, hf⟩
      · obtain ⟨outcome, after, hscoped⟩ := exists_scoped programs job composer compiler ready
        exact ⟨_, _, .equipped htools hcomposer hcompiler hscoped⟩
      · exact ⟨_, _, .noCompiler htools hcomposer hf⟩
    · exact ⟨_, _, .noComposer htools hf⟩
  · exact ⟨_, _, .noToolchain hf⟩

/-! ## Builds follow their courses -/

/-- Whether a stage leads to an outcome within some steps, and leaves a
    machine. -/
def Leads (programs : Programs) (job : Job) (n : Nat) (stage : Stage) (m : Machine)
    (outcome : Except Failure Result) (after : Machine) : Prop :=
  (steps programs job n stage).Gives m (.ended outcome) after

variable {n : Nat} {stage next : Stage} {middle after : Machine} {outcome : Except Failure Result}

/-- A build that has ended stays as it is. -/
theorem leads_ended (n : Nat) (outcome : Except Failure Result) (m : Machine) :
    Leads programs job n (.ended outcome) m outcome m := by
  induction n with
  | zero => rfl
  | succ n ih => exact (perform_bind_of_gives (perform_pure (Stage.ended outcome) m) _).trans ih

/-- A step leads where the next stage leads. -/
theorem leads_step (hstep : (advance programs job stage).Gives m next middle)
    (hrest : Leads programs job n next middle outcome after) :
    Leads programs job (n + 1) stage m outcome after :=
  (perform_bind_of_gives hstep _).trans hrest

/-- What an attempted action is followed by. -/
theorem attempt_then {α β : Type} {x : Action α} {follow : Except Failure α → Action β}
    {outcome : Except Failure α} (h : x.perform m = (outcome, after)) :
    (attempt x >>= follow).perform m = (follow outcome).perform after := by
  rw [perform_bind, perform_attempt, h]

theorem leads_closing (husable : isUsable ws.path.toText = true) {final : Except Failure Result}
    (hclosed : Workspace.Closed ws m outcome final after) (n : Nat) :
    Leads programs job (n + 1) (.closing ws outcome) m final (reported final after) := by
  have hclose := (Workspace.close_iff husable).mpr hclosed
  refine leads_step ((attempt_then hclose).trans ?_) (leads_ended n final _)
  cases final <;> rfl

theorem advance_acquired {outcome : Except Failure Unit}
    (h : (stageInputs ws job.request).perform m = (outcome, after)) :
    (advance programs job (.acquired composer compiler ws)).Gives m
      (stageAfter ws (fun _ => .staged composer compiler ws) outcome) after := attempt_then h

theorem advance_staged (hdeadline : job.deadline = none) (husable : isUsable ws.path.toText = true)
    {outcome : Except Failure Unit} (h : Compiled programs job compiler ws m outcome after) :
    (advance programs job (.staged composer compiler ws)).Gives m
      (stageAfter ws (fun _ => .compiled composer ws) outcome) after := by
  have hcompile : (compile programs job compiler ws).perform m = (outcome, after) := by
    unfold compile
    rw [hdeadline]
    exact (compileWithin_iff husable).mpr h
  exact attempt_then hcompile

/-- Both readings are made before anything comes of either. -/
theorem leads_compiled (hdeadline : job.deadline = none) (husable : isUsable ws.path.toText = true)
    {worked : Machine} {sourceMap : Except Failure Text} {final : Except Failure Result}
    (hcomposition : (composition programs job composer ws).perform m = (sourceMap, worked))
    (hclosed : Workspace.Closed ws worked
      (joinResults ((m.files.readFile m.here ws.bytecode.toText).mapError (unreadable ws))
        sourceMap) final after) :
    Leads programs job 3 (.compiled composer ws) m final (reported final after) := by
  refine leads_step (attempt_then (readBytecode_perform husable m)) ?_
  refine leads_step ((attempt_then hcomposition).trans ?_) (leads_closing husable hclosed 0)
  simp only [perform_bind, perform_get, isOverdue, hdeadline]
  rfl

/-- A build that has its workspace works in it and closes it. -/
theorem leads_acquired (hdeadline : job.deadline = none) (husable : isUsable ws.path.toText = true)
    {worked : Machine} {final : Except Failure Result}
    (hworked : Worked programs job composer compiler ws m outcome worked)
    (hclosed : Workspace.Closed ws worked outcome final after) :
    Leads programs job 5 (.acquired composer compiler ws) m final (reported final after) := by
  cases hworked with
  | notStaged hf => exact leads_step (advance_acquired hf) (leads_closing husable hclosed 3)
  | notCompiled hstaged hcompiled =>
      exact leads_step (advance_acquired hstaged)
        (leads_step (advance_staged hdeadline husable hcompiled) (leads_closing husable hclosed 2))
  | notRead hready hread hcomposition =>
      obtain ⟨staged, hstaged, hcompiled⟩ := hready
      refine leads_step (advance_acquired hstaged)
        (leads_step (advance_staged hdeadline husable hcompiled)
          (leads_compiled hdeadline husable hcomposition ?_))
      rw [hread]
      exact hclosed
  | notComposed hready hread hf =>
      obtain ⟨staged, hstaged, hcompiled⟩ := hready
      refine leads_step (advance_acquired hstaged)
        (leads_step (advance_staged hdeadline husable hcompiled)
          (leads_compiled hdeadline husable hf ?_))
      rw [hread]
      exact hclosed
  | done hready hread hmaps hcomposed hwritten =>
      obtain ⟨staged, hstaged, hcompiled⟩ := hready
      refine leads_step (advance_acquired hstaged)
        (leads_step (advance_staged hdeadline husable hcompiled)
          (leads_compiled hdeadline husable
            (composition_gives.mpr ⟨_, _, _, hmaps, hcomposed, hwritten⟩) ?_))
      rw [hread]
      exact hclosed

/-- A build that has its tools goes as `Scoped` says. -/
theorem leads_equipped (hdeadline : job.deadline = none)
    (h : Scoped programs job composer compiler m outcome after) :
    Leads programs job 6 (.equipped composer compiler) m outcome (reported outcome after) := by
  cases h with
  | notAcquired hf =>
      exact leads_step ((attempt_then hf).trans rfl) (leads_ended 5 _ _)
  | closed hws hworked hclosed =>
      exact leads_step ((attempt_then hws).trans rfl)
        (leads_acquired hdeadline (Workspace.isUsable_of_acquire hws) hworked hclosed)

/-- What finding the tools of a build consists of. -/
theorem equip_gives {ready : Machine} :
    (equip job).Gives m (composer, compiler) ready
      ↔ ∃ tools asked found, job.tools.Gives m tools asked
        ∧ (tools.resolveComposer job.request.project).Gives asked composer found
        ∧ (tools.resolveCompiler job.request.project).Gives found compiler ready := by
  unfold equip
  simp only [gives_bind, gives_pure, Prod.mk.injEq]
  constructor
  · rintro ⟨tools, asked, htools, composer', found, hcomposer, compiler', _, hcompiler,
      ⟨rfl, rfl⟩, rfl⟩
    exact ⟨tools, asked, found, htools, hcomposer, hcompiler⟩
  · rintro ⟨tools, asked, found, htools, hcomposer, hcompiler⟩
    exact ⟨tools, asked, htools, composer, found, hcomposer, compiler, ready, hcompiler,
      ⟨rfl, rfl⟩, rfl⟩

/-- A build that does not find its tools ends there, on the machine that
    the search left. -/
theorem leads_of_not_equipped {f : Failure} (h : (equip job).FailsWith m f after) :
    Leads programs job stepCount .begun m (.error f) after :=
  leads_step ((attempt_then h).trans rfl) (leads_ended 6 _ _)

/-- A build that leads to an outcome has it. -/
theorem run_of_leads (h : Leads programs job stepCount .begun m outcome after) :
    (run programs job).perform m = (outcome, after) :=
  (perform_bind_of_gives h _).trans (perform_ofExcept_id outcome after)

/-- A build without a deadline is led by its course. -/
theorem leads_of_course (hdeadline : job.deadline = none)
    (hcourse : Course programs job m outcome after) :
    Leads programs job stepCount .begun m outcome after := by
  cases hcourse with
  | noToolchain hf => exact leads_of_not_equipped (failsWith_bind.mpr (.inl hf))
  | noComposer htools hf =>
      exact leads_of_not_equipped
        (failsWith_bind.mpr (.inr ⟨_, _, htools, failsWith_bind.mpr (.inl hf)⟩))
  | noCompiler htools hcomposer hf =>
      exact leads_of_not_equipped
        (failsWith_bind.mpr (.inr ⟨_, _, htools, failsWith_bind.mpr (.inr ⟨_, _, hcomposer,
          failsWith_bind.mpr (.inl hf)⟩)⟩))
  | equipped htools hcomposer hcompiler hscoped =>
      have hequip := equip_gives.mpr ⟨_, _, _, htools, hcomposer, hcompiler⟩
      exact leads_step ((attempt_then hequip).trans rfl) (leads_equipped hdeadline hscoped)

/-- A build without a deadline follows its course. -/
theorem run_iff (hdeadline : job.deadline = none) :
    (run programs job).perform m = (outcome, after) ↔ Course programs job m outcome after :=
  perform_iff (exists_course programs job m) fun _ _ hcourse =>
    run_of_leads (leads_of_course hdeadline hcourse)

end HermesBundle.Build
