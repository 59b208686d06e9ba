import HermesBundle.Proofs.Build.Acquisition
import HermesBundle.Proofs.Storage.Writing

/-! # Traces — a build leaves directories behind, and nothing else

    A build makes the root of its workspaces and a workspace, writes its
    inputs there, has its compiler run there and removes the workspace.  If
    its programs keep to themselves (`IsContained`), nothing is left of this
    but the root and the directories above it (`run_sparesFiles`).  The route:

    * **to spare files** is to add directories to them, at most
      (`FileSystem.Spares`), whatever an action does in between
      (`Action.SparesFiles`);
    * **the work in a workspace** stays in it (`Ground.Works`): staging
      (`works_stageInputs`), the compiler (`works_compiled`), and the
      readings and the composer, which take time at most (`TakesTime`);
    * **the removal** leaves what the root was made among
      (`Ground.entry?_of_closed`). -/

namespace HermesBundle

/-! ## Sparing -/

namespace FileSystem

/-- Whether files are others to which directories have been added, at
    most. -/
structure Spares (files base : FileSystem) : Prop where
  kept : files.Extends base
  /-- What is new is a directory. -/
  rest : ∀ l e, files.entry? l = some e → e ≠ .directory → base.entry? l = some e
  tree : base.IsTree → files.IsTree
  twins : base.HasTwins → files.HasTwins

variable {files base fs : FileSystem}

theorem Spares.refl (fs : FileSystem) : fs.Spares fs :=
  ⟨.refl fs, fun _ _ hl _ => hl, id, id⟩

theorem Spares.trans (h : files.Spares fs) (hbase : fs.Spares base) : files.Spares base where
  kept l e hl := h.kept l e (hbase.kept l e hl)
  rest l e hl hne := hbase.rest l e (h.rest l e hl hne) hne
  tree := h.tree ∘ hbase.tree
  twins := h.twins ∘ hbase.twins

/-- Directories that are made spare the files. -/
theorem Grown.spares (h : base.Grown files) : files.Spares base where
  kept := h.extends
  rest l e hl hne := by
    induction h with
    | same => exact hl
    | more _ _ _ ih =>
        rw [entry?_put (child_ne_nil _ _)] at hl
        split at hl
        · exact absurd (Option.some.inj hl).symm hne
        · exact ih hl
  tree := h.isTree
  twins := h.hasTwins

/-- Files with the same entries spare what these spare. -/
theorem Spares.of_same (h : fs.Spares base) (hsame : ∀ l, files.entry? l = fs.entry? l)
    (htwins : base.HasTwins → files.HasTwins) : files.Spares base where
  kept l e hl := (hsame l).trans (h.kept l e hl)
  rest l e hl := h.rest l e ((hsame l).symm.trans hl)
  tree hbase := by
    have htree := h.tree hbase
    constructor
    · exact fun l e hl => htree.named l e ((hsame l).symm.trans hl)
    · exact fun l name e hl =>
        (hsame l).trans (htree.rooted l name e ((hsame (l ++ [name])).symm.trans hl))
  twins := htwins

end FileSystem

open FileSystem

/-- Whether a machine has the files of another one, up to directories that
    have been made, and stands where that stood. -/
structure Machine.Spares (after m : Machine) : Prop where
  files : after.files.Spares m.files
  here : after.here = m.here

theorem Machine.Spares.trans {m middle after : Machine} (h : after.Spares middle)
    (hm : middle.Spares m) : after.Spares m :=
  ⟨h.files.trans hm.files, h.here.trans hm.here⟩

theorem Machine.Spares.isSound {m after : Machine} (h : after.Spares m) (hm : m.IsSound) :
    after.IsSound where
  tree := h.files.tree hm.tree
  settled := by
    rw [h.here]
    exact settle_of_extends hm.settled h.files.kept

namespace Action

variable {α β : Type}

/-- Whether an action spares the files of sound machines. -/
def SparesFiles (x : Action α) : Prop := ∀ m, m.IsSound → (x.perform m).2.Spares m

theorem Grows.sparesFiles {x : Action α} (h : Grows x) : SparesFiles x := fun m _ =>
  ⟨(h m).1.spares, (h m).2⟩

theorem LeavesFiles.sparesFiles {x : Action α} (h : LeavesFiles x) : SparesFiles x :=
  h.grows.sparesFiles

theorem SparesFiles.of_perform {x : Action α} (h : SparesFiles x) {m after : Machine}
    (hm : m.IsSound) {outcome : Except Failure α} (hperform : x.perform m = (outcome, after)) :
    after.Spares m := by
  have hspares := h m hm
  rwa [hperform] at hspares

theorem SparesFiles.bind {x : Action α} {f : α → Action β} (hx : SparesFiles x)
    (hf : ∀ a, SparesFiles (f a)) : SparesFiles (x >>= f) := by
  intro m hm
  have hfirst := hx m hm
  rcases gives_or_failsWith x m with ⟨a, middle, hgives⟩ | ⟨e, after, hfails⟩
  · rw [hgives] at hfirst
    rw [perform_bind_of_gives hgives]
    exact (hf a middle (hfirst.isSound hm)).trans hfirst
  · rw [hfails] at hfirst
    rw [perform_bind_of_failsWith hfails]
    exact hfirst

/-- Whether an action keeps something that holds of machines. -/
def Keeps (P : Machine → Prop) (x : Action α) : Prop := ∀ m, P m → P (x.perform m).2

theorem Keeps.bind {P : Machine → Prop} {x : Action α} {f : α → Action β} (hx : Keeps P x)
    (hf : ∀ a, Keeps P (f a)) : Keeps P (x >>= f) := by
  intro m hm
  have hfirst := hx m hm
  rcases gives_or_failsWith x m with ⟨a, middle, hgives⟩ | ⟨e, after, hfails⟩
  · rw [hgives] at hfirst
    rw [perform_bind_of_gives hgives]
    exact hf a middle hfirst
  · rw [hfails] at hfirst
    rw [perform_bind_of_failsWith hfails]
    exact hfirst

/-- Whether an action takes time at most, and may log something. -/
def TakesTime (x : Action α) : Prop :=
  ∀ m, m.files.settle m.here = m.here →
    ∃ outcome clock log, x.perform m = (outcome, { m with clock := clock, log := log })

theorem TakesTime.of_same {x : Action α} (h : ∀ m, (x.perform m).2 = m) : TakesTime x :=
  fun m _ => ⟨_, m.clock, m.log, Prod.ext rfl (h m)⟩

theorem TakesTime.pure (a : α) : TakesTime (Pure.pure a : Action α) := .of_same fun _ => rfl

theorem TakesTime.throw (f : Failure) : TakesTime (throwThe Failure f : Action α) :=
  .of_same fun _ => rfl

theorem TakesTime.ofExcept {ε : Type} (failure : ε → Failure) (x : Except ε α) :
    TakesTime (Action.ofExcept failure x) := by
  refine .of_same fun m => ?_
  rw [perform_ofExcept]

theorem TakesTime.bind {x : Action α} {f : α → Action β} (hx : TakesTime x)
    (hf : ∀ a, TakesTime (f a)) : TakesTime (x >>= f) := by
  intro m hm
  obtain ⟨outcome, clock, log, hfirst⟩ := hx m hm
  cases outcome with
  | error e => exact ⟨_, clock, log, perform_bind_of_failsWith hfirst f⟩
  | ok a =>
      obtain ⟨outcome, clock', log', hsecond⟩ := hf a { m with clock := clock, log := log } hm
      exact ⟨outcome, clock', log', (perform_bind_of_gives hfirst f).trans hsecond⟩

theorem TakesTime.attempt {x : Action α} (h : TakesTime x) : TakesTime (Action.attempt x) := by
  intro m hm
  obtain ⟨outcome, clock, log, hperform⟩ := h m hm
  exact ⟨.ok outcome, clock, log, by rw [perform_attempt, hperform]⟩

theorem TakesTime.checkName (path : Text) : TakesTime (Action.checkName path) := by
  unfold Action.checkName
  split
  · exact .throw _
  · split
    · exact .throw _
    · exact .pure _

theorem TakesTime.readText (path : Text) : TakesTime (Action.readText path) := by
  refine .bind (.bind (.checkName path) fun _ => .of_same fun m => ?_) fun bytes => ?_
  · rw [perform_bind, perform_get]
    dsimp only
    rw [perform_ofExcept]
  · split
    · exact .pure _
    · exact .throw _

end Action

namespace Build

open HermesBundle.Action

/-! ## Programs that keep to themselves -/

/-- Whether the programs of a build keep to themselves: a compiler that is
    run in a workspace changes nothing beside it, and leaves it; node
    composes without changing anything. -/
structure IsContained (programs : Programs) : Prop where
  compiler : ∀ (job : Job) (compiler : Path) (ws : Workspace) (m : Machine) (place : Location),
    m.files.locate m.here .target ws.path.toText = .ok (.found place .directory) →
    m.files.entry? place = some .directory →
    ∃ files conclusion,
      programs m.files m.here (compilerCall job compiler ws m) = (files, m.here, conclusion)
      ∧ (∀ l, ¬place <+: l → files.entry? l = m.files.entry? l)
      ∧ files.entry? place = some .directory ∧ (m.files.HasTwins → files.HasTwins)
  composer : ∀ (fs : FileSystem) (here : Location) (call : Invocation) (node : Text)
    (module : Path), call.argv = [node, Text.ofString "-e", nodeScript, module.toText] →
    call.directory = none → ∃ conclusion, programs fs here call = (fs, here, conclusion)

theorem takesTime_readMap (which : MapText) (text : Text) : TakesTime (readMap which text) := by
  unfold readMap
  split
  · exact .pure _
  · exact .throw _
  · exact .throw _

theorem takesTime_outputText (bytes : Bytes) : TakesTime (outputText bytes) := by
  unfold outputText
  split
  · exact .pure _
  · exact .throw _

section Composers

variable {programs : Programs} (hcontained : IsContained programs)

include hcontained

theorem takesTime_runNode (node : Text) (module : Path) (input : Bytes) :
    TakesTime (runProgram programs [node, Text.ofString "-e", nodeScript, module.toText] none input
      none) := by
  have hchecks : ∀ names : List Text, TakesTime (forIn names ⟨⟩ fun name _ => do
      checkName name
      pure (ForInStep.yield ⟨⟩) : Action PUnit) := by
    intro names
    induction names with
    | nil => exact .pure _
    | cons name rest ih =>
        rw [List.forIn_cons]
        refine .bind (.bind (.checkName name) fun _ => .pure _) fun next => ?_
        cases next with
        | done _ => exact .pure _
        | yield _ => exact ih
  refine .bind (hchecks _) fun _ m hm => ?_
  obtain ⟨conclusion, hrun⟩ := hcontained.composer m.files m.here
    ⟨_, none, m.environment, input, none⟩ node module rfl rfl
  refine ⟨.ok conclusion, m.clock + conclusion.time, m.log, ?_⟩
  simp only [perform_bind, perform_get, hrun, perform_set, perform_settle, hm]
  cases conclusion <;> rfl

/-- A composer of a project takes time at most. -/
theorem takesTime_composer (found : ProjectComposer) (maps : List Json) :
    TakesTime (found.composer programs maps) := by
  cases found with
  | builtin => exact .ofExcept _ _
  | metro module node =>
      refine .bind (.ofExcept _ _) fun input =>
        .bind (takesTime_runNode hcontained node module _) fun conclusion => ?_
      split
      · exact .throw _
      · exact .throw _
      · exact .throw _
      · refine .bind (takesTime_outputText _) fun out => .bind (takesTime_outputText _) fun err => ?_
        dsimp only
        split
        · exact .throw _
        · exact takesTime_readMap _ _

omit hcontained

theorem takesTime_composedMap {compose : List Json → Action Json}
    (hcompose : ∀ maps, TakesTime (compose maps)) (bundlerMap : Text) (file : Path) :
    TakesTime (composedMap compose bundlerMap file) := by
  refine .bind (.bind (takesTime_readMap _ _) fun bundler => ?_) fun maps =>
    .bind (hcompose maps) fun _ => .ofExcept _ _
  refine .bind (TakesTime.readText _).attempt fun outcome => ?_
  split
  · exact .bind (takesTime_readMap _ _) fun _ => .pure _
  · split
    · exact .throw _
    · exact .throw _
  · exact .throw _

end Composers

/-! ## The work in a workspace -/

namespace Ground


/-- Whether the work in a workspace changes nothing beside it, and leaves
    it. -/
structure Works (G : Ground) (n : Nat) (m after : Machine) : Prop where
  touches : G.Touches n m after
  directory : after.files.entry? (G.lot n) = some .directory
  twins : m.files.HasTwins → after.files.HasTwins

variable {G : Ground} {n : Nat} {m middle after : Machine} {programs : Programs} {job : Job}
  {composer : Composer} {compiler : Path} {α : Type}

theorem Works.trans (h : G.Works n middle after) (hm : G.Works n m middle) : G.Works n m after :=
  ⟨hm.touches.trans h.touches, h.directory, h.twins ∘ hm.twins⟩

theorem settled_of_carries (hm : G.Carries m) : m.files.settle m.here = m.here := by
  rw [hm.here]
  exact settle_here hm.keeps.extends

/-- Taking time is no more than that. -/
theorem works_of_takesTime (hm : G.Carries m) (hentry : m.files.entry? (G.lot n) = some .directory)
    {x : Action α} (hx : TakesTime x) {outcome : Except Failure α}
    (h : x.perform m = (outcome, after)) : G.Works n m after := by
  obtain ⟨_, clock, log, hperform⟩ := hx m (settled_of_carries hm)
  obtain ⟨-, rfl⟩ := Prod.mk.inj (h.symm.trans hperform)
  exact ⟨.looked G n m clock log, hentry, id⟩

end Ground

/-- Whether the files of a machine are as they should be, as far as their
    names go, and it stands in a directory. -/
def HasNames (m : Machine) : Prop := m.files.HasTwins ∧ m.files.settle m.here = m.here

/-- Writing keeps the names of files together. -/
theorem hasNames_writeBytes (path : Text) (content : Bytes) :
    Keeps HasNames (writeBytes path content) := by
  intro m hm
  rcases writeBytes_cases path content m with ⟨files, hfiles, hgives⟩ | ⟨f, hfails⟩
  · obtain ⟨place, e, hwritten⟩ := written_of_writeFile hm.2 hfiles
    rw [hgives]
    exact ⟨hwritten.hasTwins hm.1, (hwritten.covers hm.1).settle hm.2⟩
  · rw [hfails]
    exact hm

theorem hasNames_writeText (path : Text) (text : Text) :
    Keeps HasNames (writeText path text) := by
  unfold writeText
  split
  · exact hasNames_writeBytes _ _
  · exact .bind (hasNames_writeBytes _ _) fun _ _ hm => hm

theorem hasNames_stageInputs (ws : Workspace) (request : Request) :
    Keeps HasNames (stageInputs ws request) := by
  have hcode : Keeps HasNames (codeBytes request.code) := by
    unfold codeBytes
    split
    · split
      · exact fun _ hm => hm
      · exact fun _ hm => hm
    · exact fun _ hm => hm
  exact .bind hcode fun code => .bind (hasNames_writeBytes _ _) fun _ => hasNames_writeText _ _

namespace Ground

variable {G : Ground} {n : Nat} {m middle after : Machine} {programs : Programs} {job : Job}
  {composer : Composer} {compiler : Path} {α : Type}

/-- **Staging stays in the workspace.** -/
theorem works_stageInputs (htakes : G.Takes n) (hm : G.Carries m)
    (hbare : m.files.contents (G.lot n) = bare) {request : Request}
    {outcome : Except Failure Unit}
    (h : (stageInputs (G.workspaceAt n) request).perform m = (outcome, after)) :
    G.Works n m after := by
  obtain ⟨_, left, hdoes, hinputs⟩ := does_stageInputs htakes request
  obtain ⟨_, hperform, htouches, hleft⟩ := hdoes m hm hbare
  obtain ⟨-, rfl⟩ := Prod.mk.inj (h.symm.trans hperform)
  refine ⟨htouches, entry?_lot hleft hinputs.directory, fun htwins => ?_⟩
  have hnames := hasNames_stageInputs (G.workspaceAt n) request m ⟨htwins, settled_of_carries hm⟩
  rw [h] at hnames
  exact hnames.1

/-- **A compiler that keeps to its directory stays in the workspace.** -/
theorem works_compiled (hcontained : IsContained programs) (htakes : G.Takes n) (hm : G.Carries m)
    (hentry : m.files.entry? (G.lot n) = some .directory) {outcome : Except Failure Unit}
    (h : Compiled programs job compiler (G.workspaceAt n) m outcome after) :
    G.Works n m after := by
  have hannounced : G.Works n m (announced job (G.workspaceAt n) m) :=
    ⟨.looked G n m m.clock _, hentry, id⟩
  -- However the compiler ends, what it leaves is beside nothing else.
  have hrun : ∀ {files : FileSystem} {here : Location} {conclusion : Conclusion} (time : Nat),
      Concludes programs job compiler (G.workspaceAt n) m files here conclusion →
      G.Works n m ((announced job (G.workspaceAt n) m).afterRun files here time) := by
    rintro files here conclusion time ⟨-, hconcludes⟩
    have hlocate := locate_workspaceAt htakes hm.keeps.extends hentry .target
    rw [← hm.here] at hlocate
    obtain ⟨left, conclusion', hleft, hbeside, hthere, htwins⟩ :=
      hcontained.compiler job compiler (G.workspaceAt n) m (G.lot n) hlocate hentry
    obtain ⟨rfl, hrest⟩ := Prod.mk.inj (hconcludes.symm.trans hleft)
    obtain ⟨rfl, -⟩ := Prod.mk.inj hrest
    exact ⟨.settled hm htakes hbeside _ _, hthere, htwins⟩
  cases h with
  | unnamed _ _ => exact hannounced
  | notStarted hconcludes => exact hrun 0 hconcludes
  | notEntered hconcludes => exact hrun 0 hconcludes
  | killed hconcludes => exact hrun 0 hconcludes
  | failed hconcludes _ => exact hrun _ hconcludes
  | succeeded hconcludes => exact hrun _ hconcludes

/-- What is done until the compiler has ended stays in the workspace. -/
theorem works_hasCompiled (hcontained : IsContained programs) (htakes : G.Takes n)
    (hm : G.Carries m) (hbare : m.files.contents (G.lot n) = bare)
    (h : HasCompiled programs job compiler (G.workspaceAt n) m after) : G.Works n m after := by
  obtain ⟨staged, hstaged, hcompiled⟩ := h
  have hworks := works_stageInputs htakes hm hbare hstaged
  exact (works_compiled hcontained htakes (hworks.touches.carries htakes hm) hworks.directory
    hcompiled).trans hworks

/-- **All work stays in the workspace**, however it goes. -/
theorem works_of_worked (hcontained : IsContained programs)
    (hcomposer : ∀ maps, TakesTime (composer programs maps)) (htakes : G.Takes n)
    (hm : G.Carries m) (hbare : m.files.contents (G.lot n) = bare)
    {outcome : Except Failure Result}
    (h : Worked programs job composer compiler (G.workspaceAt n) m outcome after) :
    G.Works n m after := by
  have hcomposition : TakesTime (composition programs job composer (G.workspaceAt n)) :=
    takesTime_composedMap hcomposer _ _
  -- What is composed is composed once the compiler has ended.
  have hcomposed : ∀ {compiled last : Machine} {sourceMap : Except Failure Text},
      HasCompiled programs job compiler (G.workspaceAt n) m compiled →
      (composition programs job composer (G.workspaceAt n)).perform compiled = (sourceMap, last) →
      G.Works n m last := by
    intro compiled last sourceMap hcompiled hlast
    have hworks := works_hasCompiled hcontained htakes hm hbare hcompiled
    exact (works_of_takesTime (hworks.touches.carries htakes hm) hworks.directory hcomposition
      hlast).trans hworks
  cases h with
  | notStaged hf => exact works_stageInputs htakes hm hbare hf
  | notCompiled hstaged hcompiled =>
      have hworks := works_stageInputs htakes hm hbare hstaged
      exact (works_compiled hcontained htakes (hworks.touches.carries htakes hm) hworks.directory
        hcompiled).trans hworks
  | notRead hready _ hperform => exact hcomposed hready hperform
  | notComposed hready _ hf => exact hcomposed hready hf
  | done hready _ hmaps hmade htext =>
      exact hcomposed hready (composition_gives.mpr ⟨_, _, _, hmaps, hmade, htext⟩)

/-- **When a workspace has been closed, what is left is what its root was
    made among.** -/
theorem entry?_of_closed (htakes : G.Takes n) {acquired worked : Machine}
    (hacquired : G.Carries acquired)
    (hbeside : ∀ l, ¬G.lot n <+: l → acquired.files.entry? l = G.rooted.entry? l)
    (hworks : G.Works n acquired worked) {outcome final : Except Failure Result}
    (h : Workspace.Closed (G.workspaceAt n) worked outcome final after) :
    after.here = acquired.here ∧ ∀ l, after.files.entry? l = G.rooted.entry? l := by
  have hdirectory : worked.files.contents (G.lot n) [] = some .directory := by
    rw [contents_nil]
    exact hworks.directory
  obtain ⟨_, hperform, htouches, hgone⟩ := does_close htakes hdirectory outcome worked
    (hworks.touches.carries htakes hacquired) rfl
  obtain ⟨-, rfl⟩ := Prod.mk.inj
    (((Workspace.close_iff (isUsable_workspaceAt n)).mpr h).symm.trans hperform)
  have hall := hworks.touches.trans htouches
  refine ⟨by rw [hall.same], fun l => ?_⟩
  by_cases hl : G.lot n <+: l
  · obtain ⟨rest, rfl⟩ := hl
    exact (congrFun hgone rest).trans (htakes.isNew rest).free.symm
  · exact (hall.beside l hl).trans (hbeside l hl)

end Ground

/-- Closing a workspace keeps the names of files together. -/
theorem hasTwins_of_closed {ws : Workspace} {m after : Machine}
    {outcome final : Except Failure Result} (h : Workspace.Closed ws m outcome final after)
    (hm : m.files.HasTwins) : after.files.HasTwins := by
  have hremoved := hm.removeDirectory m.here ws.path
  cases h with
  | clean _ _ => exact hremoved
  | refused _ _ _ => exact hremoved
  | outweighed _ _ _ => exact hremoved

/-! ## Builds -/

section Builds

variable {programs : Programs} {job : Job} {composer : Composer} {compiler : Path}
  {m after : Machine}

/-- A build that has its tools spares the files. -/
theorem spares_of_scoped (hcontained : IsContained programs)
    (hcomposer : ∀ maps, TakesTime (composer programs maps)) (hm : m.IsSound)
    {outcome : Except Failure Result}
    (h : Scoped programs job composer compiler m outcome after) : after.Spares m := by
  cases h with
  | notAcquired hf => exact (Workspace.acquire_grows job.root).sparesFiles.of_perform hm hf
  | @closed ws acquired worked _ _ _ hws hworked hclosed =>
      obtain ⟨G, n, rfl, htakes, hhere, hgrown, hcarries, hput, -⟩ :=
        exists_ground_of_acquire hm hws
      have hbeside : ∀ l, ¬G.lot n <+: l → acquired.files.entry? l = G.rooted.entry? l := by
        intro l hl
        rw [hput]
        exact Ground.entry?_of_put hl
      have hbare : acquired.files.contents (G.lot n) = bare := by
        rw [hput]
        exact Ground.contents_of_put htakes
      have hworks := Ground.works_of_worked hcontained hcomposer htakes hcarries hbare hworked
      obtain ⟨hsame, hentries⟩ :=
        Ground.entry?_of_closed htakes hcarries hbeside hworks hclosed
      refine ⟨hgrown.spares.of_same hentries fun htwins => ?_, ?_⟩
      · have hacquired : acquired.files.HasTwins := by
          rw [hput]
          exact (hgrown.hasTwins htwins).put (Ground.lot_ne_nil n) htakes.free _
        exact hasTwins_of_closed hclosed (hworks.twins hacquired)
      · rw [hsame, hcarries.here, hhere]

theorem reported_spares (outcome : Except Failure Result) (m : Machine) :
    (reported outcome m).Spares m := by
  cases outcome with
  | ok _ => exact ⟨.refl _, rfl⟩
  | error _ => exact ⟨.refl _, rfl⟩

/-- The composer of a project takes time at most. -/
theorem takesTime_of_resolveComposer (hcontained : IsContained programs) {settings : Settings}
    {project : Path} (h : ((Toolchain.project settings).resolveComposer project).Gives m composer
      after) (maps : List Json) : TakesTime (composer programs maps) := by
  obtain ⟨found, _, -, hfound⟩ := gives_bind.mp h
  obtain ⟨rfl, -⟩ := gives_pure.mp hfound
  exact takesTime_composer hcontained found maps

/-- **A build spares the files**, however it goes. -/
theorem run_sparesFiles (hcontained : IsContained programs) (htoolchain : job.toolchain = none)
    (hdeadline : job.deadline = none) : SparesFiles (run programs job) := by
  intro m hm
  have hcourse : Course programs job m ((run programs job).perform m).1
      ((run programs job).perform m).2 := (run_iff hdeadline).mp rfl
  -- The toolchain is that of the project, which looks for its tools without writing.
  have htools : ∀ {tools : Toolchain} {asked : Machine}, job.tools.Gives m tools asked →
      asked.Spares m ∧ ∃ settings, tools = .project settings := by
    intro tools asked h
    refine ⟨(tools_leavesFiles job).sparesFiles.of_perform hm h, ?_⟩
    rcases tools_gives h with hbrought | hsettings
    · exact nomatch hbrought.symm.trans htoolchain
    · exact hsettings
  have hcomposers : ∀ settings project,
      SparesFiles ((Toolchain.project settings).resolveComposer project) := fun settings project =>
    (Toolchain.project_leavesFiles settings project).1.sparesFiles
  have hcompilers : ∀ settings project,
      SparesFiles ((Toolchain.project settings).resolveCompiler project) := fun settings project =>
    (Toolchain.project_leavesFiles settings project).2.sparesFiles
  generalize ((run programs job).perform m).1 = outcome at hcourse
  generalize ((run programs job).perform m).2 = after at hcourse ⊢
  cases hcourse with
  | noToolchain hf => exact (tools_leavesFiles job).sparesFiles.of_perform hm hf
  | noComposer hasked hf =>
      obtain ⟨hspares, settings, rfl⟩ := htools hasked
      exact ((hcomposers settings _).of_perform (hspares.isSound hm) hf).trans hspares
  | noCompiler hasked hcomposer hf =>
      obtain ⟨hspares, settings, rfl⟩ := htools hasked
      have hfound := ((hcomposers settings _).of_perform (hspares.isSound hm) hcomposer).trans
        hspares
      exact ((hcompilers settings _).of_perform (hfound.isSound hm) hf).trans hfound
  | equipped hasked hcomposer hcompiler hscoped =>
      obtain ⟨hspares, settings, rfl⟩ := htools hasked
      have hfound := ((hcomposers settings _).of_perform (hspares.isSound hm) hcomposer).trans
        hspares
      have hready := ((hcompilers settings _).of_perform (hfound.isSound hm) hcompiler).trans hfound
      have hdone := (spares_of_scoped hcontained (takesTime_of_resolveComposer hcontained hcomposer)
        (hready.isSound hm) hscoped).trans hready
      exact (reported_spares _ _).trans hdone

end Builds

/-! ## A compiler that keeps to itself -/

/-- The files with a new one in a directory, if its name is free. -/
def withFile (place : Location) (name : Text) (content : Bytes) (fs : FileSystem) : FileSystem :=
  if fs.entry? (child place name) = none then fs.put (child place name) (.file content false)
  else fs

/-- A map that says nothing. -/
def blankMap : Bytes := Text.bytes "\x7b\x22version\x22:3,\x22mappings\x22:\x22\x22\x7d"

/-- A compiler that puts a bytecode of one byte, and a map that says
    nothing, into the directory that it is run in. -/
def localCompiler : Programs := fun fs here call =>
  match call.directory.map (fs.locate here .target) with
  | some (.ok (.found place .directory)) =>
      (withFile place "index.hbc.map" blankMap (withFile place "index.hbc" [0xC6] fs), here,
        .ended 0 [] [] 5)
  | _ => (fs, here, .ended 0 [] [] 5)

theorem withFile_keeps {place : Location} {base fs : FileSystem} (name : Text) (content : Bytes)
    (hbeside : ∀ l, ¬place <+: l → fs.entry? l = base.entry? l)
    (hplace : fs.entry? place = some .directory) (htwins : base.HasTwins → fs.HasTwins) :
    (∀ l, ¬place <+: l → entry? (withFile place name content fs) l = base.entry? l)
      ∧ entry? (withFile place name content fs) place = some .directory
      ∧ (base.HasTwins → (withFile place name content fs).HasTwins) := by
  unfold withFile
  split
  · rename_i hfree
    refine ⟨fun l hl => ?_, ?_, fun hbase => (htwins hbase).put (child_ne_nil _ _) hfree _⟩
    · rw [entry?_put (child_ne_nil _ _), if_neg, hbeside l hl]
      rintro rfl
      exact hl (List.prefix_append _ _)
    · rw [entry?_put (child_ne_nil _ _), if_neg, hplace]
      intro heq
      rw [← heq, hplace] at hfree
      exact nomatch hfree
  · exact ⟨hbeside, hplace, htwins⟩

theorem isContained_localCompiler : IsContained localCompiler where
  compiler job compiler ws m place hplace hentry := by
    obtain ⟨hbeside, hdirectory, htwins⟩ :=
      withFile_keeps "index.hbc" [0xC6] (fun _ _ => rfl) hentry id
    refine ⟨_, .ended 0 [] [] 5, ?_,
      withFile_keeps "index.hbc.map" blankMap hbeside hdirectory htwins⟩
    unfold localCompiler compilerCall
    simp only [Option.map_some, hplace]
  composer fs here call node module hargv hnone := by
    refine ⟨.ended 0 [] [] 5, ?_⟩
    unfold localCompiler
    rw [hnone]
    rfl

end Build

end HermesBundle
