import HermesBundle.Build.Pipeline
import HermesBundle.Proofs.Looking

/-! # Tools — found without a trace on the files

    Finding the tools of a build is a matter of looking: at settings, at
    modules of the project, at the directories of a search path.  Nothing
    is written (`equip_leavesFiles`), so a build that does not find
    its tools leaves the files as they were.  Reading the maps of a build
    is a matter of looking, too, and if its composer writes nothing then
    neither does the composition (`composedMap_leavesFiles`). -/

namespace HermesBundle

namespace Action

/-- What only looks leaves the files alone. -/
theorem LeavesFiles.of_looksAlike {α : Type} {x : Action α} (h : ∀ m, LooksAlike x m m) :
    LeavesFiles x := fun m => by
  rw [(h m).keeps]
  exact ⟨rfl, rfl⟩

theorem LeavesFiles.leadsTo (kind : Entry → Bool) (path : Path) :
    LeavesFiles (Action.leadsTo kind path) :=
  .of_looksAlike fun _ => .leadsTo kind rfl (.inl rfl)

theorem LeavesFiles.isFile (path : Path) : LeavesFiles (Action.isFile path) := .leadsTo _ path

theorem LeavesFiles.currentDirectory : LeavesFiles Action.currentDirectory :=
  .of_looksAlike fun _ => .currentDirectory rfl

theorem LeavesFiles.resolve (path : Path) : LeavesFiles (Action.resolve path) :=
  .of_looksAlike fun _ => .resolve path rfl rfl

theorem LeavesFiles.environmentValue (name : String) :
    LeavesFiles (Action.environmentValue name) := .bind .get fun _ => .pure _

end Action

open HermesBundle.Action

theorem Settings.current_leavesFiles : LeavesFiles Settings.current :=
  .bind .get fun _ => .bind (.environmentValue _) fun _ => .ofExcept _ _

theorem Project.searchModule_leavesFiles (request : Text) (directories : List Path) :
    LeavesFiles (Project.searchModule request directories) := by
  induction directories with
  | nil => exact .pure _
  | cons directory rest ih =>
      unfold Project.searchModule
      split
      · exact .throw _
      · refine .bind (.isFile _) fun isExact => ?_
        split
        · exact .pure _
        · refine .bind (.isFile _) fun isScript => ?_
          split
          · exact .pure _
          · exact ih

theorem Project.resolveModule_leavesFiles (project : Path) (request : Text) :
    LeavesFiles (Project.resolveModule project request) :=
  .bind (.resolve project) fun _ => Project.searchModule_leavesFiles request _

namespace Build

theorem findExecutable_leavesFiles (name : Text) (directories : List Text) :
    LeavesFiles (findExecutable name directories) := by
  induction directories with
  | nil => exact .pure _
  | cons directory rest ih =>
      refine .bind .get fun m => ?_
      split
      · exact .pure _
      · exact ih

theorem nodeOnPath_leavesFiles : LeavesFiles nodeOnPath := by
  refine .bind (.environmentValue _) fun path => ?_
  dsimp only
  split
  · exact .pure _
  · exact findExecutable_leavesFiles _ _

theorem resolveProjectCompiler_leavesFiles (settings : Settings) (project : Path) :
    LeavesFiles (resolveProjectCompiler settings project) := by
  unfold resolveProjectCompiler
  split
  · refine .bind (.isFile _) fun isFile => ?_
    split
    · exact .pure _
    · exact .throw _
  · refine .bind .get fun m => .bind (.ofExcept _ _) fun inside => ?_
    refine .bind (Project.resolveModule_leavesFiles project _) fun found => ?_
    split
    · exact .throw _
    · exact .bind (.record _ _ _) fun _ => .pure _

theorem resolveProjectComposer_leavesFiles (settings : Settings) (project : Path) :
    LeavesFiles (resolveProjectComposer settings project) := by
  unfold resolveProjectComposer
  split
  · exact .pure _
  · refine .bind (Project.resolveModule_leavesFiles project _) fun found => ?_
    split
    · exact .throw _
    · dsimp only
      split
      · refine .bind (.pure _) fun node => ?_
        split
        · exact .throw _
        · exact .bind (.record _ _ _) fun _ => .pure _
      · refine .bind nodeOnPath_leavesFiles fun node => ?_
        split
        · exact .throw _
        · exact .bind (.record _ _ _) fun _ => .pure _

/-- Whether a toolchain looks for its tools without writing anything. -/
def Toolchain.LeavesFiles (tools : Toolchain) : Prop :=
  ∀ project, Action.LeavesFiles (tools.resolveComposer project)
    ∧ Action.LeavesFiles (tools.resolveCompiler project)

theorem Toolchain.static_leavesFiles (compiler : Path) (composer : Composer) :
    (Toolchain.static compiler composer).LeavesFiles := fun _ => ⟨.pure _, .pure _⟩

theorem Toolchain.project_leavesFiles (settings : Settings) :
    (Toolchain.project settings).LeavesFiles := fun project =>
  ⟨.bind (resolveProjectComposer_leavesFiles settings project) fun _ => .pure _,
    resolveProjectCompiler_leavesFiles settings project⟩

/-- The toolchain of a job is the one it brings, or that of the project. -/
theorem tools_gives {job : Job} {m after : Machine} {tools : Toolchain}
    (h : job.tools.Gives m tools after) :
    job.toolchain = some tools ∨ ∃ settings, tools = .project settings := by
  unfold Job.tools at h
  split at h
  · rename_i brought hbrought
    obtain ⟨rfl, -⟩ := gives_pure.mp h
    exact .inl hbrought
  · obtain ⟨settings, _, -, h⟩ := gives_bind.mp h
    obtain ⟨rfl, -⟩ := gives_pure.mp h
    exact .inr ⟨settings, rfl⟩

theorem tools_leavesFiles (job : Job) : LeavesFiles job.tools := by
  unfold Job.tools
  split
  · exact .pure _
  · exact .bind Settings.current_leavesFiles fun _ => .pure _

/-- Finding the tools of a job writes nothing if its toolchain, where it
    brings one, writes nothing. -/
theorem equip_leavesFiles {job : Job}
    (h : ∀ tools, job.toolchain = some tools → tools.LeavesFiles) : LeavesFiles (equip job) := by
  refine (tools_leavesFiles job).bind_of_gives fun tools m after htools => ?_
  have hquiet : tools.LeavesFiles := by
    rcases tools_gives htools with hbrought | ⟨settings, rfl⟩
    · exact h tools hbrought
    · exact Toolchain.project_leavesFiles settings
  exact .bind (hquiet _).1 fun _ => .bind (hquiet _).2 fun _ => .pure _

/-! ## Reading and composing -/

theorem readMap_leavesFiles (which : MapText) (text : Text) : LeavesFiles (readMap which text) := by
  unfold readMap
  split
  · exact .pure _
  · exact .throw _
  · exact .throw _

theorem readMaps_leavesFiles (bundlerMap : Text) (file : Path) :
    LeavesFiles (readMaps bundlerMap file) := by
  refine .bind (readMap_leavesFiles _ _) fun bundler => ?_
  refine .bind (.attempt (.readText _)) fun outcome => ?_
  split
  · exact .bind (readMap_leavesFiles _ _) fun _ => .pure _
  · split
    · exact .throw _
    · exact .throw _
  · exact .throw _

theorem composedMap_leavesFiles {compose : List Json → Action Json}
    (h : ∀ maps, LeavesFiles (compose maps)) (bundlerMap : Text) (file : Path) :
    LeavesFiles (composedMap compose bundlerMap file) :=
  .bind (readMaps_leavesFiles bundlerMap file) fun maps => .bind (h maps) fun _ => .ofExcept _ _

/-- The composer of this library writes nothing. -/
theorem builtinComposer_leavesFiles (programs : Programs) (maps : List Json) :
    LeavesFiles (builtinComposer programs maps) := .ofExcept _ _

end Build

end HermesBundle
