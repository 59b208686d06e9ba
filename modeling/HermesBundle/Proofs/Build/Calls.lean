import HermesBundle.Proofs.Build.Compilation
import HermesBundle.Proofs.Looking

/-! # Calls — the files that a compiler is pointed at

    The compiler runs in the workspace, while the build that calls it
    stands somewhere else.  Both name the same files by the same texts, so
    the texts had better be absolute:

    * an absolute path leads to the same place from every directory
      (`locate_of_isAbsolute`);
    * the path of a workspace is absolute if the directory that it was
      made in was given by an absolute path (`isAbsolute_of_acquire`);
    * **so the call of a compiler with an absolute path, from a build with
      such a directory, names the files that the build means**
      (`compilerCall_names`).

    A relative directory is not made absolute, nor is a relative path to
    the compiler.  What is then called for is not what the build means
    (`compilerCall_misses`). -/

namespace HermesBundle

namespace Build

open HermesBundle.Action FileSystem

/-! ## Where a build comes from -/

variable {programs : Programs} {job : Job} {composer : Composer} {compiler : Path} {ws : Workspace}
  {m after : Machine} {stage next : Stage}

/-- What a stage up to the call of the compiler has come from, by an action
    that gave what the stage holds. -/
def CameFrom (job : Job) (stage : Stage) (m : Machine) (next : Stage) (after : Machine) : Prop :=
  match next with
  | .begun => False
  | .equipped composer compiler =>
      stage = .begun ∧ (equip job).Gives m (composer, compiler) after
  | .acquired composer compiler ws =>
      stage = .equipped composer compiler ∧ (Workspace.acquire job.root).Gives m ws after
  | .staged composer compiler ws =>
      stage = .acquired composer compiler ws ∧ (stageInputs ws job.request).Gives m () after
  | _ => True

theorem cameFrom_of_advance (h : (advance programs job stage).Gives m next after) :
    CameFrom job stage m next after := by
  cases stage with
  | begun =>
      obtain ⟨outcome, middle, hequip, h⟩ := gives_bind.mp h
      cases outcome with
      | ok tools =>
          obtain ⟨rfl, rfl⟩ := gives_pure.mp h
          exact ⟨rfl, gives_of_attempt hequip⟩
      | error f =>
          obtain ⟨rfl, -⟩ := gives_pure.mp h
          trivial
  | equipped composer compiler =>
      obtain ⟨outcome, middle, hacquire, h⟩ := gives_bind.mp h
      cases outcome with
      | ok ws =>
          obtain ⟨rfl, rfl⟩ := gives_pure.mp h
          exact ⟨rfl, gives_of_attempt hacquire⟩
      | error f =>
          obtain ⟨rfl, -⟩ := gives_pure.mp h
          trivial
  | acquired composer compiler ws =>
      obtain ⟨outcome, middle, hstage, h⟩ := gives_bind.mp h
      obtain ⟨rfl, rfl⟩ := gives_pure.mp h
      cases outcome with
      | ok _ => exact ⟨rfl, gives_of_attempt hstage⟩
      | error f => trivial
  | staged composer compiler ws =>
      obtain ⟨outcome, middle, -, h⟩ := gives_bind.mp h
      obtain ⟨rfl, -⟩ := gives_pure.mp h
      cases outcome <;> trivial
  | compiled composer ws =>
      obtain ⟨bytecode, middle, -, h⟩ := gives_bind.mp h
      obtain ⟨rfl, -⟩ := gives_pure.mp h
      trivial
  | read composer ws bytecode =>
      obtain ⟨sourceMap, middle, -, h⟩ := gives_bind.mp h
      obtain ⟨machine, _, -, h⟩ := gives_bind.mp h
      split at h
      all_goals
        obtain ⟨rfl, -⟩ := gives_pure.mp h
        trivial
  | closing ws outcome =>
      obtain ⟨closed, middle, -, h⟩ := gives_bind.mp h
      cases closed with
      | ok result =>
          obtain ⟨_, _, -, h⟩ := gives_bind.mp h
          obtain ⟨rfl, -⟩ := gives_pure.mp h
          trivial
      | error f =>
          obtain ⟨rfl, -⟩ := gives_pure.mp h
          trivial
  | ended outcome =>
      obtain ⟨rfl, -⟩ := gives_pure.mp h
      trivial

/-- The last of some steps comes after the others. -/
theorem steps_succ_gives {n : Nat} (h : (steps programs job (n + 1) stage).Gives m next after) :
    ∃ last middle, (steps programs job n stage).Gives m last middle
      ∧ (advance programs job last).Gives middle next after := by
  induction n generalizing stage m with
  | zero =>
      obtain ⟨following, middle, hstep, h⟩ := gives_bind.mp h
      obtain ⟨rfl, rfl⟩ := gives_pure.mp h
      exact ⟨stage, m, rfl, hstep⟩
  | succ n ih =>
      obtain ⟨following, middle, hstep, h⟩ := gives_bind.mp h
      obtain ⟨last, before, hsteps, hlast⟩ := ih h
      exact ⟨last, before, gives_bind.mpr ⟨following, middle, hstep, hsteps⟩, hlast⟩

/-- Before a build has begun it has not taken a step. -/
theorem eq_of_steps_begun {n : Nat} (h : (steps programs job n .begun).Gives m .begun after) :
    m = after := by
  cases n with
  | zero => exact (gives_pure.mp h).2
  | succ n =>
      obtain ⟨_, _, -, hlast⟩ := steps_succ_gives h
      exact (cameFrom_of_advance hlast).elim

/-- A build that comes to a stage it did not begin with came to it by its
    last step. -/
theorem exists_cameFrom {n : Nat} (h : (steps programs job n .begun).Gives m next after)
    (hnext : next ≠ .begun) :
    ∃ k last middle, (steps programs job k .begun).Gives m last middle
      ∧ CameFrom job last middle next after := by
  cases n with
  | zero => exact absurd (gives_pure.mp h).1.symm hnext
  | succ n =>
      obtain ⟨last, middle, hsteps, hlast⟩ := steps_succ_gives h
      exact ⟨n, last, middle, hsteps, cameFrom_of_advance hlast⟩

/-- What a build has done that is about to call the compiler. -/
theorem exists_of_staged {n : Nat} {staged : Machine}
    (h : (steps programs job n .begun).Gives m (.staged composer compiler ws) staged) :
    ∃ ready acquired, (equip job).Gives m (composer, compiler) ready
      ∧ (Workspace.acquire job.root).Gives ready ws acquired
      ∧ (stageInputs ws job.request).Gives acquired () staged := by
  obtain ⟨_, _, acquired, hacquired, rfl, hstaged⟩ := exists_cameFrom h (fun h => nomatch h)
  obtain ⟨_, _, ready, hready, rfl, hws⟩ := exists_cameFrom hacquired (fun h => nomatch h)
  obtain ⟨_, _, begun, hbegun, rfl, hequip⟩ := exists_cameFrom hready (fun h => nomatch h)
  obtain rfl := eq_of_steps_begun hbegun
  exact ⟨ready, acquired, hequip, hws, hstaged⟩

/-! ## Absolute workspaces -/

/-- Whether workspaces are made in a directory. -/
def MadeIn (root : Option Path) (m : Machine) (directory : Text) : Prop :=
  ∃ parent asked middle, (Workspace.parentOf root).Gives m parent asked
    ∧ (Workspace.directoryFor parent).Gives asked directory middle

/-- Workspaces are made in the parent directory if there is one. -/
theorem eq_of_madeIn {root : Option Path} {parent : Path} {directory : Text}
    (hparent : (Workspace.parentOf root).Gives m (some parent) after)
    (h : MadeIn root m directory) : directory = parent.toText := by
  obtain ⟨_, _, _, hasked, hdirectory⟩ := h
  obtain ⟨rfl, rfl⟩ := hparent.unique hasked
  obtain ⟨_, _, -, hdirectory⟩ := gives_bind.mp hdirectory
  exact (gives_pure.mp hdirectory).1.symm

/-- What is inside an absolute directory is given by an absolute path. -/
theorem head?_inside {directory : Text} (h : directory.head? = some slash) (name : Text) :
    (Temporary.inside directory name).head? = some slash := by
  obtain ⟨rest, rfl⟩ := List.head?_eq_some_iff.mp h
  unfold Temporary.inside
  split <;> rfl

/-- A workspace that was made in an absolute directory has an absolute
    path. -/
theorem isAbsolute_of_acquire {root : Option Path}
    (h : (Workspace.acquire root).Gives m ws after)
    (habsolute : ∀ directory, MadeIn root m directory → directory.head? = some slash) :
    ws.path.isAbsolute = true := by
  obtain ⟨parent, asked, directory, middle, n, files, path, hparent, hdirectory, rfl, -, -, hpath,
    -⟩ := Workspace.acquire_gives h
  rw [hpath]
  exact Path.isAbsolute_ofText
    (head?_inside (habsolute directory ⟨parent, asked, middle, hparent, hdirectory⟩) _)

/-! ## Absolute compilers -/

/-- The candidates for a module below an absolute directory are absolute
    paths. -/
theorem isAbsolute_of_candidates {directory exact script : Path} {request : Text}
    (hdirectory : directory.isAbsolute = true)
    (h : Project.candidates directory request = some (exact, script)) :
    exact.isAbsolute = true ∧ script.isAbsolute = true := by
  obtain ⟨named, hnamed, heq⟩ := Option.map_eq_some_iff.mp h
  obtain ⟨rfl, rfl⟩ := Prod.mk.inj heq
  have hexact : (Project.requestPath directory request).isAbsolute = true :=
    Path.isAbsolute_child (Path.isAbsolute_child hdirectory _) _
  refine ⟨hexact, ?_⟩
  unfold Path.withName? at hnamed
  split at hnamed
  · exact nomatch hnamed
  · obtain rfl := Option.some.inj hnamed
    exact hexact

/-- A module that is found below absolute directories has an absolute
    path. -/
theorem isAbsolute_of_searchModule {request : Text} {directories : List Path} {found : Path}
    (hdirectories : ∀ directory ∈ directories, directory.isAbsolute = true)
    (h : (Project.searchModule request directories).Gives m (some found) after) :
    found.isAbsolute = true := by
  induction directories generalizing m with
  | nil => exact nomatch (gives_pure.mp h).1
  | cons directory rest ih =>
      obtain ⟨hdirectory, hrest⟩ := List.forall_mem_cons.mp hdirectories
      unfold Project.searchModule at h
      split at h
      · exact nomatch h
      · rename_i exact script hcandidates
        obtain ⟨hexact, hscript⟩ := isAbsolute_of_candidates hdirectory hcandidates
        obtain ⟨isExact, _, -, h⟩ := gives_bind.mp h
        split at h
        · obtain rfl := Option.some.inj (gives_pure.mp h).1
          exact hexact
        · obtain ⟨isScript, _, -, h⟩ := gives_bind.mp h
          split at h
          · obtain rfl := Option.some.inj (gives_pure.mp h).1
            exact hscript
          · exact ih hrest h

/-- A compiler that is a module of the project has an absolute path. -/
theorem isAbsolute_of_resolveProjectCompiler {settings : Settings} {project : Path}
    (hsettings : settings.compiler = none)
    (h : (resolveProjectCompiler settings project).Gives m compiler after) :
    compiler.isAbsolute = true := by
  unfold resolveProjectCompiler at h
  rw [hsettings] at h
  obtain ⟨_, _, -, h⟩ := gives_bind.mp h
  obtain ⟨_, _, -, h⟩ := gives_bind.mp h
  obtain ⟨outcome, _, hmodule, h⟩ := gives_bind.mp h
  cases outcome with
  | none => exact nomatch h
  | some found =>
      obtain ⟨_, _, -, h⟩ := gives_bind.mp h
      obtain ⟨rfl, -⟩ := gives_pure.mp h
      obtain ⟨resolved, _, hresolved, hfound⟩ := gives_bind.mp hmodule
      refine isAbsolute_of_searchModule (fun directory hdirectory => ?_) hfound
      obtain ⟨n, -, rfl⟩ := List.mem_map.mp hdirectory
      have habsolute := isAbsolute_of_resolve hresolved
      exact habsolute

/-! ## What a call names -/

/-- Whether the paths that a build calls its compiler with are firm: the
    directory that its workspace is made in is given by an absolute path,
    and so is the compiler unless it is a module of the project. -/
structure HasFirmPaths (job : Job) (m : Machine) (compiler : Path) : Prop where
  directory_absolute : ∀ ready tools, (equip job).Gives m tools ready →
    ∀ directory, MadeIn job.root ready directory → directory.head? = some slash
  compiler_absolute : compiler.isAbsolute = true
    ∨ ∃ settings asked, job.tools.Gives m (.project settings) asked ∧ settings.compiler = none

/-- Absolute paths that a job brings are firm. -/
theorem hasFirmPaths_of_root {root : Path} (hroot : job.root = some root)
    (habsolute : root.isAbsolute = true) (hcompiler : compiler.isAbsolute = true) :
    HasFirmPaths job m compiler where
  directory_absolute ready _ _ directory hmade := by
    have hparent : (Workspace.parentOf job.root).Gives ready (some root) ready := by
      rw [hroot]
      rfl
    rw [eq_of_madeIn hparent hmade]
    exact Path.head?_toText habsolute
  compiler_absolute := .inl hcompiler

/-- A firm compiler has an absolute path. -/
theorem HasFirmPaths.isAbsolute {ready : Machine} (h : HasFirmPaths job m compiler)
    (hequip : (equip job).Gives m (composer, compiler) ready) : compiler.isAbsolute = true := by
  rcases h.compiler_absolute with habsolute | ⟨settings, asked, htools, hsettings⟩
  · exact habsolute
  · obtain ⟨tools, _, hasked, hequip⟩ := gives_bind.mp hequip
    obtain ⟨rfl, rfl⟩ := htools.unique hasked
    obtain ⟨_, _, -, hequip⟩ := gives_bind.mp hequip
    obtain ⟨_, _, hcompiler, hequip⟩ := gives_bind.mp hequip
    obtain ⟨heq, -⟩ := gives_pure.mp hequip
    obtain ⟨-, rfl⟩ := Prod.mk.inj heq
    exact isAbsolute_of_resolveProjectCompiler hsettings hcompiler

/-- **A call with firm paths names what the build means**: the compiler
    that was found, the staged bundle and the bytecode that is read
    afterwards, wherever the compiler runs and wherever the build
    stands. -/
theorem compilerCall_names {n : Nat} {staged : Machine}
    (hstaged : (steps programs job n .begun).Gives m (.staged composer compiler ws) staged)
    (hfirm : HasFirmPaths job m compiler) :
    ∃ flags, (compilerCall job compiler ws staged).argv
        = [compiler.toText, Text.ofString "-emit-binary", Text.ofString "-out",
            ws.bytecode.toText, ws.bundle.toText] ++ flags
      ∧ (compilerCall job compiler ws staged).directory = some ws.path.toText
      ∧ ∀ path ∈ [compiler, ws.path, ws.bytecode, ws.bundle], ∀ fs child here aim,
        locate fs child aim path.toText = locate fs here aim path.toText := by
  obtain ⟨ready, acquired, hequip, hws, -⟩ := exists_of_staged hstaged
  have hcompiler := hfirm.isAbsolute hequip
  have hpath := isAbsolute_of_acquire hws (hfirm.directory_absolute ready _ hequip)
  refine ⟨_, rfl, rfl, ?_⟩
  simp only [List.forall_mem_cons]
  refine ⟨locate_of_isAbsolute hcompiler, locate_of_isAbsolute hpath,
    locate_of_isAbsolute (Path.isAbsolute_child hpath _),
    locate_of_isAbsolute (Path.isAbsolute_child hpath _), fun _ hnone => nomatch hnone⟩

/-- A machine that stands in a directory, with a compiler below it. -/
def homeMachine : Machine where
  files := .ofEntries [(["home"], .directory), (["home", "bin"], .directory),
    (["home", "bin", "hermesc"], .file [] true)]
  here := ["home"]
  environment := []
  platform := "linux"
  processId := 7
  temporary := none
  roots := []
  tickets := 0
  clock := 0
  log := []

/-- A build with a given compiler and a given parent directory. -/
def jobWith (compiler root : String) : Job where
  request := ⟨Path.ofString "app", .text "print(1)",
    "\x7b\x22version\x22:3,\x22mappings\x22:\x22\x22\x7d", false⟩
  toolchain := some (.fixed (Path.ofString compiler))
  root := some (Path.ofString root)
  deadline := none

/-- A compiler that does nothing. -/
def idleCompiler : Programs := fun files here _ => (files, here, .ended 0 [] [] 0)

theorem compilerCall_names_home :
    ∃ compiler ws staged,
      (steps idleCompiler (jobWith "/home/bin/hermesc" "/home/ws") 3 .begun).Gives homeMachine
        (.staged builtinComposer compiler ws) staged
      ∧ HasFirmPaths (jobWith "/home/bin/hermesc" "/home/ws") homeMachine compiler
      ∧ ∃ flags, (compilerCall (jobWith "/home/bin/hermesc" "/home/ws") compiler ws staged).argv
          = [compiler.toText, Text.ofString "-emit-binary", Text.ofString "-out",
              ws.bytecode.toText, ws.bundle.toText] ++ flags
        ∧ (compilerCall (jobWith "/home/bin/hermesc" "/home/ws") compiler ws staged).directory
          = some ws.path.toText
        ∧ ∀ path ∈ [compiler, ws.path, ws.bytecode, ws.bundle], ∀ fs child here aim,
          locate fs child aim path.toText = locate fs here aim path.toText := by
  have hstaged : (steps idleCompiler (jobWith "/home/bin/hermesc" "/home/ws") 3 .begun).Gives
      homeMachine (.staged builtinComposer (Path.ofString "/home/bin/hermesc")
        ⟨Path.ofString "/home/ws/hbc-build-7-aaaaaaaa"⟩) _ := Prod.ext (by cbv) rfl
  have hfirm : HasFirmPaths (jobWith "/home/bin/hermesc" "/home/ws") homeMachine
      (Path.ofString "/home/bin/hermesc") := hasFirmPaths_of_root rfl (by cbv) (by cbv)
  exact ⟨_, _, _, hstaged, hfirm, compilerCall_names hstaged hfirm⟩

/-- **A call with relative paths names something else**: from where the
    compiler runs neither the compiler nor the bundle is found, though the
    build finds both, and there is no place for the bytecode. -/
theorem compilerCall_misses :
    ∃ n compiler ws staged child,
      (steps idleCompiler (jobWith "bin/hermesc" "ws") n .begun).Gives homeMachine
        (.staged builtinComposer compiler ws) staged
      ∧ staged.files.locate staged.here .target ws.path.toText = .ok (.found child .directory)
      ∧ (∀ path ∈ [compiler, ws.bundle],
        staged.files.isFile staged.here path.toText = true
          ∧ staged.files.locate child .target path.toText = .error .noEntry)
      ∧ staged.files.locate child .writing ws.bytecode.toText = .error .noEntry := by
  refine ⟨3, Path.ofString "bin/hermesc", ⟨Path.ofString "ws/hbc-build-7-aaaaaaaa"⟩, _,
    ["home", "ws", "hbc-build-7-aaaaaaaa"], Prod.ext (by cbv) rfl, by cbv, ?_, by cbv⟩
  simp only [List.forall_mem_cons]
  exact ⟨⟨by cbv, by cbv⟩, ⟨by cbv, by cbv⟩, List.forall_mem_nil _⟩

end Build

end HermesBundle
