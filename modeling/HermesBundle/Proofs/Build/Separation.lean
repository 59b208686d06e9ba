import HermesBundle.Proofs.Build.Abandonment
import HermesBundle.Proofs.Build.Concurrency
import HermesBundle.Proofs.Build.Outcome

/-! # Separation — builds together come to what they come to alone

    Whatever a schedule says, builds that share a root and suit it go
    through with it (`follow_separate`):

    * **each has a workspace of its own**, and an outcome that it has
      alone, in the order of the jobs (`Separate`);
    * **in the end everything is as it was**, but for a root that was
      missing;
    * **a build that takes its steps ends** (`Site.follow_stepsLeft`).

    A build with a given compiler suits a root if the compiler works inside
    its workspace (`suits_of_fixed`), and a compiler that writes two files
    does (`confines_terse`).

    The tools matter: a compiler that is found by a path through a root
    that is missing is found once another build has made the root
    (`tools_found_through_root`). -/

namespace HermesBundle.Build

open HermesBundle.Action FileSystem

/-! ## Progress -/

/-- How many steps of a build are left at most. -/
def Stage.stepsLeft : Stage → Nat
  | .begun => 7
  | .equipped _ _ => 6
  | .acquired _ _ _ => 5
  | .staged _ _ _ => 4
  | .compiled _ _ => 3
  | .read _ _ _ => 2
  | .closing _ _ => 1
  | .ended _ => 0

section Progress

variable {programs : Programs} {job : Job} {stage next : Stage} {m after : Machine}

theorem stepsLeft_stageAfter {α : Type} {ws : Workspace} {stage : α → Stage} {k : Nat}
    (hstage : ∀ a, (stage a).stepsLeft ≤ k + 1) (outcome : Except Failure α) :
    (stageAfter ws stage outcome).stepsLeft ≤ k + 1 := by
  cases outcome with
  | ok a => exact hstage a
  | error f => exact Nat.le_add_left 1 k

/-- A step of a build leaves fewer. -/
theorem stepsLeft_of_advance (h : (advance programs job stage).Gives m next after) :
    next.stepsLeft ≤ stage.stepsLeft - 1 := by
  cases stage with
  | begun =>
      obtain ⟨found, middle, -, hnext⟩ := gives_bind.mp h
      cases found with
      | ok tools => obtain ⟨rfl, -⟩ := gives_pure.mp hnext; exact le_refl _
      | error f => obtain ⟨rfl, -⟩ := gives_pure.mp hnext; exact Nat.zero_le _
  | equipped composer compiler =>
      obtain ⟨acquired, middle, -, hnext⟩ := gives_bind.mp h
      cases acquired with
      | ok ws => obtain ⟨rfl, -⟩ := gives_pure.mp hnext; exact le_refl _
      | error f => obtain ⟨rfl, -⟩ := gives_pure.mp hnext; exact Nat.zero_le _
  | acquired composer compiler ws =>
      obtain ⟨outcome, middle, -, hnext⟩ := gives_bind.mp h
      obtain ⟨rfl, -⟩ := gives_pure.mp hnext
      exact stepsLeft_stageAfter (fun _ => le_refl _) outcome
  | staged composer compiler ws =>
      obtain ⟨outcome, middle, -, hnext⟩ := gives_bind.mp h
      obtain ⟨rfl, -⟩ := gives_pure.mp hnext
      exact stepsLeft_stageAfter (fun _ => le_refl _) outcome
  | compiled composer ws =>
      obtain ⟨bytecode, middle, -, hnext⟩ := gives_bind.mp h
      obtain ⟨rfl, -⟩ := gives_pure.mp hnext
      exact le_refl _
  | read composer ws bytecode =>
      obtain ⟨sourceMap, middle, -, hrest⟩ := gives_bind.mp h
      obtain ⟨now, _, -, hnext⟩ := gives_bind.mp hrest
      split at hnext
      · obtain ⟨rfl, -⟩ := gives_pure.mp hnext
        exact le_refl _
      · obtain ⟨rfl, -⟩ := gives_pure.mp hnext
        exact le_refl _
  | closing ws outcome =>
      obtain ⟨closed, middle, -, hrest⟩ := gives_bind.mp h
      cases closed with
      | ok result =>
          obtain ⟨_, _, -, hnext⟩ := gives_bind.mp hrest
          obtain ⟨rfl, -⟩ := gives_pure.mp hnext
          exact le_refl _
      | error f => obtain ⟨rfl, -⟩ := gives_pure.mp hrest; exact le_refl _
  | ended outcome =>
      obtain ⟨rfl, -⟩ := gives_pure.mp h
      exact le_refl _

variable {site last : Site} {i : Nat}

theorem Site.advanceAt_stepsLeft {index : Nat}
    (h : (site.advanceAt programs index).Gives m last after) (hi : site[i]? = some (job, stage)) :
    ∃ next, last[i]? = some (job, next)
      ∧ next.stepsLeft ≤ stage.stepsLeft - if index = i then 1 else 0 := by
  unfold Site.advanceAt at h
  cases hindex : site[index]? with
  | none =>
      rw [hindex] at h
      obtain ⟨rfl, -⟩ := gives_pure.mp h
      have hne : index ≠ i := fun heq => nomatch (heq ▸ hindex).symm.trans hi
      rw [if_neg hne]
      exact ⟨stage, hi, le_refl _⟩
  | some build =>
      rw [hindex] at h
      obtain ⟨next, middle, hstep, hnext⟩ := gives_bind.mp h
      obtain ⟨rfl, -⟩ := gives_pure.mp hnext
      obtain ⟨hlength, -⟩ := List.getElem?_eq_some_iff.mp hi
      by_cases hne : index = i
      · subst hne
        obtain rfl := Option.some.inj (hindex.symm.trans hi)
        rw [if_pos rfl]
        exact ⟨next, List.getElem?_set_self hlength, stepsLeft_of_advance hstep⟩
      · rw [if_neg hne, List.getElem?_set_ne hne]
        exact ⟨stage, hi, le_refl _⟩

/-- Each step that a schedule gives a build brings it nearer to its end. -/
theorem Site.follow_stepsLeft {schedule : List Nat}
    (h : (site.follow programs schedule).Gives m last after) (hi : site[i]? = some (job, stage)) :
    ∃ next, last[i]? = some (job, next)
      ∧ next.stepsLeft ≤ stage.stepsLeft - schedule.count i := by
  induction schedule generalizing site stage m with
  | nil =>
      obtain ⟨rfl, -⟩ := gives_pure.mp h
      exact ⟨stage, hi, le_refl _⟩
  | cons index rest ih =>
      obtain ⟨between, middle, hstep, hrest⟩ := gives_bind.mp h
      obtain ⟨next, hnext, hless⟩ := Site.advanceAt_stepsLeft hstep hi
      obtain ⟨final, hfinal, hleast⟩ := ih hrest hnext
      refine ⟨final, hfinal, ?_⟩
      rw [List.count_cons]
      simp only [beq_iff_eq]
      omega

/-- A build with no steps left has ended. -/
theorem exists_outcome_of_stepsLeft (h : stage.stepsLeft = 0) :
    ∃ outcome, stage = .ended outcome := by
  cases stage with
  | ended outcome => exact ⟨outcome, rfl⟩
  | _ => exact nomatch h

end Progress

theorem Site.outcomes_eq_some_iff {site : Site} {i : Nat} {outcome : Except Failure Result} :
    site.outcomes[i]? = some (some outcome) ↔ ∃ job, site[i]? = some (job, .ended outcome) := by
  unfold Site.outcomes
  rw [List.getElem?_map, Option.map_eq_some_iff]
  constructor
  · rintro ⟨⟨job, stage⟩, hi, houtcome⟩
    cases stage with
    | ended outcome' =>
        obtain rfl := Option.some.inj houtcome
        exact ⟨job, hi⟩
    | _ => exact nomatch houtcome
  · rintro ⟨job, hi⟩
    exact ⟨_, hi, rfl⟩

/-- When all builds have ended, none has a workspace. -/
theorem Site.workspaceOf_of_hasEnded {site : Site} (h : site.hasEnded = true) (i : Nat) :
    site.workspaceOf i = none := by
  unfold Site.workspaceOf
  cases hi : site[i]? with
  | none => rfl
  | some build =>
      obtain ⟨job, stage⟩ := build
      have hended : stage.outcome?.isSome = true :=
        List.all_eq_true.mp h _ (List.mem_map_of_mem (List.mem_of_getElem? hi))
      cases stage with
      | ended outcome => rfl
      | _ => exact nomatch hended

namespace Ground

variable {G : Ground} {programs : Programs} {jobs : List Job} {site : Site} {m : Machine}

/-- What builds that share a root have come to when a schedule is over. -/
structure Separate (G : Ground) (programs : Programs) (jobs : List Job) (schedule : List Nat)
    (site : Site) (m : Machine) : Prop where
  /-- There is one outcome for each job. -/
  complete : site.outcomes.length = jobs.length
  /-- No two builds have the same workspace. -/
  apart : ∀ i j ws, site.workspaceOf i = some ws → site.workspaceOf j = some ws → i = j
  /-- An outcome is the one that the job in its place has alone, under some
      name for its workspace, unless no name was left. -/
  alone : ∀ (i : Nat) (job : Job) (outcome : Except Failure Result), jobs[i]? = some job →
    site.outcomes[i]? = some (some outcome) →
    (∃ n after, (run programs job).perform (G.alone n) = (outcome, after)) ∨ IsNameless outcome
  /-- A build that was given its steps has an outcome. -/
  ended : ∀ i < jobs.length, stepCount ≤ schedule.count i →
    ∃ outcome, site.outcomes[i]? = some (some outcome)
  /-- When all builds have ended all is as before, or the root was missing
      and has been made. -/
  restored : site.hasEnded = true →
    (∀ l, m.files.entry? l = G.machine.files.entry? l)
      ∨ G.machine.files.isDirectory G.machine.here G.root.toText = false
        ∧ ∀ l, m.files.entry? l = G.rooted.entry? l

/-- Builds that have not begun stand where they should. -/
theorem holds_begun (G : Ground) (programs : Programs) (jobs : List Job) :
    G.Holds programs jobs (Site.ofJobs jobs) G.machine := by
  have hnone : ∀ i, (Site.ofJobs jobs).workspaceOf i = none := by
    intro i
    unfold Site.workspaceOf Site.ofJobs
    rw [List.getElem?_map]
    cases jobs[i]? <;> rfl
  refine ⟨?_, rfl, fun i job stage hi => ?_, fun i j ws hi _ => ?_, .inl ⟨rfl, hnone⟩⟩
  · unfold Site.ofJobs
    rw [List.map_map]
    exact List.map_id' jobs
  · unfold Site.ofJobs at hi
    rw [List.getElem?_map] at hi
    obtain ⟨_, -, hbegun⟩ := Option.map_eq_some_iff.mp hi
    obtain ⟨rfl, rfl⟩ := Prod.mk.inj hbegun
    exact .begun
  · exact nomatch (hnone i).symm.trans hi

theorem Holds.complete (h : G.Holds programs jobs site m) :
    site.outcomes.length = jobs.length := by
  unfold Site.outcomes
  rw [List.length_map, ← h.ordered, List.length_map]

theorem Holds.alone (h : G.Holds programs jobs site m)
    (hsuits : ∀ job ∈ jobs, G.Suits programs job) {i : Nat} {job : Job}
    {outcome : Except Failure Result} (hjob : jobs[i]? = some job)
    (houtcome : site.outcomes[i]? = some (some outcome)) :
    (∃ n after, (run programs job).perform (G.alone n) = (outcome, after))
      ∨ IsNameless outcome := by
  obtain ⟨other, hi⟩ := Site.outcomes_eq_some_iff.mp houtcome
  have hsame : jobs[i]? = some other := by
    rw [← h.ordered, List.getElem?_map, hi]
    rfl
  obtain rfl := Option.some.inj (hjob.symm.trans hsame)
  cases h.stands i job _ hi with
  | working _ hfits _ _ _ => exact nomatch hfits
  | ended hended =>
      rcases hended with ⟨n, after, k, hsteps⟩ | hnameless
      · have hpatient := (hsuits job (List.mem_of_getElem? hjob)).patient
        exact .inl ⟨n, after, run_of_steps hpatient hsteps⟩
      · exact .inr hnameless

theorem Holds.restored (h : G.Holds programs jobs site m) (hended : site.hasEnded = true) :
    (∀ l, m.files.entry? l = G.machine.files.entry? l)
      ∨ G.machine.files.isDirectory G.machine.here G.root.toText = false
        ∧ ∀ l, m.files.entry? l = G.rooted.entry? l := by
  rcases h.files with ⟨hmissing, -⟩ | hbeside
  · exact .inl fun l => by rw [hmissing]
  · have hrooted : ∀ l, m.files.entry? l = G.rooted.entry? l := fun l =>
      hbeside l fun i n hws => nomatch (Site.workspaceOf_of_hasEnded hended i).symm.trans hws
    cases hthere : G.machine.files.isDirectory G.machine.here G.root.toText with
    | true => exact .inl (rooted_eq hthere ▸ hrooted)
    | false => exact .inr ⟨rfl, hrooted⟩

/-- **Builds that share a root do not interfere**: whatever the schedule,
    each of them has its own workspace and the outcome that it has alone,
    and in the end nothing is left of them. -/
theorem follow_separate (hsuits : ∀ job ∈ jobs, G.Suits programs job) (schedule : List Nat) :
    ∃ site after, ((Site.ofJobs jobs).follow programs schedule).Gives G.machine site after
      ∧ G.Separate programs jobs schedule site after := by
  obtain ⟨site, after, hfollow, hholds⟩ := (G.holds_begun programs jobs).follow hsuits schedule
  refine ⟨site, after, hfollow, hholds.complete, hholds.apart,
    fun i job outcome => hholds.alone hsuits, fun i hi hcount => ?_, hholds.restored⟩
  have hbegun : (Site.ofJobs jobs)[i]? = some (jobs[i], .begun) := by
    unfold Site.ofJobs
    rw [List.getElem?_map, List.getElem?_eq_getElem hi]
    rfl
  obtain ⟨stage, hstage, hleft⟩ := Site.follow_stepsLeft hfollow hbegun
  have hdone : stage.stepsLeft = 0 := by
    have hall : Stage.begun.stepsLeft - schedule.count i = 0 := Nat.sub_eq_zero_of_le hcount
    exact Nat.le_zero.mp (hall ▸ hleft)
  obtain ⟨outcome, rfl⟩ := exists_outcome_of_stepsLeft hdone
  exact ⟨outcome, Site.outcomes_eq_some_iff.mpr ⟨_, hstage⟩⟩

/-! ## Builds with a given compiler -/

theorem hasQuiet_builtin : G.HasQuiet programs builtinComposer := fun maps =>
  ⟨_, fun m _ => ⟨m.clock, m.log, perform_ofExcept Failure.ofFault (SourceMap.compose maps) m⟩⟩

/-- A build with a given compiler suits the root it is given, if the
    compiler works inside its workspace. -/
theorem suits_of_fixed {job : Job} {compiler : Path} (hpatient : job.deadline = none)
    (htools : job.toolchain = some (.fixed compiler)) (hroot : job.root = some G.root)
    (hconfined : G.Confines programs job compiler) : G.Suits programs job where
  patient := hpatient
  rooted := fun m _ => by rw [hroot]; rfl
  equips := by
    refine ⟨.ok (builtinComposer, compiler), fun m _ => ⟨m.clock, m.log, ?_⟩,
      fun composer compiler' htold => ?_⟩
    · unfold equip Job.tools
      rw [htools]
      rfl
    · obtain ⟨rfl, rfl⟩ := Prod.mk.inj (Except.ok.inj htold)
      exact ⟨hasQuiet_builtin, hconfined⟩

/-- The text of the path of a file in a workspace. -/
theorem toText_file (n : Nat) {file : Text} (hfile : IsFileName file) :
    ((G.workspaceAt n).path.child file).toText
      = (G.workspaceAt n).path.toText ++ [slash] ++ file := by
  rw [Path.child_eq hfile.component]
  exact Path.toText_concat (parts_workspaceAt_ne_nil n) file

/-- The text of the path of the map is that of the bytecode and more. -/
theorem toText_bytecodeMap (n : Nat) :
    (G.workspaceAt n).bytecode.toText ++ Text.ofString ".map"
      = ((G.workspaceAt n).path.child bytecodeMapName).toText := by
  have hname : bytecodeName ++ Text.ofString ".map" = bytecodeMapName := by decide
  rw [toText_file n isFileName_bytecodeMap, ← hname, ← List.append_assoc]
  exact congrArg (fun t => t ++ Text.ofString ".map") (toText_file n isFileName_bytecode)

/-- The map that the terse compiler writes. -/
def terseMap : Bytes := Text.bytes "\x7b\x22version\x22:3,\x22mappings\x22:\x22\x22\x7d"

section Terse

variable {fs files written : FileSystem} {here : Location} {job : Job} {compiler : Path} {n : Nat}
  {e : SystemError}

theorem terseCompiler_of_error
    (h : fs.writeFile here (G.workspaceAt n).bytecode.toText [0xC6] = .error e) :
    terseCompiler fs here (compilerCall job compiler (G.workspaceAt n) m)
      = (fs, here, .ended 1 [] [] 5) := by
  unfold terseCompiler compilerCall compilerCommand compilerArguments
  dsimp only [List.cons_append]
  rw [h]
  rfl

theorem terseCompiler_of_map_error
    (h : fs.writeFile here (G.workspaceAt n).bytecode.toText [0xC6] = .ok files)
    (hmap : files.writeFile here ((G.workspaceAt n).path.child bytecodeMapName).toText terseMap
      = .error e) :
    terseCompiler fs here (compilerCall job compiler (G.workspaceAt n) m)
      = (fs, here, .ended 1 [] [] 5) := by
  unfold terseMap at hmap
  unfold terseCompiler compilerCall compilerCommand compilerArguments
  dsimp only [List.cons_append]
  rw [h]
  dsimp only [bind, Except.bind]
  rw [toText_bytecodeMap, hmap]

theorem terseCompiler_of_ok
    (h : fs.writeFile here (G.workspaceAt n).bytecode.toText [0xC6] = .ok files)
    (hmap : files.writeFile here ((G.workspaceAt n).path.child bytecodeMapName).toText terseMap
      = .ok written) :
    terseCompiler fs here (compilerCall job compiler (G.workspaceAt n) m)
      = (written, here, .ended 0 [] [] 5) := by
  unfold terseMap at hmap
  unfold terseCompiler compilerCall compilerCommand compilerArguments
  dsimp only [List.cons_append]
  rw [h]
  dsimp only [bind, Except.bind]
  rw [toText_bytecodeMap, hmap]

end Terse

/-- **A compiler that writes two files works inside its workspace.** -/
theorem confines_terse (G : Ground) (job : Job) (compiler : Path) :
    G.Confines terseCompiler job compiler := by
  intro n c htakes hinputs
  have hfree : c [bytecodeName] = none :=
    hinputs.free _ (by decide) (by decide) (by decide)
  have hfreeMap : ∀ e, Function.update c [bytecodeName] e [bytecodeMapName] = none := fun e => by
    rw [Function.update_of_ne (by decide)]
    exact hinputs.free _ (by decide) (by decide) (by decide)
  have hdirectory : ∀ e, Function.update c [bytecodeName] e [] = some .directory := fun e => by
    rw [Function.update_of_ne (by decide), hinputs.directory]
  by_cases hlong : byteCount ((G.workspaceAt n).path.child bytecodeName).toText > pathLimit
  · refine ⟨.ended 1 [] [] 5, c, hinputs.directory, fun _ _ _ h => (nomatch h),
      fun m hm hc => ⟨m.files, ?_, fun _ _ => rfl, hc⟩⟩
    rw [hm.here]
    exact terseCompiler_of_error (writeFile_of_long htakes isFileName_bytecode hlong hm.keeps
      (entry?_lot hc hinputs.directory) [0xC6])
  have hwrites := fun (m : Machine) (hm : G.Carries m) (hc : m.files.contents (G.lot n) = c) =>
    exists_written htakes isFileName_bytecode (not_lt.mp hlong) hm.keeps hc hinputs.directory hfree
      [0xC6]
  by_cases hlongMap : byteCount ((G.workspaceAt n).path.child bytecodeMapName).toText > pathLimit
  · refine ⟨.ended 1 [] [] 5, c, hinputs.directory, fun _ _ _ h => (nomatch h),
      fun m hm hc => ⟨m.files, ?_, fun _ _ => rfl, hc⟩⟩
    obtain ⟨files, hfiles, hbeside, hleft⟩ := hwrites m hm hc
    rw [hm.here]
    exact terseCompiler_of_map_error hfiles (writeFile_of_long htakes isFileName_bytecodeMap
      hlongMap (hm.keeps.of_same htakes hbeside) (entry?_lot hleft (hdirectory _)) terseMap)
  · refine ⟨.ended 0 [] [] 5, Function.update (Function.update c [bytecodeName]
        (some (.file [0xC6] false))) [bytecodeMapName] (some (.file terseMap false)), ?_,
      fun _ _ _ _ => readable_of_not_link htakes ?_ ?_ ?_, fun m hm hc => ?_⟩
    · rw [Function.update_of_ne (by decide), hdirectory]
    · rw [Function.update_of_ne (by decide), hdirectory]
    · intro target
      rw [Function.update_of_ne (by decide), Function.update_self]
      exact fun h => nomatch h
    · intro target
      rw [Function.update_self]
      exact fun h => nomatch h
    · obtain ⟨files, hfiles, hbeside, hleft⟩ := hwrites m hm hc
      obtain ⟨written, hwritten, hbesideMap, hleftMap⟩ :=
        exists_written htakes isFileName_bytecodeMap (not_lt.mp hlongMap)
          (hm.keeps.of_same htakes hbeside) hleft (hdirectory _) (hfreeMap _) terseMap
      refine ⟨written, ?_, fun l hl => (hbesideMap l hl).trans (hbeside l hl), hleftMap⟩
      rw [hm.here]
      exact terseCompiler_of_ok hfiles hwritten

theorem follow_separate_home :
    ∃ G : Ground, G.machine = homeMachine ∧ G.root = Path.ofString "/home/ws"
      ∧ (∀ job ∈ List.replicate 2 (jobWith "/home/bin/hermesc" "/home/ws"),
        G.Suits terseCompiler job)
      ∧ ∃ site after,
        ((Site.ofJobs (List.replicate 2 (jobWith "/home/bin/hermesc" "/home/ws"))).follow
          terseCompiler (inTurn 2)).Gives G.machine site after
        ∧ G.Separate terseCompiler (List.replicate 2 (jobWith "/home/bin/hermesc" "/home/ws"))
          (inTurn 2) site after := by
  have hnormal : (Path.ofString "/home/ws").IsNormal := Path.isNormal_ofText _
  obtain ⟨G, hmachine, hroot⟩ :=
    exists_ground ScopeTask.homeMachine_isSound hnormal (by decide) (Prod.ext rfl (by cbv))
  have hsuits : ∀ job ∈ List.replicate 2 (jobWith "/home/bin/hermesc" "/home/ws"),
      G.Suits terseCompiler job := by
    intro job hjob
    obtain rfl := List.eq_of_mem_replicate hjob
    exact suits_of_fixed rfl rfl (congrArg some hroot.symm) (confines_terse G _ _)
  exact ⟨G, hmachine, hroot, hsuits, follow_separate hsuits (inTurn 2)⟩

end Ground

/-! ## Tools behind the root -/

/-- Settings that name a compiler by a path through a directory that is
    missing on the machine with a home. -/
def detour : Settings where
  compiler := some (Path.ofString "/home/ws/../bin/hermesc")
  composer := .builtin
  workspaceRoot := none
  node := none
  logLevel := "WARNING"

/-- A build with these settings. -/
def detourJob : Job :=
  { jobWith "/home/bin/hermesc" "/home/ws" with toolchain := some (.project detour) }

/-- **A root that another build makes leads to the compiler**: after it has
    been made a build succeeds that cannot find its compiler alone. -/
theorem tools_found_through_root :
    (((Site.ofJobs [jobWith "/home/bin/hermesc" "/home/ws", detourJob]).follow terseCompiler
        [0, 0, 1, 1, 1, 1, 1, 1, 1]).perform homeMachine).1.map Site.outcomes
      = .ok [none, some (.ok terseResult)]
    ∧ ∀ n, ((run terseCompiler detourJob).perform { homeMachine with tickets := n }).1
      = .error (.build (.missingDependency "/home/ws/../bin/hermesc" engineModule
        (some "HBC_HERMESC points at /home/ws/../bin/hermesc, which does not exist."))) := by
  constructor
  · cbv
  · intro n
    cbv

end HermesBundle.Build
