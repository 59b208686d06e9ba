import HermesBundle.Build.Pipeline
import HermesBundle.Proofs.Build.Workspaces

/-! # Compilations — what a run of the compiler comes to

    The compiler is some program: it makes of the files what it likes, and
    ends how it likes.  A compilation succeeds if it ends with status 0,
    whatever it wrote and wherever; else it fails, and says how
    (`compile_iff`).  What the files are afterwards is the compiler's
    doing in either case. -/

namespace HermesBundle

/-- The machine after a program has run for some time: the files it left,
    and the current directory among them. -/
def Machine.afterRun (m : Machine) (files : FileSystem) (here : Location) (time : Nat) : Machine :=
  { m with files := files, here := files.settle here, clock := m.clock + time }

namespace Build

open HermesBundle.Action FileSystem

/-- Names that are all usable pass the check. -/
theorem checkNames_gives {names : List Text} (h : ∀ name ∈ names, isUsable name = true)
    (m : Machine) :
    (forIn names ⟨⟩ fun name _ => do
      checkName name
      pure (ForInStep.yield ⟨⟩) : Action PUnit).Gives m ⟨⟩ m := by
  induction names with
  | nil => rfl
  | cons name rest ih =>
      have hfirst := checkName_gives_iff.mpr ⟨h name (List.mem_cons_self ..), Eq.refl m⟩
      rw [List.forIn_cons]
      exact gives_bind.mpr ⟨_, m, gives_bind.mpr ⟨(), m, hfirst, rfl⟩,
        ih fun x hx => h x (List.mem_cons_of_mem _ hx)⟩

/-- How long a program ran that was not given a time. -/
def Conclusion.time : Conclusion → Nat
  | .ended _ _ _ time => time
  | _ => 0

/-- A program whose names are usable is run once, on the files as they
    are. -/
theorem runProgram_gives {programs : Programs} {argv : List Text} {directory : Option Text}
    {input : Bytes} {m : Machine} {files : FileSystem} {here : Location} {conclusion : Conclusion}
    (husable : ∀ name ∈ argv ++ directory.toList, isUsable name = true)
    (hrun : programs m.files m.here ⟨argv, directory, m.environment, input, none⟩
      = (files, here, conclusion)) :
    (runProgram programs argv directory input none).Gives m conclusion
      (m.afterRun files here conclusion.time) := by
  unfold runProgram Gives
  rw [perform_bind_of_gives (checkNames_gives husable m), perform_bind, perform_get]
  simp only [hrun, perform_bind, perform_set, perform_settle]
  cases conclusion <;> rfl

/-- A program that cannot be named is not run. -/
theorem runProgram_failsWith {programs : Programs} {program : Text} {arguments : List Text}
    {directory : Option Text} {input : Bytes} {allowed : Option Nat} {m : Machine} {f : Failure}
    (h : (checkName program).FailsWith m f m) :
    (runProgram programs (program :: arguments) directory input allowed).FailsWith m f m := by
  refine failsWith_bind.mpr (.inl ?_)
  rw [List.cons_append, List.forIn_cons]
  exact failsWith_bind.mpr (.inl (failsWith_bind.mpr (.inl h)))

section Compiler

variable (programs : Programs) (job : Job) (compiler : Path) (ws : Workspace) (m : Machine)

/-- The machine a compilation begins on: that it begins is logged. -/
def announced : Machine :=
  m.noting .info pipelineOrigin
    (Text.ofString "compiling " ++ ws.bundle.toText ++ Text.ofString " (optimize="
      ++ Text.ofString (if job.request.optimize then "True" else "False") ++ Text.ofString ")")

/-- What the compiler is asked to do: to run in the workspace, on the
    staged bundle, without a limit. -/
def compilerCall : Invocation :=
  ⟨compilerCommand compiler ws job.request.optimize, some ws.path.toText, m.environment, [], none⟩

/-- Whether the compiler can be named and, asked to run, leaves some files
    and comes to some conclusion. -/
def Concludes (files : FileSystem) (here : Location) (conclusion : Conclusion) : Prop :=
  isUsable compiler.toText = true
    ∧ programs m.files m.here (compilerCall job compiler ws m) = (files, here, conclusion)

/-- How a compilation goes: its outcome and the machine afterwards. -/
inductive Compiled : Except Failure Unit → Machine → Prop where
  /-- The path of the compiler cannot be handed to the system. -/
  | unnamed {f : Failure} :
      isUsable compiler.toText = false →
      (checkName compiler.toText).FailsWith (announced job ws m) f (announced job ws m) →
      Compiled (.error f) (announced job ws m)
  /-- The compiler cannot be started. -/
  | notStarted {files : FileSystem} {here : Location} {errno : Errno} :
      Concludes programs job compiler ws m files here (.notStarted errno) →
      Compiled
        (.error (.build (.compilerNotStarted compiler.toText (.about errno compiler.toText))))
        ((announced job ws m).afterRun files here 0)
  /-- The workspace cannot be entered. -/
  | notEntered {files : FileSystem} {here : Location} {errno : Errno} :
      Concludes programs job compiler ws m files here (.notEntered errno) →
      Compiled
        (.error (.build (.compilerNotStarted compiler.toText (.about errno ws.path.toText))))
        ((announced job ws m).afterRun files here 0)
  /-- It is killed. -/
  | killed {files : FileSystem} {here : Location} :
      Concludes programs job compiler ws m files here .killed →
      Compiled (.error .timedOut) ((announced job ws m).afterRun files here 0)
  /-- It ends with a status that is not 0, or by a signal. -/
  | failed {files : FileSystem} {here : Location} {status : Int} {out err : Bytes} {time : Nat} :
      Concludes programs job compiler ws m files here (.ended status out err time) → status ≠ 0 →
      Compiled
        (.error (.build (.compilerFailed (compilerCommand compiler ws job.request.optimize)
          (some status) (Utf8.decodeReplacing out) (Utf8.decodeReplacing err))))
        ((announced job ws m).afterRun files here time)
  /-- It ends with status 0. -/
  | succeeded {files : FileSystem} {here : Location} {out err : Bytes} {time : Nat} :
      Concludes programs job compiler ws m files here (.ended 0 out err time) →
      Compiled (.ok ()) ((announced job ws m).afterRun files here time)

/-- Every compilation goes in some way. -/
theorem exists_compiled : ∃ outcome after, Compiled programs job compiler ws m outcome after := by
  cases husable : isUsable compiler.toText with
  | false =>
      obtain ⟨f, hf⟩ := exists_checkName_failsWith husable
      exact ⟨_, _, .unnamed husable (hf _)⟩
  | true =>
      obtain ⟨files, here, conclusion, hrun⟩ : ∃ files here conclusion,
          Concludes programs job compiler ws m files here conclusion := ⟨_, _, _, husable, rfl⟩
      cases conclusion with
      | notStarted errno => exact ⟨_, _, .notStarted hrun⟩
      | notEntered errno => exact ⟨_, _, .notEntered hrun⟩
      | killed => exact ⟨_, _, .killed hrun⟩
      | ended status out err time =>
          by_cases hstatus : status = 0
          · subst hstatus
            exact ⟨_, _, .succeeded hrun⟩
          · exact ⟨_, _, .failed hrun hstatus⟩

end Compiler

variable {programs : Programs} {job : Job} {compiler : Path} {ws : Workspace} {m : Machine}

/-- The paths of a workspace that a command line names are usable. -/
theorem isUsable_compilerCommand (hws : isUsable ws.path.toText = true)
    (hcompiler : isUsable compiler.toText = true) (optimize : Bool) :
    ∀ name ∈ compilerCommand compiler ws optimize ++ (some ws.path.toText).toList,
      isUsable name = true := by
  have hbytecode : isUsable ws.bytecode.toText = true := Workspace.isUsable_childNamed hws rfl
  have hbundle : isUsable ws.bundle.toText = true := Workspace.isUsable_childNamed hws rfl
  unfold compilerCommand compilerArguments
  intro name hname
  cases optimize <;>
    simp only [List.cons_append, List.nil_append, List.mem_cons, List.not_mem_nil, or_false,
      Option.toList_some, if_true, Bool.false_eq_true, if_false] at hname
  · rcases hname with rfl | rfl | rfl | rfl | rfl | rfl | rfl
    all_goals first | assumption | rfl
  · rcases hname with rfl | rfl | rfl | rfl | rfl | rfl | rfl | rfl
    all_goals first | assumption | rfl

/-- A compilation that comes to a conclusion is what the conclusion
    means. -/
theorem compileWithin_of_concludes (hws : isUsable ws.path.toText = true) {files : FileSystem}
    {here : Location} {conclusion : Conclusion}
    (h : Concludes programs job compiler ws m files here conclusion) :
    (compileWithin programs job compiler ws none).perform m
      = (compilerOutcome (compilerCommand compiler ws job.request.optimize) (some ws.path.toText)
          conclusion,
        (announced job ws m).afterRun files here conclusion.time) := by
  obtain ⟨hcompiler, hrun⟩ := h
  have hgives : (runProgram programs (compilerCommand compiler ws job.request.optimize)
      (some ws.path.toText) [] none).Gives (announced job ws m) conclusion
        ((announced job ws m).afterRun files here conclusion.time) :=
    runProgram_gives (isUsable_compilerCommand hws hcompiler _) hrun
  exact (perform_bind_of_gives (perform_record ..) _).trans
    ((perform_bind_of_gives hgives _).trans (perform_ofExcept_id _ _))

/-- A run of the compiler is a success if it ends with status 0, and in no
    other case. -/
theorem compilerOutcome_eq_ok {argv : List Text} {directory : Option Text}
    {conclusion : Conclusion} (h : compilerOutcome argv directory conclusion = .ok ()) :
    ∃ out err time, conclusion = .ended 0 out err time := by
  cases conclusion with
  | ended status out err time =>
      by_cases hstatus : status = 0
      · exact ⟨out, err, time, by rw [hstatus]⟩
      · rw [compilerOutcome, if_neg hstatus] at h
        exact nomatch h
  | notStarted _ => exact nomatch h
  | notEntered _ => exact nomatch h
  | killed => exact nomatch h

/-- A compilation goes as `Compiled` says, and in no other way. -/
theorem compileWithin_iff (hws : isUsable ws.path.toText = true) {outcome : Except Failure Unit}
    {after : Machine} :
    (compileWithin programs job compiler ws none).perform m = (outcome, after)
      ↔ Compiled programs job compiler ws m outcome after := by
  refine perform_iff (exists_compiled programs job compiler ws m) fun outcome after hcompiled => ?_
  cases hcompiled with
  | unnamed _ hfails =>
      exact (perform_bind_of_gives (perform_record ..) _).trans
        (perform_bind_of_failsWith (runProgram_failsWith hfails) _)
  | notStarted hrun => exact compileWithin_of_concludes hws hrun
  | notEntered hrun => exact compileWithin_of_concludes hws hrun
  | killed hrun => exact compileWithin_of_concludes hws hrun
  | failed hrun hstatus =>
      rw [compileWithin_of_concludes hws hrun, compilerOutcome, if_neg hstatus]
      rfl
  | succeeded hrun => exact compileWithin_of_concludes hws hrun

end Build

end HermesBundle
