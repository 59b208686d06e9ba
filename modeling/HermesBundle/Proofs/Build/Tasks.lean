import HermesBundle.Build.BuildTask
import HermesBundle.Proofs.Build.Course
import HermesBundle.Proofs.Build.Tools

/-! # Builds as tasks — every interleaving comes to the same

    A build that nobody cancels is a row of errands and waits.  The two
    errands at its end, reading the bytecode and composing the maps, may
    be taken up and come to their ends in any order.  That makes no
    difference if the composer leaves the files alone:

    * **what has been done** (`Stands.step`) — at every moment the build
      stands at some point of a course, and an event takes it to another
      one;
    * **what comes of it** (`Stands.scoped`) — a build that has ended went
      as `Scoped` says;
    * **that it can end** (`Stands.canEnd`) — wherever it stands, there are
      events that lead to its end. -/

namespace HermesBundle.Build

open HermesBundle.Action FileSystem

/-! ## Errands -/

namespace Errand

variable {α : Type} {x : Action α} {m after : Machine} {e next : Errand α}

/-- How far an errand that does an action on a machine has come: before it
    is done nothing has changed. -/
inductive Does (x : Action α) (m : Machine) : Errand α → Machine → Prop where
  | queued : Does x m .queued m
  | running : Does x m .running m
  | done {outcome : Except Failure α} {after : Machine} :
      x.perform m = (outcome, after) → Does x m (.done outcome) after

theorem Does.start (h : Does x m e after) (hstart : e.start? = some next) :
    Does x m next after := by
  cases h with
  | queued =>
      obtain rfl := Option.some.inj hstart
      exact .running
  | running => exact nomatch hstart
  | done _ => exact nomatch hstart

theorem Does.finish {last : Machine} (h : Does x m e after)
    (hfinish : e.finish? x after = some (next, last)) : Does x m next last := by
  cases h with
  | queued => exact nomatch hfinish
  | running =>
      obtain ⟨rfl, rfl⟩ := Prod.mk.inj (Option.some.inj hfinish)
      exact .done rfl
  | done _ => exact nomatch hfinish

/-- The outcome of an errand is that of its action. -/
theorem Does.outcome {outcome : Except Failure α} (h : Does x m e after)
    (houtcome : e.outcome? = some outcome) : x.perform m = (outcome, after) := by
  cases h with
  | queued => exact nomatch houtcome
  | running => exact nomatch houtcome
  | done hperform =>
      obtain rfl := Option.some.inj houtcome
      exact hperform

/-- An errand with an outcome is done. -/
theorem exists_done (h : e.outcome?.isSome = true) : ∃ outcome, e = .done outcome := by
  cases e with
  | done outcome => exact ⟨outcome, rfl⟩
  | queued => exact nomatch h
  | running => exact nomatch h
  | dropped => exact nomatch h

end Errand

/-! ## Where a build stands -/

/-- Whether an event belongs to a build that nobody cancels, and whose
    compiler runs to its end. -/
def BuildEvent.isPrompt : BuildEvent → Bool
  | .cancel => false
  | .reap (some _) => false
  | _ => true

/-- The scope of a workspace that its body has left with an outcome. -/
def closingScope (root : Option Path) (ws : Workspace) (outcome : Except Failure Result)
    (e : Errand Unit) (now : Machine) : ScopeTask Result where
  machine := now
  root := root
  point :=
    match outcome with
    | .ok result => .leaving result
    | .error f => .closing f
  acquisition := .done (.ok ws)
  removal := some ⟨ws, outcome.isOk, e⟩
  abandoned := false

section Standing

variable (programs : Programs) (job : Job) (composer : Composer) (compiler : Path)

/-- A build at work in its workspace. -/
def atWork (ws : Workspace) (now : Machine) (work : Work) : BuildTask :=
  ⟨programs, job, composer, compiler, ⟨now, job.root, .inside ws, .done (.ok ws), none, false⟩,
    some ⟨work, .forWork⟩⟩

/-- How far the work in a workspace has come. -/
inductive AtWork (ws : Workspace) (m : Machine) : Work → Machine → Prop where
  | staging {e : Errand Unit} {now : Machine} :
      e.Does (stageInputs ws job.request) m now →
      AtWork ws m (.staging e) now
  | compiling {now : Machine} :
      (stageInputs ws job.request).Gives m () now →
      AtWork ws m (.compiling .running) now
  | reaped {staged now : Machine} {outcome : Except Failure Unit} :
      (stageInputs ws job.request).Gives m () staged →
      Compiled programs job compiler ws staged outcome now →
      AtWork ws m (.compiling (.reaped outcome)) now
  /-- The bytecode is read as the compiler left it, whether the maps have
      been composed meanwhile or not. -/
  | collecting {reading : Errand Bytes} {composing : Errand Text} {compiled now : Machine} :
      HasCompiled programs job compiler ws m compiled →
      reading.Does (readBytecode ws.bytecode) compiled compiled →
      composing.Does (composition programs job composer ws) compiled now →
      AtWork ws m (.collecting reading composing) now

/-- Where a build stands that has begun on a machine. -/
inductive Stands (m : Machine) : BuildTask → Prop where
  | acquiring {e : Errand Workspace} {now : Machine} :
      e.Does (Workspace.acquire job.root) m now →
      Stands m ⟨programs, job, composer, compiler,
        ⟨now, job.root, .acquiring, e, none, false⟩, none⟩
  | notAcquired {f : Failure} {now : Machine} :
      (Workspace.acquire job.root).FailsWith m f now →
      Stands m ⟨programs, job, composer, compiler,
        ⟨now, job.root, .ended (.error f), .done (.error f), none, false⟩, none⟩
  | working {ws : Workspace} {acquired now : Machine} {work : Work} :
      (Workspace.acquire job.root).Gives m ws acquired →
      AtWork programs job composer compiler ws acquired work now →
      Stands m (atWork programs job composer compiler ws now work)
  | closing {ws : Workspace} {acquired worked now : Machine} {outcome : Except Failure Result}
      {work : Work} {e : Errand Unit} :
      (Workspace.acquire job.root).Gives m ws acquired →
      Worked programs job composer compiler ws acquired outcome worked →
      work.isDone = true →
      e.Does (Workspace.release ws outcome.isOk) worked now →
      Stands m ⟨programs, job, composer, compiler, closingScope job.root ws outcome e now,
        some ⟨work, .over⟩⟩
  | ended {ws : Workspace} {final : Except Failure Result} {removed : Except Failure Unit}
      {work : Work} {strict : Bool} {now : Machine} :
      Scoped programs job composer compiler m final now →
      work.isDone = true →
      Stands m ⟨programs, job, composer, compiler,
        ⟨now, job.root, .ended final, .done (.ok ws), some ⟨ws, strict, .done removed⟩, false⟩,
        some ⟨work, .over⟩⟩

end Standing

variable {programs : Programs} {job : Job} {composer : Composer} {compiler : Path} {ws : Workspace}
  {m acquired now : Machine} {t next : BuildTask} {event : BuildEvent} {work : Work}

/-! ## What is done is not done again -/

/-- Work that is done is a compilation that has been reaped, or its errands
    are done. -/
theorem Work.isDone_cases (h : work.isDone = true) :
    (∃ outcome, work = .staging (.done outcome))
      ∨ (∃ outcome, work = .compiling (.reaped outcome))
      ∨ ∃ bytecode sourceMap, work = .collecting (.done bytecode) (.done sourceMap) := by
  cases work with
  | staging e =>
      obtain ⟨outcome, rfl⟩ := Errand.exists_done h
      exact .inl ⟨outcome, rfl⟩
  | compiling child =>
      cases child with
      | reaped outcome => exact .inr (.inl ⟨outcome, rfl⟩)
      | running => exact nomatch h
      | killed => exact nomatch h
  | collecting reading composing =>
      obtain ⟨hreading, hcomposing⟩ := Bool.and_eq_true_iff.mp h
      obtain ⟨bytecode, rfl⟩ := Errand.exists_done hreading
      obtain ⟨sourceMap, rfl⟩ := Errand.exists_done hcomposing
      exact .inr (.inr ⟨bytecode, sourceMap, rfl⟩)

/-- Whether a build has no work, or work that is done. -/
def HasNoWork (t : BuildTask) : Prop := ∀ body, t.body = some body → body.work.isDone = true

theorem start_eq_none (h : HasNoWork t) {errand : ErrandName} (herrand : errand ≠ .workspace) :
    t.start errand = none := by
  cases hbody : t.body with
  | none => cases errand <;> simp_all [BuildTask.start]
  | some body =>
      obtain ⟨work, wait⟩ := body
      rcases Work.isDone_cases (h _ hbody) with ⟨_, rfl⟩ | ⟨_, rfl⟩ | ⟨_, _, rfl⟩ <;>
        cases errand <;> simp_all [BuildTask.start, Errand.start?]

theorem finish_eq_none (h : HasNoWork t) {errand : ErrandName} (herrand : errand ≠ .workspace) :
    t.finish errand = none := by
  cases hbody : t.body with
  | none => cases errand <;> simp_all [BuildTask.finish]
  | some body =>
      obtain ⟨work, wait⟩ := body
      rcases Work.isDone_cases (h _ hbody) with ⟨_, rfl⟩ | ⟨_, rfl⟩ | ⟨_, _, rfl⟩ <;>
        cases errand <;> simp_all [BuildTask.finish, Errand.finish?]

theorem reap_eq_none (h : HasNoWork t) (allowed : Option Nat) : t.reap allowed = none := by
  cases hbody : t.body with
  | none => simp [BuildTask.reap, hbody]
  | some body =>
      obtain ⟨work, wait⟩ := body
      rcases Work.isDone_cases (h _ hbody) with ⟨_, rfl⟩ | ⟨_, rfl⟩ | ⟨_, _, rfl⟩ <;>
        simp [BuildTask.reap, hbody]

/-- A build without work waits for its workspace to be made or removed. -/
theorem event_of_hasNoWork (h : HasNoWork t) (habandoned : t.scope.abandoned = false)
    (hprompt : event.isPrompt = true) (hstep : t.step event = some next) :
    event = .start .workspace ∨ event = .finish .workspace ∨ event = .resume := by
  cases event with
  | start errand =>
      by_cases herrand : errand = .workspace
      · exact .inl (congrArg _ herrand)
      · exact nomatch (start_eq_none h herrand).symm.trans hstep
  | finish errand =>
      by_cases herrand : errand = .workspace
      · exact .inr (.inl (congrArg _ herrand))
      · exact nomatch (finish_eq_none h herrand).symm.trans hstep
  | reap allowed => exact nomatch (reap_eq_none h allowed).symm.trans hstep
  | resume => exact .inr (.inr rfl)
  | cancel => exact nomatch hprompt
  | discard =>
      have hquiet : t.scope.discard = none := by
        unfold ScopeTask.discard
        rw [habandoned]
        rfl
      rw [BuildTask.step, hquiet] at hstep
      exact nomatch hstep

/-! ## An event takes a build from one point to another -/

/-- A build that acquires its workspace goes on to work in it, unless there
    is none. -/
theorem Stands.step_acquiring {e : Errand Workspace}
    (he : e.Does (Workspace.acquire job.root) m now) (hprompt : event.isPrompt = true)
    (hstep : BuildTask.step ⟨programs, job, composer, compiler,
      ⟨now, job.root, .acquiring, e, none, false⟩, none⟩ event = some next) :
    Stands programs job composer compiler m next := by
  have hidle : HasNoWork ⟨programs, job, composer, compiler,
      ⟨now, job.root, .acquiring, e, none, false⟩, none⟩ := fun _ hbody => nomatch hbody
  rcases event_of_hasNoWork hidle rfl hprompt hstep with rfl | rfl | rfl
  · obtain ⟨_, hscope, rfl⟩ := Option.map_eq_some_iff.mp hstep
    obtain ⟨_, he', rfl⟩ := Option.map_eq_some_iff.mp hscope
    exact .acquiring (he.start he')
  · obtain ⟨_, hscope, rfl⟩ := Option.map_eq_some_iff.mp hstep
    obtain ⟨_, he', rfl⟩ := Option.map_eq_some_iff.mp hscope
    exact .acquiring (he.finish he')
  · cases he with
    | queued => exact nomatch hstep
    | running => exact nomatch hstep
    | @done outcome _ hacquired =>
        cases outcome with
        | ok ws =>
            obtain rfl := Option.some.inj hstep
            exact .working hacquired (.staging .queued)
        | error f =>
            obtain rfl := Option.some.inj hstep
            exact .notAcquired hacquired

/-- A build whose workspace has been removed, or could not be, has ended as
    its scope is closed. -/
theorem scoped_of_release {worked : Machine} {outcome : Except Failure Result}
    {removed : Except Failure Unit} (hws : (Workspace.acquire job.root).Gives m ws acquired)
    (hworked : Worked programs job composer compiler ws acquired outcome worked)
    (hremoved : (Workspace.release ws outcome.isOk).perform worked = (removed, now)) :
    Scoped programs job composer compiler m (removed.bind fun _ => outcome) now := by
  refine .closed hws hworked ((Workspace.close_iff (Workspace.isUsable_of_acquire hws)).mp ?_)
  unfold Workspace.close
  cases outcome with
  | ok result =>
      cases removed with
      | ok _ => exact perform_bind_of_gives hremoved _
      | error f => exact perform_bind_of_failsWith hremoved _
  | error f =>
      cases removed with
      | ok _ => exact perform_bind_of_gives hremoved _
      | error f' => exact perform_bind_of_failsWith hremoved _

/-- A build whose workspace is being removed goes on to its end. -/
theorem Stands.step_closing {worked : Machine} {outcome : Except Failure Result} {e : Errand Unit}
    (hws : (Workspace.acquire job.root).Gives m ws acquired)
    (hworked : Worked programs job composer compiler ws acquired outcome worked)
    (hdone : work.isDone = true) (he : e.Does (Workspace.release ws outcome.isOk) worked now)
    (hprompt : event.isPrompt = true)
    (hstep : BuildTask.step ⟨programs, job, composer, compiler,
      closingScope job.root ws outcome e now, some ⟨work, .over⟩⟩ event = some next) :
    Stands programs job composer compiler m next := by
  have hidle : HasNoWork ⟨programs, job, composer, compiler,
      closingScope job.root ws outcome e now, some ⟨work, .over⟩⟩ := by
    intro body hbody
    obtain rfl := Option.some.inj hbody
    exact hdone
  rcases event_of_hasNoWork hidle rfl hprompt hstep with rfl | rfl | rfl
  · obtain ⟨_, hscope, rfl⟩ := Option.map_eq_some_iff.mp hstep
    obtain ⟨_, he', rfl⟩ := Option.map_eq_some_iff.mp hscope
    exact .closing hws hworked hdone (he.start he')
  · obtain ⟨_, hscope, rfl⟩ := Option.map_eq_some_iff.mp hstep
    obtain ⟨_, he', rfl⟩ := Option.map_eq_some_iff.mp hscope
    exact .closing hws hworked hdone (he.finish he')
  · cases he with
    | queued => cases outcome <;> exact nomatch hstep
    | running => cases outcome <;> exact nomatch hstep
    | @done removed _ hremoved =>
        have hscoped := scoped_of_release hws hworked hremoved
        cases outcome <;> cases removed <;> obtain rfl := Option.some.inj hstep <;>
          exact .ended hscoped hdone

/-- The bytecode is read the same before and after the composition. -/
theorem does_reading (hcomposer : ∀ maps, LeavesFiles (composer programs maps))
    (husable : isUsable ws.path.toText = true) {compiled after : Machine} {reading e : Errand Bytes}
    {composing : Errand Text}
    (hreading : reading.Does (readBytecode ws.bytecode) compiled compiled)
    (hcomposing : composing.Does (composition programs job composer ws) compiled now)
    (hfinish : reading.finish? (readBytecode ws.bytecode) now = some (e, after)) :
    e.Does (readBytecode ws.bytecode) compiled compiled ∧ after = now := by
  have hfiles : now.files = compiled.files ∧ now.here = compiled.here := by
    cases hcomposing with
    | queued => exact ⟨rfl, rfl⟩
    | running => exact ⟨rfl, rfl⟩
    | done hperform =>
        have hleaves :=
          composedMap_leavesFiles hcomposer job.request.sourceMap ws.bytecodeMap compiled
        unfold composition at hperform
        rw [hperform] at hleaves
        exact hleaves
  cases hreading with
  | queued => exact nomatch hfinish
  | running =>
      unfold Errand.finish? at hfinish
      rw [readBytecode_perform husable, hfiles.1, hfiles.2] at hfinish
      obtain ⟨rfl, rfl⟩ := Prod.mk.inj (Option.some.inj hfinish)
      exact ⟨.done (readBytecode_perform husable compiled), rfl⟩
  | done _ => exact nomatch hfinish

/-- What is read and what is composed make the outcome of the work. -/
theorem worked_of_collected (husable : isUsable ws.path.toText = true) {compiled : Machine}
    {bytecode : Except Failure Bytes} {sourceMap : Except Failure Text}
    (hready : HasCompiled programs job compiler ws m compiled)
    (hread : (readBytecode ws.bytecode).perform compiled = (bytecode, compiled))
    (hcomposed : (composition programs job composer ws).perform compiled = (sourceMap, now)) :
    Worked programs job composer compiler ws m (joinResults bytecode sourceMap) now := by
  rw [readBytecode_perform husable] at hread
  obtain ⟨rfl, -⟩ := Prod.mk.inj hread
  cases hfile : compiled.files.readFile compiled.here ws.bytecode.toText with
  | error e => exact .notRead hready hfile hcomposed
  | ok bytes =>
      cases sourceMap with
      | error f => exact .notComposed hready hfile hcomposed
      | ok text =>
          obtain ⟨maps, read, composed, hmaps, hmade, htext⟩ := composition_gives.mp hcomposed
          exact .done hready hfile hmaps hmade htext

/-- A build that leaves its workspace goes on to remove it. -/
theorem Stands.of_leave {outcome : Except Failure Result}
    (hws : (Workspace.acquire job.root).Gives m ws acquired)
    (hworked : Worked programs job composer compiler ws acquired outcome now)
    (hdone : work.isDone = true)
    (hleave : (atWork programs job composer compiler ws now work).leave ⟨work, .forWork⟩ outcome
      = some next) :
    Stands programs job composer compiler m next := by
  have hclosing : Stands programs job composer compiler m ⟨programs, job, composer, compiler,
      closingScope job.root ws outcome .queued now, some ⟨work, .over⟩⟩ :=
    .closing hws hworked hdone .queued
  cases outcome <;>
  · obtain rfl := Option.some.inj hleave
    exact hclosing

theorem Stands.step_staging {e : Errand Unit}
    (hws : (Workspace.acquire job.root).Gives m ws acquired)
    (he : e.Does (stageInputs ws job.request) acquired now) (hprompt : event.isPrompt = true)
    (hstep : (atWork programs job composer compiler ws now (.staging e)).step event = some next) :
    Stands programs job composer compiler m next := by
  cases event with
  | start errand =>
      cases errand with
      | staging =>
          obtain ⟨e', he', rfl⟩ := Option.map_eq_some_iff.mp hstep
          exact .working hws (.staging (he.start he'))
      | _ => exact nomatch hstep
  | finish errand =>
      cases errand with
      | staging =>
          obtain ⟨⟨e', after⟩, he', hnext⟩ := Option.bind_eq_some_iff.mp hstep
          obtain rfl := Option.some.inj hnext
          exact .working hws (.staging (he.finish he'))
      | _ => exact nomatch hstep
  | resume =>
      cases he with
      | queued => exact nomatch hstep
      | running => exact nomatch hstep
      | @done outcome _ hstaged =>
          cases outcome with
          | ok _ =>
              obtain rfl := Option.some.inj hstep
              exact .working hws (.compiling hstaged)
          | error f => exact .of_leave hws (.notStaged hstaged) rfl hstep
  | reap allowed => exact nomatch hstep
  | cancel => exact nomatch hprompt
  | discard => exact nomatch hstep

theorem Stands.step_compiling (hws : (Workspace.acquire job.root).Gives m ws acquired)
    (hstaged : (stageInputs ws job.request).Gives acquired () now) (hprompt : event.isPrompt = true)
    (hstep : (atWork programs job composer compiler ws now (.compiling .running)).step event
      = some next) : Stands programs job composer compiler m next := by
  have husable := Workspace.isUsable_of_acquire hws
  cases event with
  | start errand => cases errand <;> exact nomatch hstep
  | finish errand => cases errand <;> exact nomatch hstep
  | reap allowed =>
      cases allowed with
      | none =>
          obtain rfl := Option.some.inj hstep
          exact .working hws (.reaped hstaged ((compileWithin_iff husable).mp rfl))
      | some _ => exact nomatch hprompt
  | resume => exact nomatch hstep
  | cancel => exact nomatch hprompt
  | discard => exact nomatch hstep

theorem Stands.step_reaped {staged : Machine} {outcome : Except Failure Unit}
    (hws : (Workspace.acquire job.root).Gives m ws acquired)
    (hstaged : (stageInputs ws job.request).Gives acquired () staged)
    (hcompiled : Compiled programs job compiler ws staged outcome now)
    (hprompt : event.isPrompt = true)
    (hstep : (atWork programs job composer compiler ws now
      (.compiling (.reaped outcome))).step event = some next) :
    Stands programs job composer compiler m next := by
  cases event with
  | start errand => cases errand <;> exact nomatch hstep
  | finish errand => cases errand <;> exact nomatch hstep
  | resume =>
      cases outcome with
      | ok _ =>
          obtain rfl := Option.some.inj hstep
          exact .working hws (.collecting ⟨_, hstaged, hcompiled⟩ .queued .queued)
      | error f => exact .of_leave hws (.notCompiled hstaged hcompiled) rfl hstep
  | reap allowed => exact nomatch hstep
  | cancel => exact nomatch hprompt
  | discard => exact nomatch hstep

/-- The two errands of a build that collects its outputs are taken up and
    done in any order. -/
theorem Stands.step_collecting (hcomposer : ∀ maps, LeavesFiles (composer programs maps))
    {reading : Errand Bytes} {composing : Errand Text} {compiled : Machine}
    (hws : (Workspace.acquire job.root).Gives m ws acquired)
    (hready : HasCompiled programs job compiler ws acquired compiled)
    (hreading : reading.Does (readBytecode ws.bytecode) compiled compiled)
    (hcomposing : composing.Does (composition programs job composer ws) compiled now)
    (hprompt : event.isPrompt = true)
    (hstep : (atWork programs job composer compiler ws now
      (.collecting reading composing)).step event = some next) :
    Stands programs job composer compiler m next := by
  have husable := Workspace.isUsable_of_acquire hws
  cases event with
  | start errand =>
      cases errand with
      | reading =>
          obtain ⟨e', he', rfl⟩ := Option.map_eq_some_iff.mp hstep
          exact .working hws (.collecting hready (hreading.start he') hcomposing)
      | composing =>
          obtain ⟨e', he', rfl⟩ := Option.map_eq_some_iff.mp hstep
          exact .working hws (.collecting hready hreading (hcomposing.start he'))
      | _ => exact nomatch hstep
  | finish errand =>
      cases errand with
      | reading =>
          obtain ⟨⟨e', after⟩, he', hnext⟩ := Option.bind_eq_some_iff.mp hstep
          obtain rfl := Option.some.inj hnext
          obtain ⟨hread, rfl⟩ := does_reading hcomposer husable hreading hcomposing he'
          exact .working hws (.collecting hready hread hcomposing)
      | composing =>
          obtain ⟨⟨e', after⟩, he', hnext⟩ := Option.bind_eq_some_iff.mp hstep
          obtain rfl := Option.some.inj hnext
          exact .working hws (.collecting hready hreading (hcomposing.finish he'))
      | _ => exact nomatch hstep
  | resume =>
      obtain ⟨bytecode, hbytecode, hstep⟩ := Option.bind_eq_some_iff.mp hstep
      obtain ⟨sourceMap, hsourceMap, hstep⟩ := Option.bind_eq_some_iff.mp hstep
      have hworked := worked_of_collected husable hready (hreading.outcome hbytecode)
        (hcomposing.outcome hsourceMap)
      refine .of_leave hws hworked ?_ hstep
      rw [Work.isDone, hbytecode, hsourceMap]
      rfl
  | reap allowed => exact nomatch hstep
  | cancel => exact nomatch hprompt
  | discard => exact nomatch hstep

/-- A build at work goes on with its work, or leaves its workspace. -/
theorem Stands.step_working (hcomposer : ∀ maps, LeavesFiles (composer programs maps))
    (hws : (Workspace.acquire job.root).Gives m ws acquired)
    (hwork : AtWork programs job composer compiler ws acquired work now)
    (hprompt : event.isPrompt = true)
    (hstep : (atWork programs job composer compiler ws now work).step event = some next) :
    Stands programs job composer compiler m next := by
  cases hwork with
  | staging he => exact step_staging hws he hprompt hstep
  | compiling hstaged => exact step_compiling hws hstaged hprompt hstep
  | reaped hstaged hcompiled => exact step_reaped hws hstaged hcompiled hprompt hstep
  | collecting hready hreading hcomposing =>
      exact step_collecting hcomposer hws hready hreading hcomposing hprompt hstep

/-- **An event takes a build from one point of a course to another.** -/
theorem Stands.step (hcomposer : ∀ maps, LeavesFiles (composer programs maps))
    (h : Stands programs job composer compiler m t) (hprompt : event.isPrompt = true)
    (hstep : t.step event = some next) : Stands programs job composer compiler m next := by
  cases h with
  | acquiring he => exact step_acquiring he hprompt hstep
  | @notAcquired f now _ =>
      have hidle : HasNoWork ⟨programs, job, composer, compiler,
          ⟨now, job.root, .ended (.error f), .done (.error f), none, false⟩, none⟩ :=
        fun _ hbody => nomatch hbody
      rcases event_of_hasNoWork hidle rfl hprompt hstep with rfl | rfl | rfl <;> exact nomatch hstep
  | working hws hwork => exact step_working hcomposer hws hwork hprompt hstep
  | closing hws hworked hdone he => exact step_closing hws hworked hdone he hprompt hstep
  | @ended ws final removed work strict now _ hdone =>
      have hidle : HasNoWork ⟨programs, job, composer, compiler,
          ⟨now, job.root, .ended final, .done (.ok ws), some ⟨ws, strict, .done removed⟩, false⟩,
          some ⟨work, .over⟩⟩ := by
        intro body hbody
        obtain rfl := Option.some.inj hbody
        exact hdone
      rcases event_of_hasNoWork hidle rfl hprompt hstep with rfl | rfl | rfl <;> exact nomatch hstep

theorem Stands.steps (hcomposer : ∀ maps, LeavesFiles (composer programs maps))
    (h : Stands programs job composer compiler m t) {events : List BuildEvent}
    (hprompt : ∀ event ∈ events, event.isPrompt = true) (hsteps : t.steps events = some next) :
    Stands programs job composer compiler m next := by
  induction events generalizing t with
  | nil =>
      obtain rfl := Option.some.inj hsteps
      exact h
  | cons event rest ih =>
      obtain ⟨middle, hstep, hrest⟩ := Option.bind_eq_some_iff.mp hsteps
      obtain ⟨hfirst, hothers⟩ := List.forall_mem_cons.mp hprompt
      exact ih (h.step hcomposer hfirst hstep) hothers hrest

/-- A build that has ended went as `Scoped` says. -/
theorem Stands.scoped {outcome : Except Failure Result}
    (h : Stands programs job composer compiler m t) (houtcome : t.scope.outcome? = some outcome) :
    Scoped programs job composer compiler m outcome t.scope.machine := by
  cases h with
  | acquiring _ => exact nomatch houtcome
  | notAcquired hf =>
      obtain rfl := Option.some.inj houtcome
      exact .notAcquired hf
  | working _ _ => exact nomatch houtcome
  | @closing _ _ _ _ worked _ _ _ _ _ _ => cases worked <;> exact nomatch houtcome
  | ended hscoped _ =>
      obtain rfl := Option.some.inj houtcome
      exact hscoped

/-- Where an uncancelled build stands after some events, in whatever order
    they happen. -/
theorem stands_of_steps (hcomposer : ∀ maps, LeavesFiles (composer programs maps))
    {events : List BuildEvent} (hprompt : ∀ event ∈ events, event.isPrompt = true)
    (hsteps : (BuildTask.begin programs job composer compiler m).steps events = some t) :
    Stands programs job composer compiler m t := by
  have hbegin : Stands programs job composer compiler m
      (BuildTask.begin programs job composer compiler m) := .acquiring .queued
  exact hbegin.steps hcomposer hprompt hsteps

/-! ## A build can always go on -/

/-- Whether a build can go on, uncancelled, until it has ended. -/
def CanEnd (t : BuildTask) : Prop :=
  ∃ events last, (∀ event ∈ events, event.isPrompt = true) ∧ t.steps events = some last
    ∧ last.scope.outcome?.isSome = true

theorem CanEnd.of_step (event : BuildEvent) (hprompt : event.isPrompt = true)
    (hstep : t.step event = some next) (h : CanEnd next) : CanEnd t := by
  obtain ⟨events, last, hevents, hsteps, hended⟩ := h
  refine ⟨event :: events, last, List.forall_mem_cons.mpr ⟨hprompt, hevents⟩, ?_, hended⟩
  rw [BuildTask.steps, hstep]
  exact hsteps

theorem canEnd_of_outcome (h : t.scope.outcome?.isSome = true) : CanEnd t :=
  ⟨[], t, (fun _ hevent => nomatch hevent), rfl, h⟩

/-- A build that waits for an errand can go on to its end if it can with
    whatever the errand comes to: the errand is taken up and done. -/
theorem canEnd_of_done {α : Type} (waiting : Errand α → Machine → BuildTask) (errand : ErrandName)
    (hstart : ∀ now, (waiting .queued now).step (.start errand) = some (waiting .running now))
    (hfinish : ∀ now, ∃ outcome after,
      (waiting .running now).step (.finish errand) = some (waiting (.done outcome) after))
    (hdone : ∀ outcome now, CanEnd (waiting (.done outcome) now)) {e : Errand α} (he : e ≠ .dropped)
    (now : Machine) : CanEnd (waiting e now) := by
  have hrunning : CanEnd (waiting .running now) := by
    obtain ⟨outcome, after, hfinished⟩ := hfinish now
    exact .of_step (.finish errand) rfl hfinished (hdone outcome after)
  cases e with
  | queued => exact .of_step (.start errand) rfl (hstart now) hrunning
  | running => exact hrunning
  | done outcome => exact hdone outcome now
  | dropped => exact absurd rfl he

section Going

variable (programs : Programs) (job : Job) (composer : Composer) (compiler : Path) (ws : Workspace)
  (now : Machine)

theorem canEnd_closing (outcome : Except Failure Result) (body : Option Body) {e : Errand Unit}
    (he : e ≠ .dropped) :
    CanEnd ⟨programs, job, composer, compiler, closingScope job.root ws outcome e now, body⟩ := by
  refine canEnd_of_done
    (fun e now => ⟨programs, job, composer, compiler, closingScope job.root ws outcome e now, body⟩)
    .workspace (fun _ => rfl) (fun _ => ⟨_, _, rfl⟩) (fun removed now => ?_) he now
  cases outcome <;> cases removed <;>
    exact .of_step .resume rfl rfl (canEnd_of_outcome rfl)

theorem canEnd_collected (bytecode : Except Failure Bytes) (sourceMap : Except Failure Text) :
    CanEnd (atWork programs job composer compiler ws now
      (.collecting (.done bytecode) (.done sourceMap))) := by
  have hleave : ∀ outcome, joinResults bytecode sourceMap = outcome →
      (atWork programs job composer compiler ws now
        (.collecting (.done bytecode) (.done sourceMap))).step .resume
      = some ⟨programs, job, composer, compiler, closingScope job.root ws outcome .queued now,
          some ⟨.collecting (.done bytecode) (.done sourceMap), .over⟩⟩ := by
    rintro outcome rfl
    cases bytecode <;> cases sourceMap <;> rfl
  exact .of_step .resume rfl (hleave _ rfl) (canEnd_closing _ _ _ _ _ _ _ _ (fun h => nomatch h))

theorem canEnd_collecting {reading : Errand Bytes} {composing : Errand Text}
    (hreading : reading ≠ .dropped) (hcomposing : composing ≠ .dropped) :
    CanEnd (atWork programs job composer compiler ws now (.collecting reading composing)) := by
  have hread : ∀ bytecode now,
      CanEnd (atWork programs job composer compiler ws now
        (.collecting (.done bytecode) composing)) :=
    fun bytecode now => canEnd_of_done
      (fun e now => atWork programs job composer compiler ws now (.collecting (.done bytecode) e))
      .composing (fun _ => rfl) (fun _ => ⟨_, _, rfl⟩)
      (fun sourceMap now => canEnd_collected _ _ _ _ _ now bytecode sourceMap) hcomposing now
  exact canEnd_of_done
    (fun e now => atWork programs job composer compiler ws now (.collecting e composing))
    .reading (fun _ => rfl) (fun _ => ⟨_, _, rfl⟩) hread hreading now

theorem canEnd_reaped (outcome : Except Failure Unit) :
    CanEnd (atWork programs job composer compiler ws now (.compiling (.reaped outcome))) := by
  cases outcome with
  | ok _ =>
      exact .of_step .resume rfl rfl
        (canEnd_collecting _ _ _ _ _ _ (fun h => nomatch h) (fun h => nomatch h))
  | error f =>
      exact .of_step .resume rfl rfl
        (canEnd_closing programs job composer compiler ws now (.error f) _ (fun h => nomatch h))

theorem canEnd_staging {e : Errand Unit} (he : e ≠ .dropped) :
    CanEnd (atWork programs job composer compiler ws now (.staging e)) := by
  refine canEnd_of_done
    (fun e now => atWork programs job composer compiler ws now (.staging e))
    .staging (fun _ => rfl) (fun _ => ⟨_, _, rfl⟩) (fun outcome now => ?_) he now
  cases outcome with
  | ok _ => exact .of_step .resume rfl rfl (.of_step (.reap none) rfl rfl (canEnd_reaped ..))
  | error f =>
      exact .of_step .resume rfl rfl
        (canEnd_closing programs job composer compiler ws now (.error f) _ (fun h => nomatch h))

theorem canEnd_acquiring {e : Errand Workspace} (he : e ≠ .dropped) :
    CanEnd ⟨programs, job, composer, compiler, ⟨now, job.root, .acquiring, e, none, false⟩,
      none⟩ := by
  refine canEnd_of_done
    (fun e now => ⟨programs, job, composer, compiler, ⟨now, job.root, .acquiring, e, none, false⟩,
      none⟩)
    .workspace (fun _ => rfl) (fun _ => ⟨_, _, rfl⟩) (fun outcome now => ?_) he now
  cases outcome with
  | ok ws =>
      exact .of_step .resume rfl rfl
        (canEnd_staging programs job composer compiler ws now (fun h => nomatch h))
  | error f => exact .of_step .resume rfl rfl (canEnd_of_outcome rfl)

end Going

/-- An errand that does its action has not been dropped. -/
theorem Errand.Does.ne_dropped {α : Type} {x : Action α} {after : Machine} {e : Errand α}
    (h : e.Does x m after) : e ≠ .dropped := by
  rintro rfl
  exact nomatch h

/-- **A build that nobody cancels can always go on until it has ended.** -/
theorem Stands.canEnd (h : Stands programs job composer compiler m t) : CanEnd t := by
  cases h with
  | acquiring he => exact canEnd_acquiring _ _ _ _ _ he.ne_dropped
  | notAcquired _ => exact canEnd_of_outcome rfl
  | working _ hwork =>
      cases hwork with
      | staging he => exact canEnd_staging _ _ _ _ _ _ he.ne_dropped
      | compiling _ => exact .of_step (.reap none) rfl rfl (canEnd_reaped ..)
      | reaped _ _ => exact canEnd_reaped ..
      | collecting _ hreading hcomposing =>
          exact canEnd_collecting _ _ _ _ _ _ hreading.ne_dropped hcomposing.ne_dropped
  | closing _ _ _ he => exact canEnd_closing _ _ _ _ _ _ _ _ he.ne_dropped
  | ended _ _ => exact canEnd_of_outcome rfl

end HermesBundle.Build
